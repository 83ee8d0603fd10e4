import Mathlib.Tactic.Common

/-!
# The lifecycle state machine of the robot agent

The states, the events and the transition table of
{lit}`internal/agent/state_machine.go`.  {lit}`Trigger` holds the mutex for its whole
body, so it is one atomic operation.

Main results:

- Theorem {lit}`transitions_of_pipeline`: which events leave which state of an update.
- Theorem {lit}`transitions_leftover`: a state of an update accepts no event of another
  procedure.
-/

namespace OtaRobot.Agent

/-- The states of the agent. -/
inductive State where
  | idle
  | downloading
  | verifying
  | installing
  | rebooting
  | online
  | rollingBack
  | error
deriving DecidableEq, Repr

/-- Events of the state machine. -/
inductive Event where
  | bootOK
  | updateCommand
  | downloadOK
  | downloadFail
  | verifyOK
  | verifyFail
  | installOK
  | installFail
  | rebootOK
  | rollbackCommand
  | rollbackComplete
  | reset
deriving DecidableEq, Repr

/-- The text of a state, as it stands in the messages. -/
def State.text : State → String
  | .idle => "idle"
  | .downloading => "downloading"
  | .verifying => "verifying"
  | .installing => "installing"
  | .rebooting => "rebooting"
  | .online => "online"
  | .rollingBack => "rolling_back"
  | .error => "error"

/-- The texts of the events. -/
def Event.text : Event → String
  | .bootOK => "boot_ok"
  | .updateCommand => "cmd_update"
  | .downloadOK => "download_ok"
  | .downloadFail => "download_fail"
  | .verifyOK => "verify_ok"
  | .verifyFail => "verify_fail"
  | .installOK => "install_ok"
  | .installFail => "install_fail"
  | .rebootOK => "reboot_ok"
  | .rollbackCommand => "cmd_rollback"
  | .rollbackComplete => "rollback_done"
  | .reset => "reset"

/-- The table of valid transitions. -/
def transitions : State → Event → Option State
  | .idle, .bootOK => some .online
  | .idle, .updateCommand => some .downloading
  | .downloading, .downloadOK => some .verifying
  | .downloading, .downloadFail => some .error
  | .downloading, .verifyFail => some .error
  | .verifying, .verifyOK => some .installing
  | .verifying, .verifyFail => some .error
  | .installing, .installOK => some .rebooting
  | .installing, .installFail => some .error
  | .rebooting, .rebootOK => some .online
  | .online, .rollbackCommand => some .rollingBack
  | .online, .updateCommand => some .downloading
  | .rollingBack, .rollbackComplete => some .online
  | .rollingBack, .installFail => some .error
  | .error, .rollbackCommand => some .rollingBack
  | .error, .updateCommand => some .downloading
  | .error, .reset => some .online
  | _, _ => none

/-- {lit}`StateMachine`. -/
structure StateMachine where
  deviceID : String
  current : State := .idle
deriving DecidableEq, Repr

/-- What {lit}`OnChange` is told about an accepted event. -/
structure Change where
  prev : State
  next : State
  event : Event
deriving DecidableEq, Repr

/-- {lit}`Trigger`.  Its error is {lit}`nil` for an accepted event; the change stands
for the call of {lit}`OnChange`. -/
def StateMachine.trigger (sm : StateMachine) (event : Event) :
    Except String Change × StateMachine :=
  match transitions sm.current event with
  | none =>
      (.error ("[state_machine] device=" ++ sm.deviceID ++ ": event \"" ++ event.text ++
        "\" not allowed from state \"" ++ sm.current.text ++ "\""), sm)
  | some next => (.ok ⟨sm.current, next, event⟩, { sm with current := next })

/-- The change of an accepted event. -/
def accepted : Except String Change → Option Change
  | .error _ => none
  | .ok change => some change

/-- An event with a transition moves the machine. -/
theorem StateMachine.trigger_accepted {sm : StateMachine} {event : Event} {next : State}
    (h : transitions sm.current event = some next) :
    accepted (sm.trigger event).1 = some ⟨sm.current, next, event⟩ ∧
      (sm.trigger event).2.current = next := by
  simp [trigger, h, accepted]

/-- An event without a transition changes nothing. -/
theorem StateMachine.trigger_rejected {sm : StateMachine} {event : Event}
    (h : transitions sm.current event = none) :
    accepted (sm.trigger event).1 = none ∧ (sm.trigger event).2 = sm := by
  simp [trigger, h, accepted]

/-- An accepted event took the transition of the table. -/
theorem StateMachine.trigger_cases (sm : StateMachine) (event : Event) :
    (accepted (sm.trigger event).1 = none ∧ (sm.trigger event).2 = sm) ∨
      ∃ next, transitions sm.current event = some next ∧
        accepted (sm.trigger event).1 = some ⟨sm.current, next, event⟩ ∧
        (sm.trigger event).2.current = next := by
  cases h : transitions sm.current event with
  | none => exact Or.inl (trigger_rejected h)
  | some next => exact Or.inr ⟨next, rfl, trigger_accepted h⟩

/-- The state machine of an agent that has booted. -/
def StateMachine.booted (deviceID : String) : StateMachine :=
  ((StateMachine.mk deviceID .idle).trigger .bootOK).2

@[simp]
theorem StateMachine.booted_current (deviceID : String) :
    (StateMachine.booted deviceID).current = .online :=
  rfl

/-! ## The states of an update -/

/-- The states an accepted update command goes through. -/
def State.isPipeline : State → Bool
  | .downloading | .verifying | .installing | .rebooting => true
  | _ => false

/-- Events that only the procedure of an accepted update command triggers. -/
def Event.isStage : Event → Bool
  | .downloadOK | .downloadFail | .verifyOK | .verifyFail | .installOK | .installFail
  | .rebootOK => true
  | _ => false

/-- A state of an update accepts no event of another procedure. -/
theorem transitions_leftover {s : State} {event : Event} (hs : s.isPipeline = true)
    (hevent : event.isStage = false) : transitions s event = none := by
  cases s <;> cases event <;> simp_all [State.isPipeline, Event.isStage, transitions]

/-- Only an update command leads into the states of an update from outside. -/
theorem transitions_of_pipeline {s next : State} {event : Event}
    (hs : s.isPipeline = false) (hnext : next.isPipeline = true)
    (h : transitions s event = some next) : event = .updateCommand ∧ next = .downloading := by
  cases s <;> cases event <;> simp_all [State.isPipeline, transitions] <;> subst next <;>
    simp_all

end OtaRobot.Agent
