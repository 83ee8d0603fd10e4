import OtaRobot.Agent.Pipeline
import OtaRobot.Library.Rest

/-!
# The agent at rest

What a handler has begun it ends: an update that has been accepted leaves the states of an
update again, a rollback leaves its state, and the status {lit}`updating` is replaced.  The last
two are not undone by the handler alone when others interfere, but then somebody else did it.

Main results:

- Theorem {lit}`body_settles`: every handler ends what it has begun.
- Theorem {lit}`at_rest`: an agent at rest accepts the next update and the next rollback.
-/

namespace OtaRobot.Agent

open Prog Transition

/-! ## Debts of a goroutine -/

/-- What a goroutine has begun: the point of its update, its rollback, its announcement. -/
structure Debt where
  stage : Option State := none
  rolling : Bool := false
  updating : Bool := false
deriving DecidableEq, Repr

/-- What a handler still owes after an operation. -/
def Debt.next (g : Debt) : (op : Op) → op.Ret → Debt
  | .trigger event, r =>
      { g with
        stage := stageAfter g.stage ⟨event, accepted r⟩
        rolling :=
          if event = .rollbackCommand then true
          else if event = .rollbackComplete then false
          else g.rolling }
  | .setStatus status, _ => { g with updating := status = "updating" }
  | _, _ => g

/-- The statuses of the handlers. -/
def handlerStatuses : List String :=
  ["updating", "online", "error"]

/-- A handler writes the statuses it may write. -/
def debtDiscipline : Discipline Op.Ret Debt where
  allowed _ op := ∀ status, op = .setStatus status → status ∈ handlerStatuses
  rely _ _ _ := True
  next := Debt.next

/-- The procedure runs from {lit}`g` to its end, where nothing is owed. -/
abbrev Settles {α : Type} (g : Debt) (m : Handler α) : Prop :=
  Obeys debtDiscipline (fun g' _ => g' = {}) g m

/-- The operation neither triggers an event nor sets the status. -/
def Op.isDebtFree : Op → Bool
  | .trigger _ | .setStatus _ => false
  | _ => true

/-- No operation of the procedure changes what is owed. -/
abbrev DebtFree {α : Type} (m : Handler α) : Prop :=
  Always (fun _ _ => True) (fun op => op.isDebtFree = true) m

/-- Such an operation is always allowed. -/
theorem allowed_of_debtFree {g : Debt} {op : Op} (h : op.isDebtFree = true) :
    debtDiscipline.allowed g op := by
  rintro status rfl
  simp [Op.isDebtFree] at h

/-- Such an operation changes nothing that is owed. -/
theorem next_of_debtFree {g : Debt} {op : Op} (r : op.Ret) (h : op.isDebtFree = true) :
    g.next op r = g := by
  cases op <;> first | rfl | simp [Op.isDebtFree] at h

/-- What is owed is owed by what follows. -/
theorem DebtFree.settles_bind {α β : Type} {m : Handler α} {f : α → Handler β} {g : Debt}
    (hm : DebtFree m) (hf : ∀ a, Settles g (f a)) : Settles g (m >>= f) :=
  hm.obeys_bind (fun _ _ _ => trivial) (fun _ => allowed_of_debtFree)
    (fun _ r hop => next_of_debtFree r hop) hf

/-- Who owes nothing and changes nothing ends without a debt. -/
theorem DebtFree.settles {α : Type} {m : Handler α} (hm : DebtFree m) : Settles {} m := by
  have hbind := hm.settles_bind (f := fun a => (Prog.done a : Handler α)) (g := {}) fun _ => rfl
  rwa [show (m >>= fun a => Prog.done a) = m from bind_done m] at hbind

/-- An operation that is free of debt by itself. -/
theorem perform_debtFree {op : Op} (h : op.isDebtFree = true) : DebtFree (perform op) :=
  ⟨h, fun _ _ => trivial⟩

/-- What is local is free of debt. -/
theorem Local.debtFree {α : Type} {m : Handler α} (h : Local m) : DebtFree m := by
  apply Always.mono (fun _ _ h => h) ?_ h
  intro op hop
  cases op <;> first | rfl | simp [Op.isLocal] at hop

/-- Reporting progress is free of debt. -/
theorem publishProgress_debtFree (progress : Nat) (status : String)
    (ecdsaMs sha256Ms : Option Nat) :
    DebtFree (publishProgressWithMeta progress status ecdsaMs sha256Ms) :=
  publishProgress_always rfl fun _ => rfl

/-- Reporting an error is free of debt. -/
theorem publishError_debtFree (text : String) : DebtFree (publishError text) :=
  perform_debtFree rfl

/-- A trigger moves the debt, whatever it answers. -/
theorem trigger_settles {β : Type} {f : Except String Change → Handler β} {g b : Debt}
    {event : Event} (hnext : ∀ r, g.next (.trigger event) r = b)
    (hf : ∀ r, Settles b (f r)) : Settles g (trigger event >>= f) := by
  refine ⟨fun status h => (by cases h), fun r _ => ?_⟩
  exact Obeys.of_eq (hnext r) (hf r)

/-- A status is written, and the rest settles what is owed then. -/
theorem setStatus_settles {β : Type} {f : Unit → Handler β} {g : Debt} {status : String}
    (hstatus : status ∈ handlerStatuses)
    (hf : Settles { g with updating := status = "updating" } (f ())) :
    Settles g (setStatus status >>= f) := by
  refine ⟨fun status' h => ?_, fun _ _ => hf⟩
  obtain rfl : status = status' := by simpa using h
  exact hstatus

/-- The last status settles everything else. -/
theorem setStatus_settles_end {status : String} (g : Debt) (hstatus : status ∈ handlerStatuses)
    (hne : status ≠ "updating") (hstage : g.stage = none) (hrolling : g.rolling = false) :
    Settles g (setStatus status) := by
  refine ⟨fun status' h => ?_, fun _ _ => ?_⟩
  · obtain rfl : status = status' := by simpa using h
    exact hstatus
  · have hnext : g.next (.setStatus status) () = {} := by
      simp [Debt.next, hne, hstage, hrolling]
    exact hnext

/-! ## The handlers end what they have begun -/

section

variable {u : Bool} {s : State}

/-- An aborted update settles its debt. -/
theorem abortUpdate_settles {event : Event} {text : Handler String}
    (hevent : event = .downloadFail ∨ event = .verifyFail) (htext : DebtFree text) :
    Settles ⟨some s, false, u⟩ (abortUpdate event text) := by
  apply trigger_settles (b := ⟨none, false, u⟩)
  · intro r
    rcases hevent with rfl | rfl <;> rfl
  intro _
  apply htext.settles_bind
  intro t
  apply (publishError_debtFree t).settles_bind
  intro _
  apply trigger_settles (b := ⟨none, false, u⟩)
  · intro r
    rfl
  intro _
  exact setStatus_settles_end _ (by simp [handlerStatuses]) (by simp) rfl rfl

/-- A failed installation settles its debt. -/
theorem failInstall_settles (text : String) :
    Settles ⟨some s, false, u⟩ (failInstall text) := by
  apply trigger_settles (b := ⟨none, false, u⟩)
  · intro r
    rfl
  intro _
  apply (publishError_debtFree text).settles_bind
  intro _
  exact setStatus_settles_end _ (by simp [handlerStatuses]) (by simp) rfl rfl

variable (p : Process) (cmd : Command)

/-- A completed update settles its debt. -/
theorem completeUpdate_settles : Settles ⟨some .installing, false, u⟩ (completeUpdate cmd) := by
  apply (publishProgress_debtFree _ _ _ _).settles_bind
  intro _
  apply trigger_settles (b := ⟨some .rebooting, false, u⟩)
  · intro r
    rfl
  intro _
  apply trigger_settles (b := ⟨none, false, u⟩)
  · intro r
    rfl
  intro _
  apply DebtFree.settles_bind (m := setCurrentVersion cmd.version) (perform_debtFree rfl)
  intro _
  apply setStatus_settles (by simp [handlerStatuses])
  exact (publishProgress_debtFree _ _ _ _).settles

/-- The installation settles its debt. -/
theorem installFirmware_settles (ecdsaMs : Nat) :
    Settles ⟨some .verifying, false, u⟩ (installFirmware p cmd ecdsaMs) := by
  apply trigger_settles (b := ⟨some .installing, false, u⟩)
  · intro r
    rfl
  intro _
  apply DebtFree.settles_bind (m := elapsedMs) (perform_debtFree rfl)
  intro sha256Ms
  apply (publishProgress_debtFree _ _ _ _).settles_bind
  intro _
  apply (publishProgress_debtFree _ _ _ _).settles_bind
  intro _
  apply (publishProgress_debtFree _ _ _ _).settles_bind
  intro _
  apply (publishProgress_debtFree _ _ _ _).settles_bind
  intro _
  dsimp only
  split
  · exact failInstall_settles _
  · split
    · apply DebtFree.settles_bind (perform_debtFree rfl)
      intro random
      split
      · exact failInstall_settles _
      · exact completeUpdate_settles cmd
    · exact completeUpdate_settles cmd

/-- The verification settles its debt. -/
theorem verifyFirmware_settles (pub : PublicKey) (data : Bytes) :
    Settles ⟨some .downloading, false, u⟩ (verifyFirmware p cmd pub data) := by
  apply trigger_settles (b := ⟨some .verifying, false, u⟩)
  · intro r
    rfl
  intro _
  dsimp only
  split
  · exact abortUpdate_settles (Or.inr rfl) trivial
  · split
    · exact abortUpdate_settles (Or.inr rfl) trivial
    · apply DebtFree.settles_bind (m := elapsedMs) (perform_debtFree rfl)
      intro ecdsaMs
      split
      · exact installFirmware_settles p cmd ecdsaMs
      · exact abortUpdate_settles (Or.inr rfl) trivial

/-- The download settles its debt. -/
theorem downloadFirmware_settles (pub : PublicKey) :
    Settles ⟨some .downloading, false, u⟩ (downloadFirmware p cmd pub) := by
  apply setStatus_settles (by simp [handlerStatuses])
  apply (publishProgress_debtFree _ _ _ _).settles_bind
  intro _
  apply DebtFree.settles_bind (perform_debtFree rfl)
  intro (response : Option Response)
  cases response with
  | none => exact abortUpdate_settles (Or.inl rfl) trivial
  | some response =>
      obtain ⟨statusCode, body⟩ := response
      dsimp only
      split
      · exact abortUpdate_settles (Or.inl rfl) trivial
      · cases body with
        | none => exact abortUpdate_settles (Or.inl rfl) trivial
        | some data => exact verifyFirmware_settles p cmd pub data

/-- The hardware and the key check settle their debt. -/
theorem checkCompatible_settles :
    Settles ⟨some .downloading, false, u⟩ (checkCompatible p cmd) := by
  unfold checkCompatible
  split
  · exact abortUpdate_settles (Or.inr rfl) trivial
  · split
    · exact abortUpdate_settles (Or.inr rfl) trivial
    · exact downloadFirmware_settles p cmd _

/-- The interlocks settle their debt. -/
theorem checkInterlocks_settles :
    Settles ⟨some .downloading, false, u⟩ (checkInterlocks p cmd) := by
  apply DebtFree.settles_bind (m := readActivity) (perform_debtFree rfl)
  intro activity
  split
  · exact abortUpdate_settles (Or.inr rfl) busyText_local.debtFree
  · apply lowBattery_local.debtFree.settles_bind
    intro low
    split
    · exact abortUpdate_settles (Or.inr rfl) lowBatteryText_local.debtFree
    · exact checkCompatible_settles p cmd

/-- An update that is not accepted has begun nothing. -/
theorem handleUpdate_settles : Settles {} (handleUpdate p cmd) := by
  refine ⟨fun status h => (by cases h), fun (r : Except String Change) _ => ?_⟩
  cases r with
  | error text =>
      apply DebtFree.settles
      apply Always.bind (perform_debtFree rfl)
      intro s
      exact publishError_debtFree _
  | ok change => exact checkInterlocks_settles p cmd

/-- A rollback settles its debt. -/
theorem handleRollback_settles : Settles {} (handleRollback cmd) := by
  apply setStatus_settles (by simp [handlerStatuses])
  apply trigger_settles (b := ⟨none, true, true⟩)
  · intro r
    rfl
  intro _
  apply (publishProgress_debtFree _ _ _ _).settles_bind
  intro _
  apply trigger_settles (b := ⟨none, false, true⟩)
  · intro r
    rfl
  intro _
  apply DebtFree.settles_bind (m := setCurrentVersion cmd.version) (perform_debtFree rfl)
  intro _
  apply setStatus_settles (by simp [handlerStatuses])
  exact (publishProgress_debtFree _ _ _ _).settles

/-- Every handler ends what it has begun. -/
theorem body_settles (t : Routine) : Settles {} (body p t) := by
  cases t with
  | heartbeat => exact (heartbeat_local p).debtFree.settles
  | command cmd =>
      show Settles {} (messagePubHandler p cmd)
      unfold messagePubHandler
      split
      · exact handleUpdate_settles p cmd
      · split
        · exact handleRollback_settles cmd
        · split
          · exact (applySettings_local cmd).debtFree.settles
          · rfl

end

/-! ## The invariant -/

/-- What goroutine {lit}`i` owes. -/
def debt (i : Nat) (c : Config) : Debt :=
  Machine.ghost debtDiscipline {} i c.trace

/-- A robot that is in a rollback, or says it is updating, has a goroutine that owes the end. -/
structure RestInvariant (c : Config) : Prop where
  pipeline : PipelineInvariant c
  settles : Machine.Disciplined (fun _ => debtDiscipline) (fun _ g => g = {}) (fun _ => {}) c
  rolling : c.Indebted (fun _ => debtDiscipline) (fun _ => {})
    (fun r => r.fsm.current = .rollingBack) (fun g => g.rolling = true)
  updating : c.Indebted (fun _ => debtDiscipline) (fun _ => {})
    (fun r => r.status = "updating") (fun g => g.updating = true)
  booted : c.store.fsm.current ≠ .idle
  status : c.store.status ∈ handlerStatuses

/-- Nobody owes anything at the start. -/
theorem restInvariant_start (p : Process) {r : Robot} (hr : r.status = "online") :
    RestInvariant (start p r) where
  pipeline := pipelineInvariant_start p r
  settles := Machine.disciplined_initial _ _ _ _
  rolling h := by simp [start, Machine.initial] at h
  updating h := by simp [start, Machine.initial, hr] at h
  booted := by simp [start, Machine.initial]
  status := by simp [start, Machine.initial, hr, handlerStatuses]

/-- A rollback command alone leads to RollingBack. -/
theorem transitions_rollingBack {s : State} {event : Event}
    (h : transitions s event = some .rollingBack) : event = .rollbackCommand := by
  cases s <;> cases event <;> simp [transitions] at h <;> rfl

/-- No event leads back to Idle. -/
theorem transitions_ne_idle {s : State} {event : Event} : transitions s event ≠ some .idle := by
  cases s <;> cases event <;> simp [transitions]

/-- Only the beginning of a rollback leads into one, and only its end is not accepted there. -/
theorem rolling_executed {r : Robot} {op : Op} {x : Choice} {g : Debt}
    (h : (exec r op x).2.fsm.current = .rollingBack) :
    (g.next op (exec r op x).1).rolling = true ∨
      r.fsm.current = .rollingBack ∧ ¬ g.rolling = true := by
  have hkeep : ∀ g' : Debt, g'.rolling = g.rolling → r.fsm.current = .rollingBack →
      g'.rolling = true ∨ r.fsm.current = .rollingBack ∧ ¬ g.rolling = true := by
    intro g' hg' hr
    by_cases hg : g.rolling = true
    · exact Or.inl (hg'.trans hg)
    · exact Or.inr ⟨hr, hg⟩
  cases op with
  | trigger event =>
      have hfsm : (r.fsm.trigger event).2.current = .rollingBack := h
      rcases r.fsm.trigger_cases event with ⟨-, hsame⟩ | ⟨next, htrans, -, hnext⟩
      · rw [hsame] at hfsm
        by_cases hcommand : event = .rollbackCommand
        · exact Or.inl (by simp [Debt.next, hcommand])
        · by_cases hcomplete : event = .rollbackComplete
          · subst hcomplete
            have haccepted : transitions r.fsm.current .rollbackComplete = some .online := by
              rw [hfsm]
              rfl
            have hmoved := (StateMachine.trigger_accepted haccepted).2
            rw [hsame, hfsm] at hmoved
            cases hmoved
          · exact hkeep _ (by simp [Debt.next, hcommand, hcomplete]) hfsm
      · rw [hnext] at hfsm
        subst hfsm
        exact Or.inl (by simp [Debt.next, transitions_rollingBack htrans])
  | _ => exact hkeep _ rfl h

/-- Who writes that the robot is updating owes another status. -/
theorem updating_executed {r : Robot} {op : Op} {x : Choice} {g : Debt}
    (h : (exec r op x).2.status = "updating") :
    (g.next op (exec r op x).1).updating = true ∨ r.status = "updating" ∧ ¬ g.updating = true := by
  have hkeep : ∀ g' : Debt, g'.updating = g.updating → r.status = "updating" →
      g'.updating = true ∨ r.status = "updating" ∧ ¬ g.updating = true := by
    intro g' hg' hr
    by_cases hg : g.updating = true
    · exact Or.inl (hg'.trans hg)
    · exact Or.inr ⟨hr, hg⟩
  cases op with
  | setStatus status =>
      have hstatus : status = "updating" := h
      exact Or.inl (by simp [Debt.next, hstatus])
  | _ => exact hkeep _ rfl h

/-- A booted robot stays booted. -/
theorem booted_executed {r : Robot} {op : Op} {x : Choice} (hr : r.fsm.current ≠ .idle) :
    (exec r op x).2.fsm.current ≠ .idle := by
  cases op with
  | trigger event =>
      show (r.fsm.trigger event).2.current ≠ .idle
      rcases r.fsm.trigger_cases event with ⟨-, hsame⟩ | ⟨next, htrans, -, hnext⟩
      · rwa [hsame]
      · rw [hnext]
        rintro rfl
        exact transitions_ne_idle htrans
  | _ => exact hr

/-- The status is one the handlers write. -/
theorem status_executed {r : Robot} {op : Op} {x : Choice} {g : Debt}
    (hr : r.status ∈ handlerStatuses) (hallowed : debtDiscipline.allowed g op) :
    (exec r op x).2.status ∈ handlerStatuses := by
  cases op with
  | setStatus status => exact hallowed status rfl
  | _ => exact hr

/-- A step keeps somebody in charge of every debt. -/
theorem restInvariant_step {p : Process} {c c' : Config} {l : Label} (hc : RestInvariant c)
    (h : step p c l = some c') : RestInvariant c' := by
  have haccept : ∀ (r : Robot) (t : Routine) (r' : Robot), (machine p).accept r t = some r' →
      r = r' := fun _ _ _ hr => Option.some.inj hr
  have hsettles : Machine.Disciplined (fun _ => debtDiscipline) (fun _ g => g = {}) (fun _ => {}) c' :=
    Machine.step_disciplined h hc.settles (body_settles p) fun _ _ _ _ _ _ _ => trivial
  refine ⟨pipelineInvariant_step hc.pipeline h, hsettles, ?_, ?_, ?_, ?_⟩
  · refine Machine.step_indebted h (fun r t r' hr hbad => by rw [haccept r t r' hr]; exact hbad)
      (fun i x t op k answer hs hbad => ?_) hc.rolling
    have heffect : exec c.store op x = (answer, c'.store) := hs.effect
    have hexecuted := @rolling_executed c.store op x (Machine.ghost debtDiscipline {} i c.trace)
      (by rw [heffect]; exact hbad)
    rwa [heffect] at hexecuted
  · refine Machine.step_indebted h (fun r t r' hr hbad => by rw [haccept r t r' hr]; exact hbad)
      (fun i x t op k answer hs hbad => ?_) hc.updating
    have heffect : exec c.store op x = (answer, c'.store) := hs.effect
    have hexecuted := @updating_executed c.store op x (Machine.ghost debtDiscipline {} i c.trace)
      (by rw [heffect]; exact hbad)
    rwa [heffect] at hexecuted
  · obtain ⟨i, t, -, hs⟩ | ⟨i, x, t, op, k, answer, -, hs⟩ := Machine.step_cases h
    · rw [← haccept _ _ _ hs.accepted]
      exact hc.booted
    · have heffect : exec c.store op x = (answer, c'.store) := hs.effect
      have hbooted := @booted_executed c.store op x hc.booted
      rwa [heffect] at hbooted
  · obtain ⟨i, t, -, hs⟩ | ⟨i, x, t, op, k, answer, -, hs⟩ := Machine.step_cases h
    · rw [← haccept _ _ _ hs.accepted]
      exact hc.status
    · have heffect : exec c.store op x = (answer, c'.store) := hs.effect
      have hstatus := status_executed (x := x) hc.status (hc.settles.allowed hs)
      rwa [heffect] at hstatus

theorem restInvariant_run {p : Process} {r : Robot} {ls : List Label} {c : Config}
    (hr : r.status = "online") (h : run (step p) (start p r) ls = some c) : RestInvariant c :=
  run_invariant (fun _ _ _ hc hstep => restInvariant_step hc hstep) (restInvariant_start p hr) h

/-- The point of an update a goroutine owes is the one it stands at. -/
theorem debt_stage (i : Nat) (c : Config) : (debt i c).stage = standing c i := by
  have hfold : ∀ (events : List Record) (g : Debt),
      (events.foldl (fun g e => g.next e.op e.ret) g).stage =
        (events.filterMap attemptOf).foldl stageAfter g.stage := by
    intro events
    induction events with
    | nil => intro g; rfl
    | cons e events ih =>
        intro g
        rw [List.foldl_cons, ih]
        obtain ⟨j, op, answer⟩ := e
        cases op <;> rfl
  exact hfold (Machine.eventsOf i c.trace) {}

/-! ## At rest -/

/-- The state machine and the status of an agent at rest. -/
structure Settled (r : Robot) : Prop where
  fsm : r.fsm.current = .online ∨ r.fsm.current = .error
  status : r.status = "online" ∨ r.status = "error"
  update : accepted (r.fsm.trigger .updateCommand).1 ≠ none
  rollback : accepted (r.fsm.trigger .rollbackCommand).1 ≠ none

/-- When nobody runs, nothing is owed. -/
theorem RestInvariant.settled {c : Config} (hc : RestInvariant c) (hrest : c.AtRest) :
    Settled c.store := by
  have hrolling : ¬ c.store.fsm.current = .rollingBack :=
    hc.rolling.not_bad hc.settles (fun _ g hg => by simp [hg]) hrest
  have hupdating : ¬ c.store.status = "updating" :=
    hc.updating.not_bad hc.settles (fun _ g hg => by simp [hg]) hrest
  have hpipeline : ¬ c.store.fsm.current.isPipeline = true := by
    intro hpipeline
    obtain ⟨i, s, hi⟩ := hc.pipeline.exclusive.owned hpipeline
    obtain ⟨cmd, q, hthread, -, -⟩ := hc.pipeline.inPipeline_iff.mpr hi
    obtain rfl := hrest i _ q hthread
    have hdebt : debt i c = {} := hc.settles.obeys i _ _ hthread
    rw [← debt_stage, hdebt] at hi
    cases hi
  have hfsm : c.store.fsm.current = .online ∨ c.store.fsm.current = .error := by
    have hbooted := hc.booted
    cases hstate : c.store.fsm.current <;>
      simp_all [State.isPipeline]
  refine ⟨hfsm, ?_, ?_, ?_⟩
  · have hstatus := hc.status
    simp only [handlerStatuses, List.mem_cons, List.not_mem_nil, or_false] at hstatus
    exact hstatus.resolve_left hupdating
  · rcases hfsm with hfsm | hfsm <;>
      simp [StateMachine.trigger, hfsm, transitions, accepted]
  · rcases hfsm with hfsm | hfsm <;>
      simp [StateMachine.trigger, hfsm, transitions, accepted]

/-- An agent that has booted can come to rest from every state it reaches, with no further
message.  Whenever it is at rest it is online or failed, says so, and accepts an update and a
rollback. -/
theorem at_rest {p : Process} {r : Robot} {ls : List Label} {c : Config}
    (hr : r.status = "online") (h : run (step p) (start p r) ls = some c) :
    (c.AtRest → Settled c.store) ∧
      ∀ x, ∃ ls' c', run (step p) c ls' = some c' ∧ (∀ l ∈ ls', ∃ i, l = .step i x) ∧
        c'.AtRest ∧ Settled c'.store := by
  refine ⟨(restInvariant_run hr h).settled, fun x => ?_⟩
  obtain ⟨ls', c', hrun, hsteps, hrest⟩ := Machine.exists_rest (machine p) c x
  exact ⟨ls', c', hrun, hsteps, hrest, (restInvariant_run hr (run_trans h hrun)).settled hrest⟩

/-- A rollback has arrived in the middle of an update. -/
theorem at_rest_rollback_during_update :
    ∃ c, run (step (robotProcess "r1")) (start (robotProcess "r1") (robot "r1"))
      (receive 0 (updateTo "2.0.0") 10 ++ receive 1 (rollbackTo "1.0.0") 4) = some c ∧
      c.store.fsm.current = .installing ∧
      ((c.AtRest → Settled c.store) ∧
        ∀ x, ∃ ls' c', run (step (robotProcess "r1")) c ls' = some c' ∧
          (∀ l ∈ ls', ∃ i, l = .step i x) ∧ c'.AtRest ∧ Settled c'.store) := by
  obtain ⟨c, h, hstate⟩ := endsWith_eq_true
    (show endsWith (step (robotProcess "r1")) (start (robotProcess "r1") (robot "r1"))
      (receive 0 (updateTo "2.0.0") 10 ++ receive 1 (rollbackTo "1.0.0") 4)
      (fun c => c.store.fsm.current = .installing) = true by decide +kernel)
  exact ⟨c, h, of_decide_eq_true hstate, at_rest rfl h⟩

end OtaRobot.Agent
