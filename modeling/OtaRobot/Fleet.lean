import OtaRobot.Agent.Commands
import OtaRobot.Mqtt.Status
import OtaRobot.Registry
import OtaRobot.System

/-!
# The fleet

The composed system with everything else that writes the registry: the status messages of the
robots, and the requests that list, delete and prune devices.

A status topic delivers in order, and its callback runs when the client has no other one running;
the only statement of it that concerns the tables here is the upsert, so it is one step.

Main results:

- Theorems {lit}`step_system`, {lit}`step_handler`, {lit}`step_heartbeat`, {lit}`step_offline` and
  {lit}`step_status`: everything one step can do.

Current gaps:

- A robot that has gone offline may come back, but its process does not start again.
- The catalogue of firmware does not change while robots are updated.
-/

namespace OtaRobot.Fleet

open Transition

/-- The composed system, the device handlers and the status messages under way. -/
structure State where
  system : System.State
  handlers : DeviceHandlers.Config
  statuses : DeviceID → List StatusMessage

/-- A step of one of them, or of the network. -/
inductive Label where
  | system (l : System.Label)
  | handler (l : DeviceHandlers.Label)
  | heartbeat (d : DeviceID) (i : Nat)
  | offline (d : DeviceID) (graceful : Bool) (now : String)
  | status (d : DeviceID) (reading : Reading)
deriving DecidableEq, Repr

/-- All robots have booted, and no message is under way. -/
def start (procs : DeviceID → Agent.Process) (robots : DeviceID → Agent.Robot) (db : Db) :
    State where
  system := System.start procs robots db
  handlers := Machine.initial db
  statuses _ := []

/-! ## Steps -/

/-- The heartbeat an operation sends, if it does. -/
def sentStatus (d : DeviceID) : Option Agent.Op → Option StatusMessage
  | some (.publishStatus update) => some (update.message d)
  | _ => none

/-- The heartbeat a step of the composed system sends. -/
def published (s : System.State) : System.Label → Option (DeviceID × StatusMessage)
  | .agent d i _ => (sentStatus d (System.nextOp (s.agents d) i)).map fun m => (d, m)
  | _ => none

/-- The message of a shutdown has the version of the robot, the will the broker keeps has the one
it connected with; {lit}`now` is the time at which either was written. -/
def offlineMessage (procs : DeviceID → Agent.Process) (robots : DeviceID → Agent.Robot)
    (s : State) (d : DeviceID) (graceful : Bool) (now : String) : StatusMessage :=
  let version :=
    if graceful then (s.system.agents d).store.currentVersion else (robots d).currentVersion
  { (procs d).offlineUpdate version now with deviceID := d }

/-- {lit}`handleStatus` on the tables. -/
def receiveStatus (reading : Reading) (db : Db) (m : StatusMessage) : Db :=
  (process true (fun _ => reading) { db } m.received).1.db

/-- The composed system on another database. -/
def withDb (s : System.State) (db : Db) : System.State :=
  { s with plane := Registry.withDb s.plane db }

/-- One step of the fleet. -/
def step (procs : DeviceID → Agent.Process) (robots : DeviceID → Agent.Robot) (s : State) :
    Label → Option State
  | .system l =>
      (System.step procs s.system l).map fun system =>
        { s with system, statuses := System.send s.statuses (published s.system l) }
  | .handler l =>
      (DeviceHandlers.machine.step { s.handlers with store := s.system.plane.store.db } l).map
        fun handlers => { s with system := withDb s.system handlers.store, handlers }
  | .heartbeat d i =>
      (Agent.step (procs d) (s.system.agents d) (.spawn i .heartbeat)).map fun c =>
        { s with system := { s.system with agents := Function.update s.system.agents d c } }
  | .offline d graceful now =>
      some
        { s with
          statuses := System.send s.statuses
            (some (d, offlineMessage procs robots s d graceful now)) }
  | .status d reading =>
      match s.statuses d with
      | [] => none
      | m :: rest =>
          if s.system.plane.store.mqttBusy then none
          else
            some
              { s with
                system := withDb s.system (receiveStatus reading s.system.plane.store.db m)
                statuses := Function.update s.statuses d rest }

/-! ## What a step does -/

section

variable {procs : DeviceID → Agent.Process} {robots : DeviceID → Agent.Robot} {s s' : State}
  {d : DeviceID}

/-- A step of the composed system, with the heartbeat it sends. -/
theorem step_system {l : System.Label} (h : step procs robots s (.system l) = some s') :
    ∃ system, System.step procs s.system l = some system ∧
      s' = { s with system, statuses := System.send s.statuses (published s.system l) } := by
  obtain ⟨system, hsystem, rfl⟩ := Option.map_eq_some_iff.mp h
  exact ⟨system, hsystem, rfl⟩

/-- A device request has been accepted, or has executed one operation on the tables. -/
theorem step_handler {l : DeviceHandlers.Label} (h : step procs robots s (.handler l) = some s') :
    s'.statuses = s.statuses ∧ (s'.system = s.system ∨
      ∃ op x, s'.system =
        withDb s.system (DeviceHandlers.exec s.system.plane.store.db op x).2) := by
  obtain ⟨handlers, hstep, rfl⟩ := Option.map_eq_some_iff.mp h
  refine ⟨rfl, ?_⟩
  obtain ⟨i, call, -, hs⟩ | ⟨i, x, call, op, k, r, -, hs⟩ := Machine.step_cases hstep
  · left
    have haccept : some s.system.plane.store.db = some handlers.store := hs.accepted
    dsimp only
    rw [withDb, ← Option.some.inj haccept]
    rfl
  · right
    have heffect : DeviceHandlers.exec s.system.plane.store.db op x = (r, handlers.store) :=
      hs.effect
    exact ⟨op, x, by rw [heffect]⟩

theorem step_heartbeat {i : Nat} (h : step procs robots s (.heartbeat d i) = some s') :
    ∃ c, Agent.step (procs d) (s.system.agents d) (.spawn i .heartbeat) = some c ∧
      s' = { s with system := { s.system with agents := Function.update s.system.agents d c } } := by
  obtain ⟨c, hc, rfl⟩ := Option.map_eq_some_iff.mp h
  exact ⟨c, hc, rfl⟩

theorem step_offline {graceful : Bool} {now : String}
    (h : step procs robots s (.offline d graceful now) = some s') :
    s' = { s with
      statuses :=
        System.send s.statuses (some (d, offlineMessage procs robots s d graceful now)) } :=
  (Option.some.inj h).symm

/-- A status message is taken and handled. -/
theorem step_status {reading : Reading} (h : step procs robots s (.status d reading) = some s') :
    ∃ m rest, s.statuses d = m :: rest ∧
      s' = { s with
        system := withDb s.system (receiveStatus reading s.system.plane.store.db m)
        statuses := Function.update s.statuses d rest } := by
  simp only [step] at h
  split at h
  · cases h
  · rename_i m rest htopic
    split at h
    · cases h
    · exact ⟨m, rest, htopic, (Option.some.inj h).symm⟩

end

end OtaRobot.Fleet
