import Mathlib.Logic.Function.Basic
import OtaRobot.Agent.Switching
import OtaRobot.ControlPlane

/-!
# The composed system

The control plane and one agent for each robot, connected by the MQTT topics of the
robots.  A topic delivers in order and forges nothing; how long a message stays in it is
open.  A command may be delivered again while the handler of an earlier delivery is
running.

Who caused what is recorded as history, which no step of the code reads: the command a
handler was started for with the deployment it was published for, which handlers were
started by a repeated delivery, and which handler sent the report a callback handles.

Main results:

- Theorems {lit}`step_plane`, {lit}`step_deliver`, {lit}`step_redeliver`, {lit}`step_agent`,
  {lit}`step_progress` and {lit}`step_error`: everything one step can do.
-/

namespace OtaRobot.System

open Transition

/-! ## Messages -/

/-- A command in a topic, with the deployment it was published for. -/
structure Packet where
  onBehalfOf : DeploymentID
  cmd : Command
deriving DecidableEq, Repr

/-- What the agent reads of a command: the {lit}`reason` of a rollback is not parsed. -/
def Packet.parsed (packet : Packet) : Agent.Command :=
  match packet.cmd with
  | .update cmd =>
      { action := "update"
        version := cmd.version
        hwModel := cmd.hwModel
        downloadURL := cmd.downloadURL
        sha256Checksum := cmd.sha256Checksum
        signature := cmd.signature }
  | .rollback version _ => { action := "rollback", version := version }

/-- A report in a topic as the control plane parses it, with the handler that sent it. -/
structure Report (ε : Type) where
  sender : Nat
  event : ε
deriving DecidableEq, Repr

/-! ## States -/

/-- The control plane, the robots and the messages under way. -/
structure State where
  plane : ControlPlane.Config
  agents : DeviceID → Agent.Config
  commands : DeviceID → List Packet
  progress : DeviceID → List (Report DeviceProgressEvent)
  errors : DeviceID → List (Report DeviceErrorEvent)
  packets : DeviceID → Nat → Option Packet
  copies : DeviceID → Nat → Bool
  senders : Nat → Option (DeviceID × Nat)

/-- A step of the control plane or of a robot, or the delivery of a message. -/
inductive Label where
  | plane (l : ControlPlane.Label)
  | deliver (d : DeviceID) (i : Nat)
  | redeliver (d : DeviceID) (j i : Nat)
  | agent (d : DeviceID) (i : Nat) (x : Agent.Choice)
  | progress (d : DeviceID) (i : Nat)
  | error (d : DeviceID) (i : Nat)
deriving DecidableEq, Repr

/-- All robots have booted, and no message is under way. -/
def start (procs : DeviceID → Agent.Process) (robots : DeviceID → Agent.Robot) (db : Db) :
    State where
  plane := ControlPlane.start db
  agents d := Agent.start (procs d) (robots d)
  commands _ := []
  progress _ := []
  errors _ := []
  packets _ _ := none
  copies _ _ := false
  senders _ := none

/-! ## Steps -/

/-- The callbacks of reports are started by a delivery only. -/
def startsCallback : ControlPlane.Label → Bool
  | .spawn _ (.progress _) | .spawn _ (.error _) => true
  | _ => false

/-- The command a step of the control plane hands to the broker. -/
def sentCommand (c : ControlPlane.Config) : ControlPlane.Label → Option (DeviceID × Packet)
  | .spawn _ _ => none
  | .step i x =>
      match c.thread i with
      | some (_, .call (.publishCommand id d cmd) _) =>
          if x.fault then none else some (d, ⟨id, cmd⟩)
      | _ => none

/-- The operation a goroutine of an agent executes next. -/
def nextOp (c : Agent.Config) (i : Nat) : Option Agent.Op :=
  match c.thread i with
  | some (_, .call op _) => some op
  | _ => none

/-- The progress report an operation sends, if it does. -/
def sentProgress (d : DeviceID) (i : Nat) : Option Agent.Op → Option (Report DeviceProgressEvent)
  | some (.publishProgress update) =>
      some ⟨i, { deviceID := d, status := update.status, progress := update.progress }⟩
  | _ => none

/-- The error report an operation sends, if it does. -/
def sentError (d : DeviceID) (i : Nat) : Option Agent.Op → Option (Report DeviceErrorEvent)
  | some (.publishError text) => some ⟨i, { deviceID := d, error := text }⟩
  | _ => none

/-- Append a message to the topic of a robot. -/
def send {γ : Type} (topics : DeviceID → List γ) : Option (DeviceID × γ) → DeviceID → List γ
  | none => topics
  | some (d, m) => Function.update topics d (topics d ++ [m])

/-- The handler is running. -/
def unfinished (c : Agent.Config) (i : Nat) : Bool :=
  match c.thread i with
  | some (_, .call _ _) => true
  | _ => false

/-- The agent of a robot starts a handler for a command. -/
def startHandler (procs : DeviceID → Agent.Process) (s : State) (d : DeviceID) (i : Nat)
    (packet : Packet) : Option State :=
  (Agent.step (procs d) (s.agents d) (.spawn i (.command packet.parsed))).map fun c =>
    { s with
      agents := Function.update s.agents d c
      packets := Function.update s.packets d (Function.update (s.packets d) i (some packet)) }

/-- The control plane starts a callback for a report. -/
def startCallback (s : State) (d : DeviceID) (i sender : Nat) (call : Call) :
    Option State :=
  (ControlPlane.step s.plane (.spawn i call)).map fun plane =>
    { s with plane, senders := Function.update s.senders i (some (d, sender)) }

/-- One step of the composed system. -/
def step (procs : DeviceID → Agent.Process) (s : State) : Label → Option State
  | .plane l =>
      if startsCallback l then none
      else
        (ControlPlane.step s.plane l).map fun plane =>
          { s with plane, commands := send s.commands (sentCommand s.plane l) }
  | .deliver d i =>
      match s.commands d with
      | [] => none
      | packet :: rest =>
          (startHandler procs s d i packet).map fun s' =>
            { s' with commands := Function.update s.commands d rest }
  | .redeliver d j i =>
      match s.packets d j with
      | none => none
      | some packet =>
          if unfinished (s.agents d) j then
            (startHandler procs s d i packet).map fun s' =>
              { s' with
                copies := Function.update s.copies d (Function.update (s.copies d) i true) }
          else none
  | .agent d i x =>
      (Agent.step (procs d) (s.agents d) (.step i x)).map fun c =>
        { s with
          agents := Function.update s.agents d c
          progress := send s.progress
            ((sentProgress d i (nextOp (s.agents d) i)).map fun m => (d, m))
          errors := send s.errors
            ((sentError d i (nextOp (s.agents d) i)).map fun m => (d, m)) }
  | .progress d i =>
      match s.progress d with
      | [] => none
      | report :: rest =>
          (startCallback s d i report.sender (.progress report.event)).map fun s' =>
            { s' with progress := Function.update s.progress d rest }
  | .error d i =>
      match s.errors d with
      | [] => none
      | report :: rest =>
          (startCallback s d i report.sender (.error report.event)).map fun s' =>
            { s' with errors := Function.update s.errors d rest }

/-! ## What a step does -/

section

variable {procs : DeviceID → Agent.Process} {s s' : State} {d : DeviceID} {i : Nat}

/-- The control plane has executed one operation, or started a thread. -/
theorem step_plane {l : ControlPlane.Label} (h : step procs s (.plane l) = some s') :
    startsCallback l = false ∧ ∃ plane, ControlPlane.step s.plane l = some plane ∧
      s' = { s with plane, commands := send s.commands (sentCommand s.plane l) } := by
  simp only [step] at h
  split at h
  · cases h
  · rename_i hcallback
    obtain ⟨plane, hplane, rfl⟩ := Option.map_eq_some_iff.mp h
    exact ⟨by simpa using hcallback, plane, hplane, rfl⟩

/-- The oldest command of a topic is handled. -/
theorem step_deliver (h : step procs s (.deliver d i) = some s') :
    ∃ packet rest c, s.commands d = packet :: rest ∧
      Agent.step (procs d) (s.agents d) (.spawn i (.command packet.parsed)) = some c ∧
      s' = { s with
        agents := Function.update s.agents d c
        packets := Function.update s.packets d (Function.update (s.packets d) i (some packet))
        commands := Function.update s.commands d rest } := by
  simp only [step] at h
  split at h
  · cases h
  · rename_i packet rest htopic
    obtain ⟨s₁, hstart, rfl⟩ := Option.map_eq_some_iff.mp h
    obtain ⟨c, hc, rfl⟩ := Option.map_eq_some_iff.mp hstart
    exact ⟨packet, rest, c, htopic, hc, rfl⟩

/-- A command that is being handled is handled once more. -/
theorem step_redeliver {j : Nat} (h : step procs s (.redeliver d j i) = some s') :
    ∃ packet c, s.packets d j = some packet ∧ unfinished (s.agents d) j = true ∧
      Agent.step (procs d) (s.agents d) (.spawn i (.command packet.parsed)) = some c ∧
      s' = { s with
        agents := Function.update s.agents d c
        packets := Function.update s.packets d (Function.update (s.packets d) i (some packet))
        copies := Function.update s.copies d (Function.update (s.copies d) i true) } := by
  simp only [step] at h
  split at h
  · cases h
  · rename_i packet hpacket
    split at h
    · rename_i hrunning
      obtain ⟨s₁, hstart, rfl⟩ := Option.map_eq_some_iff.mp h
      obtain ⟨c, hc, rfl⟩ := Option.map_eq_some_iff.mp hstart
      exact ⟨packet, c, hpacket, hrunning, hc, rfl⟩
    · cases h

/-- A goroutine of an agent has executed one operation; what it published is in the
topic. -/
theorem step_agent {x : Agent.Choice} (h : step procs s (.agent d i x) = some s') :
    ∃ c, Agent.step (procs d) (s.agents d) (.step i x) = some c ∧
      s' = { s with
        agents := Function.update s.agents d c
        progress := send s.progress
          ((sentProgress d i (nextOp (s.agents d) i)).map fun m => (d, m))
        errors := send s.errors
          ((sentError d i (nextOp (s.agents d) i)).map fun m => (d, m)) } := by
  obtain ⟨c, hc, rfl⟩ := Option.map_eq_some_iff.mp h
  exact ⟨c, hc, rfl⟩

/-- The oldest progress report of a topic is handled. -/
theorem step_progress (h : step procs s (.progress d i) = some s') :
    ∃ report rest plane, s.progress d = report :: rest ∧
      ControlPlane.step s.plane (.spawn i (.progress report.event)) = some plane ∧
      s' = { s with
        plane
        senders := Function.update s.senders i (some (d, report.sender))
        progress := Function.update s.progress d rest } := by
  simp only [step] at h
  split at h
  · cases h
  · rename_i report rest htopic
    obtain ⟨s₁, hstart, rfl⟩ := Option.map_eq_some_iff.mp h
    obtain ⟨plane, hplane, rfl⟩ := Option.map_eq_some_iff.mp hstart
    exact ⟨report, rest, plane, htopic, hplane, rfl⟩

/-- The oldest error report of a topic is handled. -/
theorem step_error (h : step procs s (.error d i) = some s') :
    ∃ report rest plane, s.errors d = report :: rest ∧
      ControlPlane.step s.plane (.spawn i (.error report.event)) = some plane ∧
      s' = { s with
        plane
        senders := Function.update s.senders i (some (d, report.sender))
        errors := Function.update s.errors d rest } := by
  simp only [step] at h
  split at h
  · cases h
  · rename_i report rest htopic
    obtain ⟨s₁, hstart, rfl⟩ := Option.map_eq_some_iff.mp h
    obtain ⟨plane, hplane, rfl⟩ := Option.map_eq_some_iff.mp hstart
    exact ⟨report, rest, plane, htopic, hplane, rfl⟩

end

/-- A message in a topic was there before, or has just been sent to this topic. -/
theorem mem_send {γ : Type} {topics : DeviceID → List γ} {sent : Option (DeviceID × γ)}
    {d : DeviceID} {m : γ} (h : m ∈ send topics sent d) : m ∈ topics d ∨ sent = some (d, m) := by
  cases sent with
  | none => exact Or.inl h
  | some dm =>
      obtain ⟨d', m'⟩ := dm
      by_cases hd : d = d'
      · subst hd
        rw [send, Function.update_self, List.mem_append, List.mem_singleton] at h
        rcases h with h | rfl
        · exact Or.inl h
        · exact Or.inr rfl
      · rw [send, Function.update_of_ne hd] at h
        exact Or.inl h

/-! ## Schedules -/

/-- A database with one released firmware, the empty image with the signature {lit}`sig`,
and the given robots, all of them online. -/
def releasedDb (robots : List DeviceID) (h : robots.Nodup) : Db :=
  { ControlPlane.fleetDb robots h with
    firmware := Table.single
      { id := 0
        version := "2.0.0"
        storageKey := "fw"
        sha256Checksum := Agent.hexEncode Agent.emptyDigest
        ecdsaSignature := some "c2ln" } }

/-- The control plane executes {lit}`n` operations of a request it has accepted. -/
def request (i : Nat) (call : Call) (n : Nat) : List Label :=
  (ControlPlane.startCall i call n).map Label.plane

/-- A handler of a robot executes {lit}`n` more operations; the download succeeds. -/
def handle (d : DeviceID) (i n : Nat) : List Label :=
  List.replicate n (.agent d i { response := some ⟨200, some []⟩ })

/-- The callback of the oldest progress report of a robot executes {lit}`n` operations. -/
def reportProgress (d : DeviceID) (i n : Nat) : List Label :=
  .progress d i :: (ControlPlane.resumeCall i n).map Label.plane

/-- A rollout to the whole fleet, the only robot of which has received its command. -/
def updateUnderWay : List Label :=
  request 0 (.createDeployment (ControlPlane.rolloutRequest "full")) 10 ++ [.deliver "r1" 0]

end OtaRobot.System
