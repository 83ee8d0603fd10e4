import OtaRobot.Broker
import OtaRobot.Origins

/-!
# What is on the wire

A robot acts on the text it receives, and the control plane records the text it receives.  The
broker's queues hold nothing but texts of messages of the fleet, so what is known of the versions
in those messages holds of the texts as their readers parse them.

Main results:

- Theorems {lit}`Refines.command_read`, {lit}`Refines.status_read`: a queued text is that of a
  message of the fleet.
- Theorem {lit}`payloads_truthful`: what the queued texts say.
-/

namespace OtaRobot.Broker

open Transition

/-! ## Queued texts -/

/-- Every text of the one list is read as some message of the other. -/
theorem read_of_mem {α β : Type} {R : α → β → Prop} {texts : List α} {messages : List β}
    (h : List.Forall₂ R texts messages) {text : α} (htext : text ∈ texts) :
    ∃ m ∈ messages, R text m := by
  induction h with
  | nil => simp at htext
  | @cons t m texts messages hread _ ih =>
      rcases List.mem_cons.mp htext with rfl | hrest
      · exact ⟨m, by simp, hread⟩
      · obtain ⟨m', hm', hread'⟩ := ih hrest
        exact ⟨m', by simp [hm'], hread'⟩

section

variable {procs : DeviceID → Agent.Process} {robots : DeviceID → Agent.Robot}
  {fleet : DeviceID → Bool} {reasonText : RollbackReason → String} {b : State}
  {s : Fleet.State} {d : DeviceID} {m : Publication}

/-- A text in the queue of a robot is that of a command under way to it. -/
theorem Refines.command_read (hR : Refines fleet b s) (hd : fleet d = true)
    (hm : m ∈ b.queue (.robot d)) :
    ∃ packet ∈ s.system.commands d, Agent.Command.ofText m.payload = some packet.parsed :=
  read_of_mem (hR.commands d hd) (List.mem_map_of_mem hm)

/-- A status text of a robot is that of one of its messages under way. -/
theorem Refines.status_read (hR : Refines fleet b s) (hd : fleet d = true)
    (hm : m ∈ b.queue (.backend .status)) (htopic : m.topic = reportTopic d .status) :
    ∃ message ∈ s.statuses d, StatusPayload.ofText m.payload = some message.parsed := by
  have hmem : m.payload ∈ payloadsOn (reportTopic d .status) (b.queue (.backend .status)) := by
    apply List.mem_map_of_mem
    simp [hm, htopic]
  obtain ⟨message, hmessage, hread⟩ := read_of_mem (hR.statuses d hd) hmem
  have hparsed : Json.ofText m.payload = some message.marshal := hread
  refine ⟨message, hmessage, ?_⟩
  rw [StatusPayload.ofText, hparsed, Option.bind_some, message.unmarshal_marshal]

/-- Every run with the broker has its run of the fleet. -/
theorem refines_run {db : Db} (hnamed : Named procs fleet) {ls : List Label}
    (h : run (step procs robots fleet reasonText) (start procs robots db) ls = some b) :
    ∃ s, Refines fleet b s ∧
      Fleet.OriginsInvariant procs robots (Fleet.vocabulary robots db) s := by
  obtain ⟨fls, s, -, hrun, hR⟩ := run_simulation
    (fun _ _ _ _ hR hstep => refines_step hnamed hR hstep) (refines_start fleet procs robots db) h
  exact ⟨s, hR, Fleet.originsInvariant_run hrun⟩

/-! ## What they say -/

/-- An update for some firmware of the catalogue, with its version, checksum and signature. -/
def Offers (catalogue : List FirmwareVersion) (cmd : Agent.Command) : Prop :=
  cmd.action = "update" ∧ ∃ fw ∈ catalogue, cmd.version = fw.version ∧
    cmd.sha256Checksum = fw.sha256Checksum ∧ cmd.signature = Option.getD fw.ecdsaSignature ""

/-- In every run with the broker, every text waiting for a robot is parsed by it as an update for
some firmware of the catalogue or as a rollback to a version known for this robot, and every status
text waiting in its topic is parsed by the control plane as a message of this robot with such a
version. -/
theorem payloads_truthful {db : Db} (hnamed : Named procs fleet) {ls : List Label}
    (h : run (step procs robots fleet reasonText) (start procs robots db) ls = some b)
    (hd : fleet d = true) :
    (∀ m ∈ b.queue (.robot d), ∃ cmd, Agent.Command.ofText m.payload = some cmd ∧
      (Offers db.firmware.rows cmd ∨
        (cmd.action = "rollback" ∧ Fleet.Known robots db d cmd.version))) ∧
    ∀ m ∈ b.queue (.backend .status), m.topic = reportTopic d .status →
      ∃ p, StatusPayload.ofText m.payload = some p ∧ p.deviceID = d ∧
        Fleet.Known robots db d p.version := by
  obtain ⟨s, hR, hs⟩ := refines_run hnamed h
  constructor
  · intro m hm
    obtain ⟨packet, hpacket, hread⟩ := hR.command_read hd hm
    have hsent : Fleet.Sent (Fleet.vocabulary robots db) d (.command packet.parsed) :=
      Fleet.sent_parsed (hs.commands d packet hpacket)
    exact ⟨packet.parsed, hread, hsent⟩
  · intro m hm htopic
    obtain ⟨message, hmessage, hread⟩ := hR.status_read hd hm htopic
    obtain ⟨hdevice, hversion⟩ := hs.statuses d message hmessage
    exact ⟨message.parsed, hread, hdevice, hversion⟩

end

/-- A rollout sends its command, and the robot, which has not read it yet, sends a heartbeat. -/
def commandAndHeartbeat : List Label :=
  (ControlPlane.startCall 0 (.createDeployment (ControlPlane.rolloutRequest "full")) 10).map
      Label.plane ++
    .heartbeat "r1" 0 :: List.replicate 8 (.agent "r1" 0 {})

/-- Both texts wait for their readers. -/
theorem payloads_truthful_waiting :
    ∃ b, run (step Agent.robotProcess Agent.robot onlyRobot fun _ => "")
        (start Agent.robotProcess Agent.robot (System.releasedDb ["r1"] (by decide)))
        commandAndHeartbeat = some b ∧
      (∃ m, b.queue (.robot "r1") = [m] ∧ ∃ cmd, Agent.Command.ofText m.payload = some cmd ∧
        (Offers (System.releasedDb ["r1"] (by decide)).firmware.rows cmd ∨
          (cmd.action = "rollback" ∧ Fleet.Known Agent.robot
            (System.releasedDb ["r1"] (by decide)) "r1" cmd.version))) ∧
      ∃ m, b.queue (.backend .status) = [m] ∧ ∃ p, StatusPayload.ofText m.payload = some p ∧
        p.deviceID = "r1" ∧ Fleet.Known Agent.robot (System.releasedDb ["r1"] (by decide)) "r1"
          p.version := by
  have hends : endsWith (step Agent.robotProcess Agent.robot onlyRobot fun _ => "")
      (start Agent.robotProcess Agent.robot (System.releasedDb ["r1"] (by decide)))
      commandAndHeartbeat (fun b => (b.queue (.robot "r1")).length = 1 &&
        (b.queue (.backend .status)).map Publication.topic = [reportTopic "r1" .status]) = true := by
    decide +kernel
  obtain ⟨b, hrun, htest⟩ := endsWith_eq_true hends
  obtain ⟨hcommand, htopic⟩ := Bool.and_eq_true_iff.mp htest
  obtain ⟨m, hm⟩ := List.length_eq_one_iff.mp (of_decide_eq_true hcommand)
  obtain ⟨m', hm', htopic'⟩ := List.map_eq_singleton_iff.mp (of_decide_eq_true htopic)
  have htexts := payloads_truthful named_onlyRobot hrun (d := "r1") rfl
  exact ⟨b, hrun, ⟨m, hm, htexts.1 m (by simp [hm])⟩, m', hm',
    htexts.2 m' (by simp [hm']) htopic'⟩

end OtaRobot.Broker
