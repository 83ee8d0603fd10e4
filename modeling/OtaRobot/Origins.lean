import OtaRobot.Agent.Verification
import OtaRobot.Agent.Switching
import OtaRobot.Fleet
import OtaRobot.Vocabulary

/-!
# Where a version comes from

Versions travel in a circle: a robot reports its version, the registry records it, a deployment
keeps it as the previous one, and a rollback sends it back to the robot.  Nothing enters the circle
but the catalogue, and an image enters a robot only under the version of its own firmware.

Main results:

- Theorem {lit}`Agent.versionsKnown_step`: what a robot runs and reports has been sent to it.
- Theorem {lit}`Fleet.originsInvariant_step`: what a step keeps about versions under way.
- Theorem {lit}`Fleet.versions_known`: which versions robots run and the registry records.
- Theorem {lit}`Fleet.images_catalogued`: which images robots install.
-/

namespace OtaRobot

open Prog Transition

namespace Agent

/-! ## What a robot runs and reports -/

section

variable (K : String → Prop)

/-- The operation has a version in it. -/
def Op.carriesVersion : Op → Bool
  | .setCurrentVersion _ | .publishStatus _ => true
  | _ => false

/-- What an operation sets and reports is known. -/
def Passes : Op → Prop
  | .setCurrentVersion v => K v
  | .publishStatus update => K update.version
  | _ => True

/-- A version that is read is known. -/
def Tells : (op : Op) → op.Ret → Prop
  | .readVersion, (v : String) => K v
  | _, _ => True

/-- The goroutine is one of the heartbeat, or handles an update or a rollback to a known
version. -/
def Routine.Known : Routine → Prop
  | .heartbeat => True
  | .command cmd => (cmd.action = "update" ∨ cmd.action = "rollback") ∧ K cmd.version

/-- The procedure passes on known versions. -/
abbrev Spoken {α : Type} (m : Handler α) : Prop :=
  Always (Tells K) (Passes K) m

/-- An operation without a version passes on nothing. -/
theorem perform_spoken {op : Op} (h : op.carriesVersion = false) : Spoken K (perform op) := by
  refine ⟨?_, fun _ _ => trivial⟩
  cases op with
  | setCurrentVersion v => simp [Op.carriesVersion] at h
  | publishStatus update => simp [Op.carriesVersion] at h
  | _ => trivial

theorem chargeBattery_spoken : Spoken K chargeBattery := by
  apply Always.bind (perform_spoken K rfl)
  intro battery
  apply Always.bind (perform_spoken K rfl)
  intro _
  apply Always.bind (perform_spoken K rfl)
  intro battery'
  split
  · exact perform_spoken K rfl
  · trivial

theorem drainBattery_spoken : Spoken K drainBattery := by
  apply Always.bind (perform_spoken K rfl)
  intro battery
  split
  · apply Always.bind (perform_spoken K rfl)
    intro battery'
    exact perform_spoken K rfl
  · trivial

/-- The battery part of the telemetry passes on nothing. -/
theorem batteryTelemetry_spoken : Spoken K batteryTelemetry := by
  apply Always.bind (perform_spoken K rfl)
  intro isAGV
  split
  · apply Always.bind
    · apply Always.bind (perform_spoken K rfl)
      intro charging
      split
      · exact chargeBattery_spoken K
      · exact drainBattery_spoken K
    · intro _
      exact ⟨trivial, fun _ _ => ⟨trivial, fun _ _ => trivial⟩⟩
  · trivial

/-- The heartbeat reports the version it has read. -/
theorem heartbeat_spoken (p : Process) : Spoken K (heartbeat p) := by
  apply (batteryTelemetry_spoken K).bind
  intro battery
  refine ⟨trivial, fun noise _ => ?_⟩
  refine ⟨trivial, fun activity _ => ?_⟩
  refine ⟨trivial, fun version hversion => ?_⟩
  refine ⟨trivial, fun status _ => ?_⟩
  refine ⟨trivial, fun fsmState _ => ?_⟩
  refine ⟨trivial, fun timestamp _ => ?_⟩
  exact ⟨hversion, fun _ _ => trivial⟩

/-- A handler sets the version of its command. -/
theorem command_spoken (p : Process) {cmd : Command}
    (haction : cmd.action = "update" ∨ cmd.action = "rollback") (hversion : K cmd.version) :
    Spoken K (messagePubHandler p cmd) := by
  have hswitch : Always (fun _ _ => True) (fun op => ∀ v, op = .setCurrentVersion v →
      v = cmd.version) (messagePubHandler p cmd) := by
    apply (body_switches p (.command cmd)).always (G := fun _ => True)
    · exact fun _ _ _ _ => trivial
    · exact fun _ _ _ hallowed v hv => (hallowed.1 v hv).1
    · exact fun _ _ _ _ => trivial
    · trivial
  apply Always.mono (fun _ _ _ => trivial) ?_ (hswitch.and (command_ops p cmd haction))
  rintro op ⟨hset, hcommand⟩
  cases op with
  | setCurrentVersion v =>
      rw [hset v rfl]
      exact hversion
  | publishStatus update => simp [Op.isCommandOp] at hcommand
  | _ => trivial

/-- A goroutine for a known version passes on known ones. -/
theorem body_spoken (p : Process) {t : Routine} (ht : t.Known K) : Spoken K (body p t) := by
  cases t with
  | heartbeat => exact heartbeat_spoken K p
  | command cmd => exact command_spoken K p ht.1 ht.2

/-- The robot runs a known version, and its goroutines set and report no other one. -/
structure VersionsKnown (c : Config) : Prop where
  version : K c.store.currentVersion
  threads : c.AllThreads fun _ m => Spoken K m

variable {K}

/-- The robot starts with a known version. -/
theorem versionsKnown_start (p : Process) {r : Robot} (hr : K r.currentVersion) :
    VersionsKnown K (start p r) where
  version := hr
  threads := Machine.allThreads_initial _ _

/-- An operation answers in known versions and stores known ones. -/
theorem exec_spoken {r : Robot} {op : Op} (x : Choice) (hr : K r.currentVersion)
    (hop : Passes K op) : Tells K op (exec r op x).1 ∧ K (exec r op x).2.currentVersion := by
  cases op with
  | readVersion => exact ⟨hr, hr⟩
  | setCurrentVersion v => exact ⟨trivial, hop⟩
  | _ => exact ⟨trivial, hr⟩

/-- What a robot runs and reports has been sent to it. -/
theorem versionsKnown_step {p : Process} {c c' : Config} {l : Label} (hc : VersionsKnown K c)
    (hl : ∀ i t, l = .spawn i t → t.Known K) (h : step p c l = some c') : VersionsKnown K c' := by
  have hexec : ∀ i x t op k r, (machine p).Executed c c' i x t op k r →
      Tells K op r ∧ K c'.store.currentVersion := by
    intro i x t op k r hs
    have heffect : exec c.store op x = (r, c'.store) := hs.effect
    have hspoken := exec_spoken x hc.version (hc.threads i t _ hs.before).1
    rwa [heffect] at hspoken
  constructor
  · obtain ⟨i, t, -, hs⟩ | ⟨i, x, t, op, k, r, -, hs⟩ := Machine.step_cases h
    · rw [← Option.some.inj hs.accepted]
      exact hc.version
    · exact (hexec i x t op k r hs).2
  · apply Machine.step_allThreads h hc.threads
    · intro i t hspawn _
      exact body_spoken K p (hl i t hspawn)
    · intro i x t op k r _ hs hcall
      exact hcall.2 r (hexec i x t op k r hs).1

end

end Agent

/-! ## The registry -/

section

variable {V : Vocabulary} {db : Db}

/-- Deleting devices adds no version. -/
theorem Db.Speaks.deleteDevices (h : db.Speaks V) (p : Device → Bool) :
    (db.deleteDevices p).2.Speaks V := by
  refine ⟨h.firmware, fun i dev hdev => ?_, fun row hrow => ?_⟩
  · have hmem := Table.mem_of_find? hdev
    have hid : dev.id = i := Table.find?_key hdev
    exact hid ▸ h.known_of_mem (List.mem_filter.mp hmem).1
  · exact h.rows row (List.mem_filter.mp hrow).1

/-- Marking devices offline adds no version. -/
theorem Db.Speaks.markOffline (h : db.Speaks V) (stale : List DeviceID) :
    (db.markOffline stale).Speaks V := by
  refine ⟨h.firmware, fun i dev hdev => ?_, h.rows⟩
  have hfind : (db.markOffline stale).device i = (db.device i).map fun d =>
      if d.id ∈ stale ∧ d.status ≠ "offline" then { d with status := "offline" } else d :=
    Table.find?_modifyAll _ _ _ fun d => by split <;> rfl
  rw [hfind] at hdev
  obtain ⟨old, hold, rfl⟩ := Option.map_eq_some_iff.mp hdev
  split
  · exact h.devices i old hold
  · exact h.devices i old hold

/-- The device handlers write no version. -/
theorem DeviceHandlers.exec_speaks (h : db.Speaks V) (op : DeviceOp) (x : DeviceHandlers.Choice) :
    (DeviceHandlers.exec db op x).2.Speaks V := by
  cases op with
  | markOffline =>
      simp only [DeviceHandlers.exec]
      split
      · exact h
      · exact h.markOffline x.stale
  | deleteDevice id =>
      simp only [DeviceHandlers.exec]
      split
      · exact h
      · exact h.deleteDevices _
  | pruneOffline =>
      simp only [DeviceHandlers.exec]
      split
      · exact h
      · exact h.deleteDevices _
  | _ => exact h

/-- A known version is written into the registry. -/
theorem ReportStore.upsertDevice_speaks {s : ReportStore} (h : s.db.Speaks V)
    (p : UpsertDeviceParams) (now : Nat) (hp : V.knows p.id p.currentVersion) :
    (s.upsertDevice p now).db.Speaks V := by
  have htables := s.upsertDevice_tables p now
  refine ⟨htables.1.trans h.firmware, fun i dev hdev => ?_, ?_⟩
  · by_cases hi : i = p.id
    · subst hi
      have hversion := s.currentVersion_upsertDevice p now
      rw [ReportStore.currentVersion, hdev] at hversion
      have heq : dev.currentVersion = p.currentVersion := Option.some.inj hversion
      exact heq ▸ hp
    · have hrow := (s.row_upsertDevice p now).2 i hi
      rw [ReportStore.row, hdev, ReportStore.row] at hrow
      cases hold : s.db.device i with
      | none => simp [hold] at hrow
      | some old =>
          obtain ⟨rfl, -⟩ : dev = old ∧ _ := by simpa [hold] using hrow
          exact h.devices i dev hold
  · rw [htables.2.2]
    exact h.rows

end

namespace Fleet

/-! ## The invariant -/

/-- What is known when a run starts: the catalogue, and what the robot, the registry and the rows
say of the robot. -/
inductive Known (robots : DeviceID → Agent.Robot) (db : Db) (d : DeviceID) : String → Prop where
  | firmware (fw : FirmwareVersion) (h : fw ∈ db.firmware.rows) : Known robots db d fw.version
  | robot : Known robots db d (robots d).currentVersion
  | registry (dev : Device) (h : db.device d = some dev) : Known robots db d dev.currentVersion
  | previous (row : DeploymentDevice) (h : row ∈ db.deploymentDevices) (hd : row.deviceID = d)
      (v : String) (hv : row.previousVersion = some v) : Known robots db d v
  | fallback : Known robots db d "1.0.0"

/-- The versions that are known when a run starts. -/
def vocabulary (robots : DeviceID → Agent.Robot) (db : Db) : Vocabulary where
  catalogue := db.firmware
  knows := Known robots db
  firmware fw hfw _ := .firmware fw hfw
  fallback _ := .fallback

/-- The tables speak of them at the start. -/
theorem speaks_start (robots : DeviceID → Agent.Robot) (db : Db) :
    db.Speaks (vocabulary robots db) where
  firmware := rfl
  devices _ dev hdev := .registry dev hdev
  rows row hrow v hv := .previous row hrow rfl v hv

/-- The goroutine handles a command made of some firmware, or a rollback to a known version. -/
def Sent (V : Vocabulary) (d : DeviceID) : Agent.Routine → Prop
  | .heartbeat => True
  | .command cmd => (cmd.action = "update" ∧ ∃ fw ∈ V.catalogue.rows, cmd.version = fw.version ∧
      cmd.sha256Checksum = fw.sha256Checksum ∧ cmd.signature = Option.getD fw.ecdsaSignature "") ∨
        (cmd.action = "rollback" ∧ V.knows d cmd.version)

/-- A command that was sent names a known version. -/
theorem Sent.known {V : Vocabulary} {d : DeviceID} {t : Agent.Routine} (h : Sent V d t) :
    t.Known (V.knows d) := by
  cases t with
  | heartbeat => trivial
  | command cmd =>
      rcases h with ⟨haction, fw, hfw, hversion, -⟩ | ⟨haction, hversion⟩
      · exact ⟨Or.inl haction, hversion ▸ V.firmware fw hfw d⟩
      · exact ⟨Or.inr haction, hversion⟩

/-- A packet that may be sent is parsed as a command that was sent. -/
theorem sent_parsed {V : Vocabulary} {d : DeviceID} {packet : System.Packet}
    (h : V.Sends d packet.cmd) : Sent V d (.command packet.parsed) := by
  obtain ⟨id, cmd⟩ := packet
  cases cmd with
  | update cmd => exact Or.inl ⟨rfl, h⟩
  | rollback version reason => exact Or.inr ⟨rfl, h⟩

/-- Whatever is stored, under way or running speaks of known versions, and every agent has run by
itself. -/
structure OriginsInvariant (procs : DeviceID → Agent.Process) (robots : DeviceID → Agent.Robot)
    (V : Vocabulary) (s : State) : Prop where
  plane : ControlPlane.Spoken V s.system.plane
  agents : ∀ d, Agent.VersionsKnown (V.knows d) (s.system.agents d)
  commands : ∀ d, ∀ packet ∈ s.system.commands d, V.Sends d packet.cmd
  packets : ∀ d i packet, s.system.packets d i = some packet → V.Sends d packet.cmd
  statuses : ∀ d, ∀ m ∈ s.statuses d, m.deviceID = d ∧ V.knows d m.version
  handling : ∀ d, (s.system.agents d).AllThreads fun t _ => Sent V d t
  runs : ∀ d, ∃ ls, run (Agent.step (procs d)) (Agent.start (procs d) (robots d)) ls =
    some (s.system.agents d)

section

variable {procs : DeviceID → Agent.Process} {robots : DeviceID → Agent.Robot} {V : Vocabulary}
  {s s' : State}

/-- Nothing is under way at the start. -/
theorem originsInvariant_start (db : Db) :
    OriginsInvariant procs robots (vocabulary robots db) (start procs robots db) where
  plane := ControlPlane.spoken_start (speaks_start robots db)
  agents d := Agent.versionsKnown_start (procs d) .robot
  commands d packet hpacket := by simp [start, System.start] at hpacket
  packets d i packet hpacket := by simp [start, System.start] at hpacket
  statuses d m hm := by simp [start] at hm
  handling d := Machine.allThreads_initial _ _
  runs d := ⟨[], rfl⟩

/-! ## Steps of an agent -/

/-- What holds of each robot holds after one of them has made a step. -/
theorem agent_step {d : DeviceID} {l : Agent.Label} {c : Agent.Config}
    (hs : OriginsInvariant procs robots V s) (hl : ∀ i t, l = .spawn i t → Sent V d t)
    (h : Agent.step (procs d) (s.system.agents d) l = some c) (d' : DeviceID) :
    Agent.VersionsKnown (V.knows d') (Function.update s.system.agents d c d') ∧
      ((Function.update s.system.agents d c d').AllThreads fun t _ => Sent V d' t) ∧
        ∃ ls, run (Agent.step (procs d')) (Agent.start (procs d') (robots d')) ls =
          some (Function.update s.system.agents d c d') := by
  by_cases hd : d' = d
  · subst hd
    rw [Function.update_self]
    refine ⟨?_, ?_, ?_⟩
    · exact Agent.versionsKnown_step (hs.agents d') (fun i t hspawn => (hl i t hspawn).known) h
    · exact Machine.step_allThreads h (hs.handling d') (fun i t hspawn _ => hl i t hspawn)
        fun _ _ _ _ _ _ _ _ ht => ht
    · obtain ⟨ls, hrun⟩ := hs.runs d'
      exact ⟨ls ++ [l], run_trans hrun (by rw [run_cons h, run_nil])⟩
  · rw [Function.update_of_ne hd]
    exact ⟨hs.agents d', hs.handling d', hs.runs d'⟩

/-- A heartbeat that is sent reports a known version. -/
theorem sentStatus_known {d : DeviceID} {i : Nat} {m : StatusMessage}
    (hs : OriginsInvariant procs robots V s)
    (h : sentStatus d (System.nextOp (s.system.agents d) i) = some m) :
    m.deviceID = d ∧ V.knows d m.version := by
  cases hthread : (s.system.agents d).thread i with
  | none => simp [System.nextOp, hthread, sentStatus] at h
  | some tq =>
      obtain ⟨t, q⟩ := tq
      cases q with
      | done a => simp [System.nextOp, hthread, sentStatus] at h
      | call op k =>
          cases op with
          | publishStatus update =>
              obtain rfl : update.message d = m := by
                simpa [System.nextOp, hthread, sentStatus] using h
              exact ⟨rfl, ((hs.agents d).threads i t _ hthread).1⟩
          | _ => simp [System.nextOp, hthread, sentStatus] at h

/-- A command the control plane sends is known. -/
theorem sentCommand_known {l : ControlPlane.Label} {d : DeviceID} {packet : System.Packet}
    (hs : OriginsInvariant procs robots V s)
    (h : System.sentCommand s.system.plane l = some (d, packet)) : V.Sends d packet.cmd := by
  cases l with
  | spawn i call => simp [System.sentCommand] at h
  | step i x =>
      simp only [System.sentCommand] at h
      split at h
      · rename_i call id d' cmd k hthread
        split at h
        · cases h
        · obtain ⟨rfl, rfl⟩ : d' = d ∧ (⟨id, cmd⟩ : System.Packet) = packet := by simpa using h
          exact (hs.plane.threads i call _ hthread).1
      · cases h

/-! ## Steps -/

/-- A handler is started for a known command. -/
theorem originsInvariant_handler {d : DeviceID} {i : Nat} {packet : System.Packet}
    {c : Agent.Config} (hs : OriginsInvariant procs robots V s) (hpacket : V.Sends d packet.cmd)
    (h : Agent.step (procs d) (s.system.agents d) (.spawn i (.command packet.parsed)) = some c)
    {commands : DeviceID → List System.Packet}
    (hcommands : ∀ d', ∀ m ∈ commands d', m ∈ s.system.commands d')
    (copies : DeviceID → Nat → Bool) :
    OriginsInvariant procs robots V
      { s with
        system :=
          { s.system with
            agents := Function.update s.system.agents d c
            packets := Function.update s.system.packets d
              (Function.update (s.system.packets d) i (some packet))
            commands, copies } } := by
  have hagents := agent_step hs (l := .spawn i (.command packet.parsed))
    (fun j t hspawn => by
      obtain ⟨-, rfl⟩ := Machine.Label.spawn.inj hspawn
      exact sent_parsed hpacket) h
  refine ⟨hs.plane, fun d' => (hagents d').1, fun d' m hm => ?_, fun d' j packet' hj => ?_,
    hs.statuses, fun d' => (hagents d').2.1, fun d' => (hagents d').2.2⟩
  · exact hs.commands d' m (hcommands d' m hm)
  · by_cases hd : d' = d
    · subst hd
      dsimp only at hj
      rw [Function.update_self] at hj
      by_cases hji : j = i
      · rw [hji, Function.update_self] at hj
        obtain rfl := Option.some.inj hj
        exact hpacket
      · rw [Function.update_of_ne hji] at hj
        exact hs.packets d' j packet' hj
    · dsimp only at hj
      rw [Function.update_of_ne hd] at hj
      exact hs.packets d' j packet' hj

/-- Taking a message adds none. -/
theorem mem_of_popped {γ : Type} {topics : DeviceID → List γ} {d : DeviceID} {m : γ}
    {rest : List γ} (h : topics d = m :: rest) (d' : DeviceID) {m' : γ}
    (hm : m' ∈ Function.update topics d rest d') : m' ∈ topics d' := by
  by_cases hd : d' = d
  · subst hd
    rw [Function.update_self] at hm
    rw [h]
    exact List.mem_cons_of_mem m hm
  · rwa [Function.update_of_ne hd] at hm

/-- A step of the composed system. -/
theorem originsInvariant_system {l : System.Label} (hs : OriginsInvariant procs robots V s)
    (h : step procs robots s (.system l) = some s') : OriginsInvariant procs robots V s' := by
  obtain ⟨system, hsystem, rfl⟩ := step_system h
  cases l with
  | plane l =>
      obtain ⟨-, plane, hplane, rfl⟩ := System.step_plane hsystem
      refine ⟨ControlPlane.spoken_step hs.plane hplane, hs.agents, fun d packet hpacket => ?_,
        hs.packets, hs.statuses, hs.handling, hs.runs⟩
      rcases System.mem_send hpacket with hold | hnew
      · exact hs.commands d packet hold
      · exact sentCommand_known hs hnew
  | deliver d i =>
      obtain ⟨packet, rest, c, htopic, hc, rfl⟩ := System.step_deliver hsystem
      have hpacket := hs.commands d packet (by simp [htopic])
      exact originsInvariant_handler hs hpacket hc
        (fun d' m hm => mem_of_popped htopic d' hm) s.system.copies
  | redeliver d j i =>
      obtain ⟨packet, c, hj, -, hc, rfl⟩ := System.step_redeliver hsystem
      exact originsInvariant_handler hs (hs.packets d j packet hj) hc (fun _ _ hm => hm) _
  | agent d i x =>
      obtain ⟨c, hc, rfl⟩ := System.step_agent hsystem
      have hagents := agent_step hs (l := .step i x) (fun _ _ hspawn => by cases hspawn) hc
      refine ⟨hs.plane, fun d' => (hagents d').1, hs.commands, hs.packets, fun d' m hm => ?_,
        fun d' => (hagents d').2.1, fun d' => (hagents d').2.2⟩
      rcases System.mem_send hm with hold | hnew
      · exact hs.statuses d' m hold
      · obtain ⟨m', hm', heq⟩ := Option.map_eq_some_iff.mp hnew
        obtain ⟨rfl, rfl⟩ : d = d' ∧ m' = m := by simpa using heq
        exact sentStatus_known hs hm'
  | progress d i =>
      obtain ⟨report, rest, plane, -, hplane, rfl⟩ := System.step_progress hsystem
      exact ⟨ControlPlane.spoken_step hs.plane hplane, hs.agents, hs.commands, hs.packets,
        hs.statuses, hs.handling, hs.runs⟩
  | error d i =>
      obtain ⟨report, rest, plane, -, hplane, rfl⟩ := System.step_error hsystem
      exact ⟨ControlPlane.spoken_step hs.plane hplane, hs.agents, hs.commands, hs.packets,
        hs.statuses, hs.handling, hs.runs⟩

/-- The control plane on tables that speak of known versions. -/
theorem originsInvariant_withDb {db : Db} (hs : OriginsInvariant procs robots V s)
    (hdb : db.Speaks V) {statuses : DeviceID → List StatusMessage}
    (hstatuses : ∀ d, ∀ m ∈ statuses d, m ∈ s.statuses d) (handlers : DeviceHandlers.Config) :
    OriginsInvariant procs robots V
      { s with system := withDb s.system db, statuses, handlers } :=
  ⟨⟨hdb, hs.plane.goroutines, hs.plane.threads⟩, hs.agents, hs.commands, hs.packets,
    fun d m hm => hs.statuses d m (hstatuses d m hm), hs.handling, hs.runs⟩

/-- Every step keeps to known versions. -/
theorem originsInvariant_step {l : Label} (hs : OriginsInvariant procs robots V s)
    (hrobots : ∀ d, V.knows d (robots d).currentVersion)
    (h : step procs robots s l = some s') : OriginsInvariant procs robots V s' := by
  cases l with
  | system l => exact originsInvariant_system hs h
  | handler l =>
      obtain ⟨system', handlers', statuses'⟩ := s'
      obtain ⟨hstatuses, hsystem | ⟨op, x, hsystem⟩⟩ := step_handler h
      · obtain rfl : statuses' = s.statuses := hstatuses
        obtain rfl : system' = s.system := hsystem
        exact ⟨hs.plane, hs.agents, hs.commands, hs.packets, hs.statuses, hs.handling, hs.runs⟩
      · obtain rfl : statuses' = s.statuses := hstatuses
        obtain rfl : system' = withDb s.system _ := hsystem
        exact originsInvariant_withDb hs (DeviceHandlers.exec_speaks hs.plane.db op x)
          (fun _ _ hm => hm) _
  | heartbeat d i =>
      obtain ⟨c, hc, rfl⟩ := step_heartbeat h
      have hagents := agent_step hs (l := .spawn i .heartbeat)
        (fun j t hspawn => by
          obtain ⟨-, rfl⟩ := Machine.Label.spawn.inj hspawn
          trivial) hc
      exact ⟨hs.plane, fun d' => (hagents d').1, hs.commands, hs.packets, hs.statuses,
        fun d' => (hagents d').2.1, fun d' => (hagents d').2.2⟩
  | offline d graceful now =>
      obtain rfl := step_offline h
      refine ⟨hs.plane, hs.agents, hs.commands, hs.packets, fun d' m hm => ?_, hs.handling,
        hs.runs⟩
      dsimp only at hm
      rcases System.mem_send hm with hold | hnew
      · exact hs.statuses d' m hold
      · obtain ⟨rfl, rfl⟩ : d = d' ∧ offlineMessage procs robots s d graceful now = m := by
          simpa using hnew
        refine ⟨rfl, ?_⟩
        show V.knows d (if graceful then (s.system.agents d).store.currentVersion
          else (robots d).currentVersion)
        split
        · exact (hs.agents d).version
        · exact hrobots d
  | status d reading =>
      obtain ⟨m, rest, htopic, rfl⟩ := step_status h
      obtain ⟨hdevice, hversion⟩ := hs.statuses d m (by simp [htopic])
      apply originsInvariant_withDb hs ?_ (fun d' m' hm' => mem_of_popped htopic d' hm') _
      rw [receiveStatus, process_db]
      split
      · exact hs.plane.db
      · apply ReportStore.upsertDevice_speaks hs.plane.db
        show V.knows m.deviceID m.version
        rw [hdevice]
        exact hversion

theorem originsInvariant_run {db : Db} {ls : List Label}
    (h : run (step procs robots) (start procs robots db) ls = some s) :
    OriginsInvariant procs robots (vocabulary robots db) s :=
  run_invariant (fun _ _ _ hm hstep => originsInvariant_step hm (fun _ => Known.robot) hstep)
    (originsInvariant_start db) h

/-! ## Runs -/

/-- In every run, the version a robot runs and the one the registry records for it are the one the
robot has started with, one that was recorded for it before, the version of some firmware, or the
constant a rollback falls back to. -/
theorem versions_known {db : Db} {ls : List Label}
    (h : run (step procs robots) (start procs robots db) ls = some s) (d : DeviceID) :
    Known robots db d (s.system.agents d).store.currentVersion ∧
      ∀ dev, s.system.plane.store.db.device d = some dev →
        Known robots db d dev.currentVersion := by
  have hs := originsInvariant_run h
  exact ⟨(hs.agents d).version, hs.plane.db.devices d⟩

/-- The image is one of the firmware, for the key of the robot. -/
structure ImageOf (p : Agent.Process) (fw : FirmwareVersion) (data : Agent.Bytes) : Prop where
  checksum : Agent.hexEncode (p.crypto.sum256 data) = fw.sha256Checksum
  signature : ∃ pub, p.ecdsaPubKey = some pub ∧
    Agent.verifyECDSASignature p.crypto pub fw.sha256Checksum
      (Option.getD fw.ecdsaSignature "") = true

/-- In every run, a robot that has switched its version in an update has downloaded one image, and
some firmware of the catalogue has this version, this image and a signature the robot accepts. -/
theorem images_catalogued {db : Db} {ls : List Label}
    (h : run (step procs robots) (start procs robots db) ls = some s) {d : DeviceID}
    {e : Agent.Record} (he : e ∈ (s.system.agents d).trace) {v : String}
    (hswitch : e.op = .setCurrentVersion v) {cmd : Agent.Command} {q : Agent.Handler Unit}
    (hthread : (s.system.agents d).thread e.thread = some (.command cmd, q))
    (hupdate : cmd.action = "update") :
    ∃ fw ∈ db.firmware.rows, fw.version = v ∧
      ∃ data, Agent.downloads e.thread (s.system.agents d) = [some data] ∧
        ImageOf (procs d) fw data := by
  have hs := originsInvariant_run h
  obtain ⟨als, hagent⟩ := hs.runs d
  obtain ⟨hversion, data, hdownload, hverified⟩ :=
    Agent.switched_verified hagent hthread hupdate he rfl hswitch
  rcases hs.handling d e.thread _ q hthread with ⟨-, fw, hfw, hfwversion, hsum, hsig⟩ | ⟨haction, -⟩
  · have hchecksum := hverified.checksum.trans hsum
    obtain ⟨pub, hpub, hverify⟩ := hverified.signature
    rw [hchecksum, hsig] at hverify
    exact ⟨fw, hfw, hfwversion.symm.trans hversion.symm, data, hdownload, hchecksum, pub, hpub,
      hverify⟩
  · rw [hupdate] at haction
    simp at haction

end

/-! ## A run -/

/-- A robot installs an update, its report is handled, and its next heartbeat is recorded. -/
def installedAndReported : List Label :=
  (System.updateUnderWay ++ System.handle "r1" 0 27).map Label.system ++
    [.heartbeat "r1" 1] ++ (System.handle "r1" 1 8).map Label.system ++ [.status "r1" {}]

/-- The new version is in the registry. -/
def recorded (s : State) : Bool :=
  (s.system.plane.store.db.device "r1").any fun dev => dev.currentVersion = "2.0.0"

/-- One robot, and one firmware in the catalogue. -/
abbrev oneRobot (ls : List Label) : Option State :=
  run (step Agent.robotProcess Agent.robot)
    (start Agent.robotProcess Agent.robot (System.releasedDb ["r1"] (by decide))) ls

/-- The robot runs the new version, which is known. -/
theorem versions_known_installed :
    ∃ s, oneRobot installedAndReported = some s ∧ recorded s = true ∧
      Known Agent.robot (System.releasedDb ["r1"] (by decide)) "r1"
        (s.system.agents "r1").store.currentVersion := by
  obtain ⟨s, h, hrecorded⟩ := endsWith_eq_true
    (show endsWith (step Agent.robotProcess Agent.robot)
      (start Agent.robotProcess Agent.robot (System.releasedDb ["r1"] (by decide)))
      installedAndReported recorded = true by decide +kernel)
  exact ⟨s, h, hrecorded, (versions_known h "r1").1⟩

/-- Handler 0 has switched to the new version. -/
def switchedTo (s : State) : Bool :=
  (s.system.agents "r1").trace.any fun e => e.thread = 0 && e.op = .setCurrentVersion "2.0.0"

/-- The image is that of the firmware. -/
theorem images_catalogued_installed :
    ∃ s, oneRobot installedAndReported = some s ∧
      ∃ fw ∈ (System.releasedDb ["r1"] (by decide)).firmware.rows, fw.version = "2.0.0" ∧
        ∃ data, Agent.downloads 0 (s.system.agents "r1") = [some data] ∧
          ImageOf (Agent.robotProcess "r1") fw data := by
  obtain ⟨s, h, hend⟩ := endsWith_eq_true
    (show endsWith (step Agent.robotProcess Agent.robot)
      (start Agent.robotProcess Agent.robot (System.releasedDb ["r1"] (by decide)))
      installedAndReported
      (fun s => switchedTo s && ((s.system.agents "r1").thread 0).any fun t => t.1.isUpdate) = true
      by decide +kernel)
  rw [Bool.and_eq_true, switchedTo, List.any_eq_true, Option.any_eq_true] at hend
  obtain ⟨⟨e, he, hop⟩, ⟨t, q⟩, hthread, htag⟩ := hend
  obtain ⟨hid, hswitch⟩ : e.thread = 0 ∧ e.op = .setCurrentVersion "2.0.0" := by
    simpa using hop
  cases t with
  | heartbeat => simp [Agent.Routine.isUpdate] at htag
  | command cmd =>
      have himages := images_catalogued h he hswitch (by rw [hid]; exact hthread)
        (of_decide_eq_true htag)
      rw [hid] at himages
      exact ⟨s, h, himages⟩

end Fleet

end OtaRobot
