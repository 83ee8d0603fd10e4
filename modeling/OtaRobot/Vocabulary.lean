import OtaRobot.Mqtt.Isolation
import OtaRobot.Rollout.Operations

/-!
# The versions the control plane speaks of

The control plane makes no version up.  It reads versions from the catalogue of firmware and from
the registry, copies them into the rows of deployments and back into the registry, and sends them
to the robots; a rollback without a recorded version falls back to a constant.

Main results:

- Theorem {lit}`Db.speaks_exec`: a statement answers in known versions and stores known ones.
- Theorem {lit}`ControlPlane.body_spoken`: a thread passes on what it has read.
- Theorem {lit}`ControlPlane.spoken_step`: the control plane keeps to known versions.
-/

namespace OtaRobot

open Prog

/-- The catalogue, and the versions that are known for each robot. -/
structure Vocabulary where
  catalogue : Table FirmwareVersion.id
  knows : DeviceID → String → Prop
  firmware : ∀ fw ∈ catalogue.rows, ∀ d, knows d fw.version
  fallback : ∀ d, knows d "1.0.0"

/-- The command is the one made of some firmware. -/
def Vocabulary.Sanctions (V : Vocabulary) (cmd : UpdateCommand) : Prop :=
  ∃ fw ∈ V.catalogue.rows, cmd.version = fw.version ∧ cmd.sha256Checksum = fw.sha256Checksum ∧
    cmd.signature = Option.getD fw.ecdsaSignature ""

/-- The command may be sent to the robot. -/
def Vocabulary.Sends (V : Vocabulary) (d : DeviceID) : Command → Prop
  | .update cmd => V.Sanctions cmd
  | .rollback version _ => V.knows d version

/-- The tables hold known versions. -/
structure Db.Speaks (db : Db) (V : Vocabulary) : Prop where
  firmware : db.firmware = V.catalogue
  devices : ∀ i dev, db.device i = some dev → V.knows i dev.currentVersion
  rows : ∀ row ∈ db.deploymentDevices, ∀ v, row.previousVersion = some v →
    V.knows row.deviceID v

/-! ## Operations -/

/-- What an operation writes and sends is known. -/
def Vocabulary.Passes (V : Vocabulary) : Op → Prop
  | .sql (.createDeploymentDevice p) => ∀ v, p.previousVersion = some v → V.knows p.deviceID v
  | .sql (.updateDeviceVersion d v) => V.knows d v
  | .publishCommand _ d cmd => V.Sends d cmd
  | .goRunCanary _ _ cmd => V.Sanctions cmd
  | _ => True

/-- What an operation reads is known. -/
def Vocabulary.Tells (V : Vocabulary) : (op : Op) → op.Ret → Prop
  | .sql (.getFirmwareVersion _), r => ∀ fw : FirmwareVersion, r = some fw → fw ∈ V.catalogue.rows
  | .sql (.getDevice _), r => ∀ dev : Device, r = some dev → V.knows dev.id dev.currentVersion
  | .sql .listDevices, r => ∀ devs : List Device, r = some devs →
      ∀ dev ∈ devs, V.knows dev.id dev.currentVersion
  | .sql (.listDeploymentDevices _), r => ∀ rows : List DeploymentDevice, r = some rows →
      ∀ row ∈ rows, ∀ v, row.previousVersion = some v → V.knows row.deviceID v
  | _, _ => True

/-- On known answers the procedure passes on known versions only. -/
abbrev Vocabulary.Spoken (V : Vocabulary) {α : Type} (p : Rollout α) : Prop :=
  Always V.Tells V.Passes p

/-- A procedure whose operations name no version passes on known ones only. -/
theorem Vocabulary.spoken_of_always (V : Vocabulary) {α : Type} {p : Rollout α} {Q : Op → Prop}
    (hp : Always AnyAnswer Q p) (hQ : ∀ op, Q op → V.Passes op) : V.Spoken p :=
  Always.mono (fun _ _ _ => trivial) hQ hp

/-! ## What one statement does -/

section

variable {V : Vocabulary} {db : Db}

/-- A deployment has no version in it. -/
theorem Db.Speaks.updateDeployment (h : db.Speaks V) (id : DeploymentID)
    (f : Deployment → Deployment) (hf : ∀ d, (f d).id = d.id) :
    (db.updateDeployment id f hf).Speaks V :=
  ⟨h.firmware, h.devices, h.rows⟩

/-- A new deployment has no version in it. -/
theorem Db.Speaks.createDeployment (h : db.Speaks V) (uuid : DeploymentID)
    (p : CreateDeploymentParams) : (db.createDeployment uuid p).2.Speaks V := by
  unfold Db.createDeployment
  split
  · exact ⟨h.firmware, h.devices, h.rows⟩
  · exact h

/-- A new row has a known version. -/
theorem Db.Speaks.createDeploymentDevice (h : db.Speaks V) {p : CreateDeploymentDeviceParams}
    (hp : ∀ v, p.previousVersion = some v → V.knows p.deviceID v) :
    (db.createDeploymentDevice p).2.Speaks V := by
  unfold Db.createDeploymentDevice
  split
  · refine ⟨h.firmware, h.devices, fun row hrow => ?_⟩
    rcases List.mem_append.mp hrow with hrow | hrow
    · exact h.rows row hrow
    · obtain rfl := List.mem_singleton.mp hrow
      exact hp
  · exact h

/-- The status of a row is no version. -/
theorem Db.Speaks.updateDeploymentDeviceStatus (h : db.Speaks V)
    (p : UpdateDeploymentDeviceStatusParams) :
    (db.updateDeploymentDeviceStatus p).2.Speaks V := by
  refine ⟨h.firmware, h.devices, fun row hrow => ?_⟩
  obtain ⟨old, hold, rfl⟩ := List.mem_map.mp hrow
  split
  · exact h.rows old hold
  · exact h.rows old hold

/-- A known version is written into the registry. -/
theorem Db.Speaks.updateDeviceVersion (h : db.Speaks V) {d : DeviceID} {v : String}
    (hv : V.knows d v) : (db.updateDeviceVersion d v).Speaks V := by
  refine ⟨h.firmware, fun i dev hdev => ?_, h.rows⟩
  rw [Db.device_updateDeviceVersion] at hdev
  split at hdev
  · rename_i hi
    obtain ⟨old, -, rfl⟩ := Option.map_eq_some_iff.mp hdev
    exact hi ▸ hv
  · exact h.devices i dev hdev

/-- The version in a row of the registry is known. -/
theorem Db.Speaks.known_of_mem (h : db.Speaks V) {dev : Device} (hdev : dev ∈ db.devices.rows) :
    V.knows dev.id dev.currentVersion :=
  h.devices dev.id dev (Table.find?_some_iff.mpr ⟨hdev, rfl⟩)

/-- A statement answers in known versions and stores known ones. -/
theorem Db.speaks_exec (h : db.Speaks V) (uuid : DeploymentID) {q : Query}
    (hq : V.Passes (.sql q)) :
    V.Tells (.sql q) (db.exec uuid q).1 ∧ (db.exec uuid q).2.Speaks V := by
  cases q with
  | createDeployment p => exact ⟨trivial, h.createDeployment uuid p⟩
  | createDeploymentDevice p => exact ⟨trivial, h.createDeploymentDevice hq⟩
  | updateDeploymentDeviceStatus p => exact ⟨trivial, h.updateDeploymentDeviceStatus p⟩
  | updateDeviceVersion d v => exact ⟨trivial, h.updateDeviceVersion hq⟩
  | updateDeploymentStatus | updateDeploymentPhase | incrementDeploymentSuccess
  | incrementDeploymentFailure => exact ⟨trivial, h.updateDeployment _ _ _⟩
  | getFirmwareVersion id =>
      refine ⟨fun fw hfw => ?_, h⟩
      rw [← h.firmware]
      exact Table.mem_of_find? hfw
  | getDevice id =>
      refine ⟨fun dev hdev => ?_, h⟩
      exact h.known_of_mem (Table.mem_of_find? hdev)
  | listDevices =>
      refine ⟨fun devs hdevs dev hdev => ?_, h⟩
      obtain rfl : db.listDevices = devs := Option.some.inj hdevs
      exact h.known_of_mem (List.mem_reverse.mp ((List.mem_insertionSort _).mp hdev))
  | listDeploymentDevices id =>
      refine ⟨fun rows hrows row hrow => ?_, h⟩
      obtain rfl : db.listDeploymentDevices id = rows := Option.some.inj hrows
      exact h.rows row (List.mem_filter.mp hrow).1
  | _ => exact ⟨trivial, h⟩

end

/-! ## The procedures -/

section

variable (V : Vocabulary)

/-- The version of a rollback is the recorded one, or the constant. -/
theorem prevVer_known {row : DeploymentDevice}
    (h : ∀ v, row.previousVersion = some v → V.knows row.deviceID v) :
    V.knows row.deviceID row.prevVer := by
  unfold DeploymentDevice.prevVer
  split
  · rename_i v hv
    split
    · exact h v hv
    · exact V.fallback _
  · exact V.fallback _

/-- A rollback sends the versions of its rows. -/
theorem revertDevices_spoken (depID : DeploymentID) (reason : RollbackReason)
    {devs : List DeploymentDevice}
    (h : ∀ row ∈ devs, ∀ v, row.previousVersion = some v → V.knows row.deviceID v) :
    V.Spoken (revertDevices depID reason devs) := by
  induction devs with
  | nil => trivial
  | cons d devs ih =>
      have hknown := prevVer_known V (h d List.mem_cons_self)
      refine ⟨hknown, fun _ _ => ⟨hknown, fun _ _ => ih fun row hrow => ?_⟩⟩
      exact h row (List.mem_cons_of_mem d hrow)

/-- A rollback passes on what it has read. -/
theorem executeRollback_spoken (depID : DeploymentID) (reason : RollbackReason) :
    V.Spoken (executeRollback depID reason) := by
  rw [executeRollback, getDeployment_bind]
  refine ⟨trivial, ?_⟩
  rintro (_ | dep) -
  · trivial
  · dsimp only
    split
    · trivial
    · rw [query_bind]
      refine ⟨trivial, ?_⟩
      rintro (_ | updated) -
      · trivial
      · dsimp only
        rw [query_bind]
        refine ⟨trivial, ?_⟩
        rintro (_ | devs) hdevs
        · trivial
        · exact (revertDevices_spoken V dep.id reason (hdevs devs rfl)).bind fun _ => trivial

/-- The version that is recorded is that of a firmware. -/
theorem recordInstalledVersion_spoken (event : DeviceProgressEvent) (dep : Deployment) :
    V.Spoken (recordInstalledVersion event dep) := by
  rw [recordInstalledVersion, query_bind]
  refine ⟨trivial, ?_⟩
  rintro (_ | fw) hfw
  · trivial
  · exact ⟨V.firmware fw (hfw fw rfl) _, fun _ _ => trivial⟩

/-- A completion names no version. -/
theorem completeDeployment_spoken (depID : DeploymentID) (dep : Deployment) :
    V.Spoken (completeDeployment depID dep) := by
  rw [completeDeployment, query_bind]
  refine ⟨trivial, fun _ _ => ?_⟩
  split
  · exact ⟨trivial, fun _ _ => trivial⟩
  · trivial

/-- A success passes on known versions. -/
theorem creditSuccess_spoken (event : DeviceProgressEvent) (row : DeploymentDevice) :
    V.Spoken (creditSuccess event row) := by
  rw [creditSuccess, getDeployment_bind]
  refine ⟨trivial, ?_⟩
  rintro (_ | dep) -
  · trivial
  · dsimp only
    split
    · trivial
    · rw [query_bind]
      refine ⟨trivial, fun _ _ => ?_⟩
      apply (recordInstalledVersion_spoken V event dep).bind
      intro _
      split
      · exact (completeDeployment_spoken V _ dep).bind fun _ => trivial
      · trivial

/-- A progress report on a row passes on known versions. -/
theorem progressOnRow_spoken (event : DeviceProgressEvent) (row : DeploymentDevice) :
    V.Spoken (progressOnRow event row) := by
  rw [progressOnRow, query_bind]
  refine ⟨trivial, ?_⟩
  rintro (_ | updated) -
  · trivial
  · dsimp only
    split
    · exact creditSuccess_spoken V event row
    · trivial

/-- A progress report passes on known versions. -/
theorem handleDeviceProgress_spoken (event : DeviceProgressEvent) :
    V.Spoken (handleDeviceProgress event) := by
  rw [handleDeviceProgress, query_bind]
  refine ⟨trivial, ?_⟩
  rintro (_ | row) -
  · trivial
  · exact progressOnRow_spoken V event row

/-- A failure passes on known versions. -/
theorem evaluateFailure_spoken (row : DeploymentDevice) : V.Spoken (evaluateFailure row) := by
  rw [evaluateFailure, getDeployment_bind]
  refine ⟨trivial, ?_⟩
  rintro (_ | dep) -
  · trivial
  · dsimp only
    split
    · exact executeRollback_spoken V _ _
    · split
      · exact ⟨trivial, fun _ _ => trivial⟩
      · trivial

/-- An error report on a row passes on known versions. -/
theorem errorOnRow_spoken (event : DeviceErrorEvent) (row : DeploymentDevice) :
    V.Spoken (errorOnRow event row) := by
  unfold errorOnRow
  split
  · trivial
  · rw [query_bind]
    refine ⟨trivial, ?_⟩
    rintro (_ | updated) -
    · trivial
    · dsimp only
      rw [query_bind]
      exact ⟨trivial, fun _ _ => evaluateFailure_spoken V row⟩

/-- An error report passes on known versions. -/
theorem handleDeviceError_spoken (event : DeviceErrorEvent) :
    V.Spoken (handleDeviceError event) := by
  rw [handleDeviceError, query_bind]
  refine ⟨trivial, ?_⟩
  rintro (_ | row) -
  · trivial
  · exact errorOnRow_spoken V event row

/-- A requested rollback passes on known versions. -/
theorem rollbackHandler_spoken (depID : DeploymentID) : V.Spoken (rollbackHandler depID) := by
  refine Always.bind (executeRollback_spoken V depID _) fun outcome => ?_
  cases outcome <;> exact ⟨trivial, fun _ _ => trivial⟩

/-- Reading a deployment passes on no version. -/
theorem getDeploymentHandler_spoken (depID : DeploymentID) :
    V.Spoken (getDeploymentHandler depID) := by
  apply V.spoken_of_always (getDeploymentHandler_ops depID)
  rintro _ ⟨⟩ <;> trivial

/-- A rollout sends the command it was given. -/
theorem dispatch_spoken (depID : DeploymentID) {cmd : UpdateCommand} (hcmd : V.Sanctions cmd)
    (devs : List Device) : V.Spoken (dispatch depID cmd devs) := by
  apply V.spoken_of_always (dispatch_ops depID cmd devs)
  rintro _ ⟨⟩
  exact hcmd

/-- A canary sends the command it was given. -/
theorem runCanary_spoken (depID : DeploymentID) (devs : List Device) {cmd : UpdateCommand}
    (hcmd : V.Sanctions cmd) : V.Spoken (runCanary depID devs cmd) := by
  apply V.spoken_of_always (runCanary_ops depID devs cmd)
  rintro _ ⟨⟩
  case publish => exact hcmd
  all_goals trivial

/-- A rollout passes on the command it was given. -/
theorem startRollout_spoken (depID : DeploymentID) (strategy : Strategy) (devs : List Device)
    {cmd : UpdateCommand} (hcmd : V.Sanctions cmd) :
    V.Spoken (startRollout depID strategy devs cmd) := by
  rw [startRollout, markStartRollout_bind]
  refine ⟨trivial, fun _ _ => ?_⟩
  split
  · trivial
  · split
    · exact ⟨hcmd, fun _ _ => trivial⟩
    · exact (dispatch_spoken V depID hcmd devs).bind fun _ => ⟨trivial, fun _ _ => trivial⟩

/-- The rows keep the versions of the devices. -/
theorem createDeploymentDevices_spoken (depID : DeploymentID) {devs : List Device}
    (h : ∀ dev ∈ devs, V.knows dev.id dev.currentVersion) :
    V.Spoken (createDeploymentDevices depID devs) := by
  induction devs with
  | nil => trivial
  | cons dev devs ih =>
      refine ⟨?_, fun _ _ => ih fun d hd => h d (List.mem_cons_of_mem dev hd)⟩
      rintro v hv
      obtain rfl : dev.currentVersion = v := Option.some.inj hv
      exact h dev List.mem_cons_self

/-- The targets of a deployment come with known versions. -/
theorem lookupTargets_spoken {α : Type} (targetHw : String) {f : Except Reply (List Device) → Rollout α}
    (hf : ∀ targets, (∀ devs, targets = .ok devs → ∀ dev ∈ devs, V.knows dev.id dev.currentVersion) →
      V.Spoken (f targets)) (ids : List DeviceID) {targets : List Device}
    (h : ∀ dev ∈ targets, V.knows dev.id dev.currentVersion) :
    V.Spoken (lookupTargets targetHw ids targets >>= f) := by
  induction ids generalizing targets with
  | nil =>
      apply hf
      rintro devs hdevs
      obtain rfl : targets = devs := Except.ok.inj hdevs
      exact h
  | cons id ids ih =>
      rw [lookupTargets, query_bind]
      refine ⟨trivial, ?_⟩
      rintro (_ | dev) hdev
      · exact ih h
      · dsimp only
        split
        · apply hf
          rintro devs hdevs
          cases hdevs
        · apply ih
          intro dev' hdev'
          rcases List.mem_append.mp hdev' with hdev' | hdev'
          · exact h dev' hdev'
          · obtain rfl := List.mem_singleton.mp hdev'
            exact hdev _ rfl

/-- The targets are devices of the registry. -/
theorem selectTargets_spoken {α : Type} (targetHw : String) (ids : List DeviceID)
    {f : Except Reply (List Device) → Rollout α}
    (hf : ∀ targets, (∀ devs, targets = .ok devs → ∀ dev ∈ devs, V.knows dev.id dev.currentVersion) →
      V.Spoken (f targets)) : V.Spoken (selectTargets targetHw ids >>= f) := by
  unfold selectTargets
  split
  · exact lookupTargets_spoken V targetHw hf ids (by simp)
  · rw [query_bind]
    refine ⟨trivial, ?_⟩
    rintro (_ | devs) hdevs
    · apply hf
      rintro devs hdevs
      cases hdevs
    · apply hf
      rintro targets htargets dev hdev
      obtain rfl : onlineTargets targetHw devs = targets := Except.ok.inj htargets
      exact hdevs devs rfl dev (List.mem_filter.mp hdev).1

/-- The command is made of the firmware that was read. -/
theorem launchDeployment_spoken {fw : FirmwareVersion} (hfw : fw ∈ V.catalogue.rows)
    (url : String) (strategy : Strategy) (threshold : ℚ) (targetHw : String) {devs : List Device}
    (h : ∀ dev ∈ devs, V.knows dev.id dev.currentVersion) :
    V.Spoken (launchDeployment fw url strategy threshold targetHw devs) := by
  rw [launchDeployment, query_bind]
  refine ⟨trivial, ?_⟩
  rintro (_ | dep) -
  · exact ⟨trivial, fun _ _ => trivial⟩
  · dsimp only
    rw [query_bind]
    refine ⟨trivial, fun _ _ => ?_⟩
    apply (createDeploymentDevices_spoken V dep.id h).bind
    intro _
    apply (startRollout_spoken V dep.id strategy devs ⟨fw, hfw, rfl, rfl, rfl⟩).bind
    intro outcome
    cases outcome <;> exact ⟨trivial, fun _ _ => trivial⟩

/-- A request passes on what it has read. -/
theorem createDeployment_spoken (req : CreateDeploymentRequest) :
    V.Spoken (createDeployment req) := by
  unfold createDeployment
  split
  · exact ⟨trivial, fun _ _ => trivial⟩
  · rw [query_bind]
    refine ⟨trivial, ?_⟩
    rintro (_ | fw) hfw
    · exact ⟨trivial, fun _ _ => trivial⟩
    · dsimp only
      rw [presignedGetObject_bind]
      refine ⟨trivial, ?_⟩
      rintro (_ | url) -
      · exact ⟨trivial, fun _ _ => trivial⟩
      · dsimp only
        split
        · exact ⟨trivial, fun _ _ => trivial⟩
        · split
          · apply selectTargets_spoken
            intro targets htargets
            cases targets with
            | error r => exact ⟨trivial, fun _ _ => trivial⟩
            | ok devs =>
                dsimp only
                split
                · exact ⟨trivial, fun _ _ => trivial⟩
                · exact launchDeployment_spoken V (hfw fw rfl) _ _ _ _ (htargets devs rfl)
          · exact ⟨trivial, fun _ _ => trivial⟩

end

/-! ## The control plane -/

namespace ControlPlane

/-- What a canary goroutine was started with is known. -/
def CallSpoken (V : Vocabulary) : Call → Prop
  | .runCanary _ _ cmd => V.Sanctions cmd
  | _ => True

/-- A thread passes on what it has read. -/
theorem body_spoken {V : Vocabulary} {call : Call} (h : CallSpoken V call) :
    V.Spoken (body call) := by
  cases call with
  | progress event =>
      exact (handleDeviceProgress_spoken V event).bind fun _ => ⟨trivial, fun _ _ => trivial⟩
  | error event =>
      exact (handleDeviceError_spoken V event).bind fun _ => ⟨trivial, fun _ _ => trivial⟩
  | createDeployment req => exact createDeployment_spoken V req
  | getDeployment id => exact getDeploymentHandler_spoken V id
  | rollback id => exact rollbackHandler_spoken V id
  | runCanary id devs cmd => exact runCanary_spoken V id devs h

/-- The tables, the goroutines that have not run yet and the threads speak of known versions. -/
structure Spoken (V : Vocabulary) (c : Config) : Prop where
  db : c.store.db.Speaks V
  goroutines : ∀ call ∈ c.store.goroutines, CallSpoken V call
  threads : c.AllThreads fun _ p => V.Spoken p

/-- The start speaks of the versions in the tables. -/
theorem spoken_start {V : Vocabulary} {db : Db} (h : db.Speaks V) : Spoken V (start db) where
  db := h
  goroutines call hcall := by simp [start, Machine.initial] at hcall
  threads := Machine.allThreads_initial _ _

/-- What is admitted is known. -/
theorem accept_spoken {V : Vocabulary} {s s' : Store} {call : Call}
    (h : accept s call = some s') (hgoroutines : ∀ call ∈ s.goroutines, CallSpoken V call) :
    CallSpoken V call ∧ ∀ call ∈ s'.goroutines, CallSpoken V call := by
  cases call with
  | progress | error =>
      simp only [accept] at h
      split at h
      · cases h
      · obtain rfl := Option.some.inj h
        exact ⟨trivial, hgoroutines⟩
  | runCanary id devs cmd =>
      simp only [accept] at h
      split at h
      · rename_i hmem
        obtain rfl := Option.some.inj h
        exact ⟨hgoroutines _ hmem, fun call hcall => hgoroutines call (List.mem_of_mem_erase hcall)⟩
      · cases h
  | _ =>
      obtain rfl : s = s' := Option.some.inj h
      exact ⟨trivial, hgoroutines⟩

theorem exec_spoken {V : Vocabulary} {s : Store} {op : Op} (x : Choice) (hdb : s.db.Speaks V)
    (hgoroutines : ∀ call ∈ s.goroutines, CallSpoken V call) (hop : V.Passes op) :
    V.Tells op (exec s op x).1 ∧ (exec s op x).2.db.Speaks V ∧
      ∀ call ∈ (exec s op x).2.goroutines, CallSpoken V call := by
  cases op with
  | sql q =>
      rw [exec_sql]
      split
      · refine ⟨?_, hdb, hgoroutines⟩
        cases q with
        | getFirmwareVersion | getDevice | listDevices | listDeploymentDevices =>
            intro _ hnone
            cases hnone
        | _ => trivial
      · obtain ⟨htells, hspeaks⟩ := Db.speaks_exec hdb x.uuid hop
        exact ⟨htells, hspeaks, hgoroutines⟩
  | goRunCanary id devs cmd =>
      refine ⟨trivial, hdb, fun call hcall => ?_⟩
      rcases List.mem_append.mp hcall with hcall | hcall
      · exact hgoroutines call hcall
      · obtain rfl := List.mem_singleton.mp hcall
        exact hop
  | _ => exact ⟨trivial, hdb, hgoroutines⟩

/-- The control plane keeps to known versions. -/
theorem spoken_step {V : Vocabulary} {c c' : Config} {l : Label} (hc : Spoken V c)
    (h : step c l = some c') : Spoken V c' := by
  have hbody : ∀ i call, l = .spawn i call → machine.Spawned c c' i call → CallSpoken V call :=
    fun _ _ _ hs => (accept_spoken hs.accepted hc.goroutines).1
  have hanswer : ∀ i x call op k r, machine.Executed c c' i x call op k r →
      V.Tells op r ∧ c'.store.db.Speaks V ∧ ∀ call ∈ c'.store.goroutines, CallSpoken V call := by
    intro i x call op k r hs
    obtain ⟨rfl, hstore⟩ := executed_answer hs
    rw [hstore]
    exact exec_spoken x hc.db hc.goroutines (hc.threads i call _ hs.before).1
  have hthreads : c'.AllThreads fun _ p => V.Spoken p :=
    Machine.step_allThreads h hc.threads
      (fun i call hl hs => body_spoken (hbody i call hl hs))
      fun i x call op k r _ hs hcall => hcall.2 r (hanswer i x call op k r hs).1
  obtain ⟨i, call, rfl, hs⟩ | ⟨i, x, call, op, k, r, rfl, hs⟩ := Machine.step_cases h
  · refine ⟨?_, (accept_spoken hs.accepted hc.goroutines).2, hthreads⟩
    rw [accept_db hs.accepted]
    exact hc.db
  · obtain ⟨-, hdb, hgoroutines⟩ := hanswer i x call op k r hs
    exact ⟨hdb, hgoroutines, hthreads⟩

end ControlPlane

end OtaRobot
