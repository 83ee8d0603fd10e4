import OtaRobot.Mqtt.Client
import OtaRobot.Rollout.Undo

/-!
# Whom a report concerns

The callbacks take the device from the payload and never look at the topic.  This file says
exactly which messages leave the rows of every other device alone, whatever fails and whatever
the clock shows.

A threshold rollback is a legitimate effect on other devices.  It is recognised by its commands:
they carry the failure rate and the threshold.

Main results:

- Theorem {lit}`confined_obeys`: a callback whose payload names the device of the topic stays
  with that device.
- Theorem {lit}`message_concerns_topic_device`: for which messages a report concerns the device
  of its topic only.
-/

namespace OtaRobot

open Prog

/-! ## The property -/

/-- A row after {lit}`UpdateDeviceVersion`. -/
def installedRow (version : String) (now : Nat) (r : Device × DeviceColumns) :
    Device × DeviceColumns :=
  ({ r.1 with currentVersion := version, status := "online" }, { r.2 with updatedAt := now })

/-- The rows of a device in {lit}`deployment_devices`. -/
def Db.rowsOfDevice (db : Db) (deviceID : DeviceID) : List DeploymentDevice :=
  db.deploymentDevices.filter fun row => row.deviceID = deviceID

/-- The device has an active row in the deployment. -/
def Db.ActiveIn (db : Db) (deviceID : DeviceID) (id : DeploymentID) : Prop :=
  ∃ row ∈ db.deploymentDevices, db.isActive deviceID row = true ∧ row.deploymentID = id

/-- A threshold rollback of the deployment has sent the device back to the version. -/
def ThresholdRollback (id : DeploymentID) (deviceID : DeviceID) (version : String)
    (ops : List ClientOp) : Prop :=
  ∃ failureRate threshold, threshold ≤ failureRate ∧
    ClientOp.rollout (.publishCommand id deviceID
      (.rollback version (.breached failureRate threshold))) ∈ ops

/-- Between the two stores, with the given operations in between, the rows of the devices other
than {lit}`X` change at most by threshold rollbacks of deployments in which {lit}`X` is active. -/
def ConcernsOnly (X : DeviceID) (s s' : ReportStore) (ops : List ClientOp) : Prop :=
  ∀ i, i ≠ X →
    s'.db.rowsOfDevice i = s.db.rowsOfDevice i ∧
      (s'.row i = s.row i ∨
        ∃ id version now, s.db.ActiveIn X id ∧ ThresholdRollback id i version ops ∧
          s'.row i = (s.row i).map (installedRow version now))

/-- The operations of a log. -/
def CallbackLog.ops (log : CallbackLog) : List ClientOp :=
  log.map fun e => e.op

/-- Whatever fails and whatever the clock shows, the message concerns the device of its topic
only. -/
def ConcernsTopicDevice (rolloutMgr : Bool) (s : ReportStore) (msg : Message) : Prop :=
  ∀ env, ConcernsOnly msg.topicDevice s (process rolloutMgr env s msg).1
    (process rolloutMgr env s msg).2.ops

/-! ## The condition -/

/-- The row update of a progress report changes nothing. -/
def Db.Shows (db : Db) (p : UpdateDeploymentDeviceStatusParams) : Prop :=
  ∀ row ∈ db.deploymentDevices, p.selects row = true → p.set row = row

/-- The update {lit}`HandleDeviceProgress` issues on the row it has found. -/
def DeviceProgressEvent.update (event : DeviceProgressEvent) (row : DeploymentDevice) :
    UpdateDeploymentDeviceStatusParams where
  deploymentID := row.deploymentID
  deviceID := event.deviceID
  status := event.status
  progress := event.progress
  errorMessage := none

/-- A success report on the row writes the version of its device: the deployment is not closed,
and its firmware and the device exist. -/
def Db.Installs (db : Db) (event : DeviceProgressEvent) (row : DeploymentDevice) : Prop :=
  (event.status = "success" ∧ event.progress = 100) ∧
    ∃ dep, db.deployment row.deploymentID = some dep ∧
      ¬ (dep.status = .rolledBack ∨ dep.status = .failed) ∧
        (db.firmware.find? dep.firmwareVersionID).isSome = true ∧
          (db.device event.deviceID).isSome = true

/-- A progress report changes no row of its device. -/
def Db.IgnoresProgress (db : Db) (event : DeviceProgressEvent) : Prop :=
  ∀ row, db.activeRow event.deviceID = some row →
    db.Shows (event.update row) ∧ ¬ db.Installs event row

/-- An error report changes no row of its device. -/
def Db.IgnoresError (db : Db) (event : DeviceErrorEvent) : Prop :=
  ∀ row, db.activeRow event.deviceID = some row →
    row.status = "success" ∨ row.status = "failed"

/-- The payload names the device of the topic, or the callback has nothing to write for the
device it names. -/
def Message.Harmless (rolloutMgr : Bool) (db : Db) (msg : Message) : Prop :=
  match msg.channel with
  | .status => ∀ p, msg.payload.bind StatusPayload.unmarshal = some p →
      p.deviceID = msg.topicDevice
  | .progress => rolloutMgr = true → ∀ p, msg.payload.bind ProgressPayload.unmarshal = some p →
      p.deviceID = msg.topicDevice ∨ db.IgnoresProgress p.event
  | .error => rolloutMgr = true → ∀ p, msg.payload.bind ErrorPayload.unmarshal = some p →
      p.deviceID = msg.topicDevice ∨ db.IgnoresError p.event

/-! ## What is followed of a callback -/

/-- The operation leaves the table {lit}`deployments` alone. -/
def ClientOp.keepsDeployments : ClientOp → Bool
  | .rollout (.sql (.createDeployment _)) => false
  | .rollout (.sql (.updateDeploymentStatus _ _)) => false
  | .rollout (.sql (.updateDeploymentPhase _ _ _)) => false
  | .rollout (.sql (.incrementDeploymentSuccess _)) => false
  | .rollout (.sql (.incrementDeploymentFailure _)) => false
  | _ => true

/-- The operation may follow the operations {lit}`ops`, seen from the store {lit}`s` before the
message. -/
def AllowedFor (X : DeviceID) (s : ReportStore) (ops : List ClientOp) : ClientOp → Prop
  | .upsertDevice p => p.id = X
  | .setMetadata _ id => id = X
  | .rollout (.sql (.updateDeploymentDeviceStatus p)) => p.deviceID = X ∨ s.db.Shows p
  | .rollout (.sql (.updateDeviceVersion i version)) =>
      i = X ∨ s.db.device i = none ∨
        ∃ id, s.db.ActiveIn X id ∧ ThresholdRollback id i version ops
  | .rollout (.sql (.createDeploymentDevice _)) => False
  | _ => True

/-- What the answers say about the store before the message. -/
def AnswerFor (s : ReportStore) (ops : List ClientOp) : (op : ClientOp) → op.Ret → Prop
  | .rollout (.sql (.getActiveDeploymentDeviceByDevice i)), r =>
      ops = [] → ∀ row : DeploymentDevice, r = some row → s.db.activeRow i = some row
  | .rollout (.sql (.getDeployment id _)), r => ∀ d : Deployment, r = some d → d.id = id ∧
      (ops.all ClientOp.keepsDeployments = true → s.db.deployment id = some d)
  | .rollout (.sql (.getFirmwareVersion id)), r =>
      ∀ fw : FirmwareVersion, r = some fw → s.db.firmware.find? id = some fw
  | _, _ => True

/-- A callback about a robot reads and writes what is allowed for it. -/
def callbackDiscipline (X : DeviceID) (s : ReportStore) :
    Discipline ClientOp.Ret (List ClientOp) where
  allowed := AllowedFor X s
  rely := AnswerFor s
  next ops op _ := ops ++ [op]

/-- The store and the log show what is followed. -/
structure Confined (X : DeviceID) (s₀ : ReportStore) (s : ReportStore × CallbackLog)
    (ops : List ClientOp) : Prop where
  log : s.2.ops = ops
  start : ops = [] → s.1 = s₀
  firmware : s.1.db.firmware = s₀.db.firmware
  deployments : ops.all ClientOp.keepsDeployments = true →
    s.1.db.deployments = s₀.db.deployments
  concerns : ConcernsOnly X s₀ s.1 ops

/-! ## One operation -/

section

variable {X : DeviceID} {s₀ s s' : ReportStore} {ops : List ClientOp}

/-- What was issued stays issued. -/
theorem ThresholdRollback.append {id : DeploymentID} {i : DeviceID} {version : String}
    (h : ThresholdRollback id i version ops) (op : ClientOp) :
    ThresholdRollback id i version (ops ++ [op]) := by
  obtain ⟨rate, threshold, hle, hmem⟩ := h
  exact ⟨rate, threshold, hle, List.mem_append_left _ hmem⟩

/-- An operation that leaves the rows of the other devices alone. -/
theorem ConcernsOnly.keep (h : ConcernsOnly X s₀ s ops) (op : ClientOp)
    (hkeep : ∀ i, i ≠ X → s'.db.rowsOfDevice i = s.db.rowsOfDevice i ∧ s'.row i = s.row i) :
    ConcernsOnly X s₀ s' (ops ++ [op]) := by
  intro i hi
  obtain ⟨hrows, hrow⟩ := hkeep i hi
  obtain ⟨hrows₀, hsame | ⟨id, version, now, hactive, hrollback, hinstalled⟩⟩ := h i hi
  · exact ⟨hrows.trans hrows₀, Or.inl (hrow.trans hsame)⟩
  · exact ⟨hrows.trans hrows₀,
      Or.inr ⟨id, version, now, hactive, hrollback.append op, hrow.trans hinstalled⟩⟩

/-- What {lit}`UpdateDeviceVersion` does to the rows of {lit}`devices`. -/
theorem ReportStore.row_updateDeviceVersion (s : ReportStore) (id i : DeviceID)
    (version : String) (x : Reading) (hx : x.fault = false) :
    (s.execRollout (.sql (.updateDeviceVersion id version)) x).2.row i =
      if i = id then (s.row id).map (installedRow version x.now) else s.row i := by
  have hdevice := s.db.device_updateDeviceVersion id i version
  simp only [ReportStore.execRollout, hx, Bool.false_eq_true, if_false,
    ReportStore.row_setColumns]
  by_cases hi : i = id
  · rw [hi, if_pos rfl] at hdevice
    simp only [hi, if_true, ReportStore.row, ControlPlane.exec_sql, Db.exec, Bool.false_eq_true,
      if_false, hdevice, Option.map_map, Function.comp_def, installedRow]
  · rw [if_neg hi] at hdevice
    simp only [hi, if_false, ReportStore.row, ControlPlane.exec_sql, Db.exec, Bool.false_eq_true,
      hdevice]

/-- The other operations of the manager leave {lit}`devices` alone. -/
theorem ReportStore.row_execRollout (s : ReportStore) (op : Op) (x : Reading)
    (hop : ∀ i version, op ≠ .sql (.updateDeviceVersion i version)) (i : DeviceID) :
    (s.execRollout op x).2.row i = s.row i := by
  have hcolumns : (s.execRollout op x).2.columns = s.columns := by
    unfold ReportStore.execRollout
    split
    · exact absurd rfl (hop _ _)
    · rfl
  have hdevice : (s.execRollout op x).2.db.device = s.db.device := by
    rw [(s.exec_rollout op x).2]
    cases op with
    | sql q =>
        rw [ControlPlane.exec_sql]
        split
        · rfl
        · exact Db.device_exec fun i v hq => hop i v (congrArg Op.sql hq)
    | _ => rfl
  rw [ReportStore.row, ReportStore.row, hcolumns, hdevice]

/-- Two statements write rows, the others do not. -/
theorem Db.deploymentDevices_exec {db : Db} {uuid : DeploymentID} {q : Query}
    (hupdate : ∀ p, q ≠ .updateDeploymentDeviceStatus p)
    (hinsert : ∀ p, q ≠ .createDeploymentDevice p) :
    (db.exec uuid q).2.deploymentDevices = db.deploymentDevices := by
  cases q with
  | createDeployment p =>
      simp only [Db.exec, Db.createDeployment]
      split <;> rfl
  | updateDeploymentDeviceStatus p => exact absurd rfl (hupdate p)
  | createDeploymentDevice p => exact absurd rfl (hinsert p)
  | _ => rfl

/-- A statement that keeps the deployments keeps them. -/
theorem Db.deployments_exec {db : Db} {uuid : DeploymentID} {q : Query}
    (hq : ClientOp.keepsDeployments (.rollout (.sql q)) = true) :
    (db.exec uuid q).2.deployments = db.deployments := by
  cases q with
  | createDeploymentDevice p =>
      simp only [Db.exec, Db.createDeploymentDevice]
      split <;> rfl
  | createDeployment | updateDeploymentStatus | updateDeploymentPhase
  | incrementDeploymentSuccess | incrementDeploymentFailure => cases hq
  | _ => rfl

/-- No statement of the control plane writes the catalogue. -/
theorem Db.firmware_exec (db : Db) (uuid : DeploymentID) (q : Query) :
    (db.exec uuid q).2.firmware = db.firmware := by
  cases q with
  | createDeployment p =>
      simp only [Db.exec, Db.createDeployment]
      split <;> rfl
  | createDeploymentDevice p =>
      simp only [Db.exec, Db.createDeploymentDevice]
      split <;> rfl
  | _ => rfl

/-- A statement that fails changes nothing. -/
theorem ReportStore.execRollout_fault (s : ReportStore) (q : Query) {x : Reading}
    (hx : x.fault = true) : (s.execRollout (.sql q) x).2 = s := by
  cases q with
  | updateDeviceVersion i v => simp [ReportStore.execRollout, ControlPlane.exec_sql, hx]
  | _ => simp [ReportStore.execRollout, ControlPlane.exec_sql, hx]

/-- A statement works on the tables. -/
theorem ReportStore.execRollout_db (s : ReportStore) (q : Query) {x : Reading}
    (hx : x.fault = false) : (s.execRollout (.sql q) x).2.db = (s.db.exec 0 q).2 := by
  rw [(s.exec_rollout (.sql q) x).2, ControlPlane.exec_sql]
  simp [hx]

/-- A statement answers from the tables. -/
theorem ReportStore.execRollout_answer (s : ReportStore) (q : Query) {x : Reading}
    (hx : x.fault = false) : (s.execRollout (.sql q) x).1 = (s.db.exec 0 q).1 := by
  rw [(s.exec_rollout (.sql q) x).1, ControlPlane.exec_sql, hx]
  rfl

/-- No operation of a callback writes the catalogue. -/
theorem ReportStore.exec_firmware (s : ReportStore) (op : ClientOp) (x : Reading) :
    (s.exec op x).2.db.firmware = s.db.firmware := by
  cases op with
  | upsertDevice p =>
      simp only [ReportStore.exec]
      split
      · rfl
      · exact (s.upsertDevice_tables p x.now).1
  | setMetadata metadata id =>
      simp only [ReportStore.exec]
      split <;> rfl
  | rollout op =>
      show (s.execRollout op x).2.db.firmware = _
      rw [(s.exec_rollout op x).2]
      cases op with
      | sql q =>
          rw [ControlPlane.exec_sql]
          split
          · rfl
          · exact Db.firmware_exec _ _ _
      | _ => rfl

/-- An operation that keeps the deployments keeps them. -/
theorem ReportStore.exec_deployments (s : ReportStore) {op : ClientOp}
    (hop : op.keepsDeployments = true) (x : Reading) :
    (s.exec op x).2.db.deployments = s.db.deployments := by
  cases op with
  | upsertDevice p =>
      simp only [ReportStore.exec]
      split
      · rfl
      · exact (s.upsertDevice_tables p x.now).2.1
  | setMetadata metadata id =>
      simp only [ReportStore.exec]
      split <;> rfl
  | rollout op =>
      show (s.execRollout op x).2.db.deployments = _
      rw [(s.exec_rollout op x).2]
      cases op with
      | sql q =>
          rw [ControlPlane.exec_sql]
          split
          · rfl
          · exact Db.deployments_exec hop
      | _ => rfl

/-- {lit}`UpdateDeploymentDeviceStatus` changes the rows of its device only. -/
theorem Db.rowsOfDevice_updateDeploymentDeviceStatus (db : Db)
    (p : UpdateDeploymentDeviceStatusParams) (i : DeviceID) :
    (db.updateDeploymentDeviceStatus p).2.rowsOfDevice i =
      (db.rowsOfDevice i).map fun row => if p.selects row then p.set row else row := by
  have hdevice : ∀ row : DeploymentDevice,
      (if p.selects row then p.set row else row).deviceID = row.deviceID := by
    intro row
    split <;> rfl
  simp only [Db.updateDeploymentDeviceStatus, Db.rowsOfDevice, List.filter_map, Function.comp_def,
    hdevice]

/-- An update that selects nothing here, or changes nothing, leaves the rows alone. -/
theorem Db.rowsOfDevice_update_eq (db : Db) {p : UpdateDeploymentDeviceStatusParams} {i : DeviceID}
    (h : ∀ row ∈ db.rowsOfDevice i, p.selects row = true → p.set row = row) :
    (db.updateDeploymentDeviceStatus p).2.rowsOfDevice i = db.rowsOfDevice i := by
  rw [Db.rowsOfDevice_updateDeploymentDeviceStatus]
  refine (List.map_congr_left ?_).trans (List.map_id _)
  intro row hrow
  by_cases hsel : p.selects row = true
  · rw [if_pos hsel]
    exact h row hrow hsel
  · rw [if_neg hsel]
    rfl

/-- A row of another device that a callback may install a version in. -/
theorem ConcernsOnly.install (h : ConcernsOnly X s₀ s ops) {i : DeviceID} {version : String}
    {x : Reading} (hx : x.fault = false)
    (hallowed : AllowedFor X s₀ ops (.rollout (.sql (.updateDeviceVersion i version)))) :
    ConcernsOnly X s₀ (s.execRollout (.sql (.updateDeviceVersion i version)) x).2
      (ops ++ [.rollout (.sql (.updateDeviceVersion i version))]) := by
  intro j hj
  obtain ⟨hrows, hrow⟩ := h j hj
  have hkeep := h.keep (.rollout (.sql (.updateDeviceVersion i version)))
    (fun k _ => ⟨rfl, rfl⟩) j hj
  have hrows' : (s.execRollout (.sql (.updateDeviceVersion i version)) x).2.db.rowsOfDevice j =
      s.db.rowsOfDevice j := by
    rw [s.execRollout_db _ hx]
    rfl
  refine ⟨hrows'.trans hrows, ?_⟩
  rw [s.row_updateDeviceVersion i j version x hx]
  by_cases hji : j = i
  · subst hji
    rw [if_pos rfl]
    rcases hallowed with hX | hnone | ⟨id, hactive, hrollback⟩
    · exact absurd hX hj
    · have hnone₀ : s₀.row j = none := by rw [ReportStore.row, hnone, Option.map_none]
      left
      rcases hrow with hsame | ⟨id, v, now, -, -, hinstalled⟩
      · rw [hsame, hnone₀, Option.map_none]
      · rw [hinstalled, hnone₀, Option.map_none, Option.map_none]
    · right
      refine ⟨id, version, x.now, hactive, hrollback.append _, ?_⟩
      rcases hrow with hsame | ⟨id, v, now, -, -, hinstalled⟩
      · rw [hsame]
      · rw [hinstalled, Option.map_map]
        rfl
  · rw [if_neg hji]
    exact hkeep.2

/-- An allowed operation keeps to the device of the topic. -/
theorem ConcernsOnly.exec (h : ConcernsOnly X s₀ s ops) {op : ClientOp} (x : Reading)
    (hallowed : AllowedFor X s₀ ops op) :
    ConcernsOnly X s₀ (s.exec op x).2 (ops ++ [op]) := by
  cases op with
  | upsertDevice p =>
      apply h.keep
      intro i hi
      simp only [ReportStore.exec]
      split
      · exact ⟨rfl, rfl⟩
      · have htables := (s.upsertDevice_tables p x.now).2.2
        have hip : i ≠ p.id := fun heq => hi (heq.trans hallowed)
        exact ⟨by rw [Db.rowsOfDevice, htables, Db.rowsOfDevice],
          (s.row_upsertDevice p x.now).2 i hip⟩
  | setMetadata metadata id =>
      apply h.keep
      intro i hi
      simp only [ReportStore.exec]
      split
      · exact ⟨rfl, rfl⟩
      · have hid : i ≠ id := fun heq => hi (heq.trans hallowed)
        refine ⟨rfl, ?_⟩
        rw [ReportStore.setMetadata, ReportStore.row_setColumns, if_neg hid]
  | rollout op =>
      show ConcernsOnly X s₀ (s.execRollout op x).2 _
      by_cases hversion : ∃ i version, op = .sql (.updateDeviceVersion i version)
      · obtain ⟨i, version, rfl⟩ := hversion
        by_cases hx : x.fault = true
        · rw [s.execRollout_fault _ hx]
          exact h.keep _ fun _ _ => ⟨rfl, rfl⟩
        · exact h.install (by simpa using hx) hallowed
      · apply h.keep
        intro i hi
        refine ⟨?_, s.row_execRollout op x (fun j v hop => hversion ⟨j, v, hop⟩) i⟩
        cases op with
        | sql q =>
            by_cases hx : x.fault = true
            · rw [s.execRollout_fault q hx]
            · rw [s.execRollout_db q (by simpa using hx)]
              by_cases hupdate : ∃ p, q = .updateDeploymentDeviceStatus p
              · obtain ⟨p, rfl⟩ := hupdate
                apply Db.rowsOfDevice_update_eq
                intro row hrow hsel
                rcases hallowed with hX | hshows
                · have hrowi : row.deviceID = i := by
                    simpa using (List.mem_filter.mp hrow).2
                  have hrowp : row.deviceID = p.deviceID := by
                    have hboth : row.deploymentID = p.deploymentID ∧ row.deviceID = p.deviceID := by
                      simpa [UpdateDeploymentDeviceStatusParams.selects] using hsel
                    exact hboth.2
                  exact absurd (hrowi.symm.trans (hrowp.trans hX)) hi
                · rw [(h i hi).1] at hrow
                  exact hshows row (List.mem_filter.mp hrow).1 hsel
              · by_cases hinsert : ∃ p, q = .createDeploymentDevice p
                · obtain ⟨p, rfl⟩ := hinsert
                  exact absurd hallowed id
                · rw [Db.rowsOfDevice, Db.deploymentDevices_exec
                    (fun p hq => hupdate ⟨p, hq⟩) (fun p hq => hinsert ⟨p, hq⟩), Db.rowsOfDevice]
        | _ => rfl

/-- The answer of an operation is one the store before the message explains. -/
theorem Confined.answer {st : ReportStore × CallbackLog} (hs : Confined X s₀ st ops)
    (op : ClientOp) (x : Reading) : AnswerFor s₀ ops op (st.1.exec op x).1 := by
  cases op with
  | rollout op =>
      cases op with
      | sql q =>
          show AnswerFor s₀ ops (.rollout (.sql q)) (st.1.execRollout (.sql q) x).1
          by_cases hx : x.fault = true
          · have hnone : (st.1.execRollout (.sql q) x).1 = none := by
              rw [(st.1.exec_rollout (.sql q) x).1, ControlPlane.exec_sql, if_pos hx]
            rw [hnone]
            cases q with
            | getActiveDeploymentDeviceByDevice i => exact fun _ _ h => by cases h
            | getDeployment id site => exact fun _ h => by cases h
            | getFirmwareVersion id => exact fun _ h => by cases h
            | _ => trivial
          · rw [st.1.execRollout_answer q (by simpa using hx)]
            cases q with
            | getActiveDeploymentDeviceByDevice i =>
                intro hops row hrow
                rw [← hs.start hops]
                exact hrow
            | getDeployment id site =>
                intro d hd
                refine ⟨Db.deployment_id hd, fun hkeeps => ?_⟩
                rw [Db.deployment, ← hs.deployments hkeeps]
                exact hd
            | getFirmwareVersion id =>
                intro fw hfw
                rw [← hs.firmware]
                exact hfw
            | _ => trivial
      | _ => trivial
  | _ => trivial

/-- One operation of a callback. -/
theorem Confined.exec {st : ReportStore × CallbackLog} (hs : Confined X s₀ st ops)
    (env : Nat → Reading) {op : ClientOp} (hop : AllowedFor X s₀ ops op) :
    AnswerFor s₀ ops op (execRead env st op).1 ∧
      Confined X s₀ (execRead env st op).2 (ops ++ [op]) := by
  refine ⟨hs.answer op _, ?_, ?_, ?_, ?_, hs.concerns.exec _ hop⟩
  · simp [execRead, CallbackLog.ops, ← hs.log]
  · intro hnil
    simp at hnil
  · exact (st.1.exec_firmware op _).trans hs.firmware
  · intro hall
    rw [List.all_append, Bool.and_eq_true] at hall
    have hkeeps : op.keepsDeployments = true := by simpa using hall.2
    exact (st.1.exec_deployments hkeeps _).trans (hs.deployments hall.1)

end

/-! ## The programs of the manager -/

section

variable {X : DeviceID} {s₀ : ReportStore}

/-- The discipline seen by the manager. -/
def managerDiscipline (X : DeviceID) (s₀ : ReportStore) :
    Discipline Op.Ret (List ClientOp) where
  allowed ops op := AllowedFor X s₀ ops (.rollout op)
  rely ops op r := AnswerFor s₀ ops (.rollout op) r
  next ops op _ := ops ++ [.rollout op]

/-- A procedure of the manager keeps to its discipline inside a callback. -/
theorem ofRollout_obeys {α : Type} {post : List ClientOp → α → Prop} {p : Rollout α}
    {ops : List ClientOp} (hp : Obeys (managerDiscipline X s₀) post ops p) :
    Obeys (callbackDiscipline X s₀) post ops (Callback.ofRollout p) := by
  induction p generalizing ops with
  | done a => exact hp
  | call op k ih => exact ⟨hp.1, fun r hr => ih r (hp.2 r hr)⟩

/-- An operation that is allowed whatever has been executed before. -/
def AlwaysAllowed (X : DeviceID) (s₀ : ReportStore) (op : Op) : Prop :=
  ∀ ops, AllowedFor X s₀ ops (.rollout op)

/-- What is always allowed keeps to the discipline. -/
theorem alwaysAllowed_obeys {α : Type} {p : Rollout α} {ops : List ClientOp}
    (hp : Always AnyAnswer (AlwaysAllowed X s₀) p) :
    Obeys (managerDiscipline X s₀) (fun _ _ => True) ops p := by
  apply hp.obeys (G := fun _ => True) (fun _ _ _ _ => trivial)
  · intro ops op _ hop
    exact hop ops
  · intro _ _ _ _ _
    trivial
  · trivial

/-- A completion is always allowed. -/
theorem completeDeployment_allowed (depID : DeploymentID) (dep : Deployment) :
    Always AnyAnswer (AlwaysAllowed X s₀) (completeDeployment depID dep) := by
  rw [completeDeployment, query_bind]
  refine ⟨fun _ => trivial, fun _ _ => ?_⟩
  split
  · exact ⟨fun _ => trivial, fun _ _ => trivial⟩
  · trivial

/-- The completion branch of a success report. -/
theorem completion_allowed (depID : DeploymentID) (dep : Deployment) (c : Prop) [Decidable c] :
    Always AnyAnswer (AlwaysAllowed X s₀)
      (if c then (do completeDeployment depID dep; return .ok () : Rollout Outcome)
        else return .ok ()) := by
  split
  · exact (completeDeployment_allowed depID dep).bind fun _ => trivial
  · trivial

/-- A success report installs a version in the device of the topic only. -/
theorem creditSuccess_confined {event : DeviceProgressEvent} {row : DeploymentDevice}
    {ops : List ClientOp} (hops : ops.all ClientOp.keepsDeployments = true)
    (hsuccess : event.status = "success" ∧ event.progress = 100)
    (h : event.deviceID = X ∨ ¬ s₀.db.Installs event row) :
    Obeys (managerDiscipline X s₀) (fun _ _ => True) ops (creditSuccess event row) := by
  rw [creditSuccess, getDeployment_bind]
  refine ⟨trivial, fun (r : Option Deployment) hr => ?_⟩
  cases r with
  | none => trivial
  | some dep =>
      have hdep : s₀.db.deployment row.deploymentID = some dep := (hr dep rfl).2 hops
      dsimp only
      split
      · trivial
      · rename_i hopen
        rw [query_bind]
        refine ⟨trivial, fun _ _ => ?_⟩
        rw [recordInstalledVersion, query_bind]
        refine ⟨trivial, fun (r : Option FirmwareVersion) hfw => ?_⟩
        cases r with
        | none => exact alwaysAllowed_obeys (completion_allowed _ _ _)
        | some fw =>
            have hfirmware : s₀.db.firmware.find? dep.firmwareVersionID = some fw := hfw fw rfl
            refine ⟨?_, fun _ _ => alwaysAllowed_obeys (completion_allowed _ _ _)⟩
            rcases h with hX | hinstalls
            · exact Or.inl hX
            · right
              left
              cases hdevice : s₀.db.device event.deviceID with
              | none => rfl
              | some d =>
                  refine absurd ⟨hsuccess, dep, hdep, hopen, ?_, ?_⟩ hinstalls
                  · simp [hfirmware]
                  · simp [hdevice]

/-- A progress report on a row touches its own robot. -/
theorem progressOnRow_confined {event : DeviceProgressEvent} {row : DeploymentDevice}
    {ops : List ClientOp} (hops : ops.all ClientOp.keepsDeployments = true)
    (h : event.deviceID = X ∨ s₀.db.Shows (event.update row) ∧ ¬ s₀.db.Installs event row) :
    Obeys (managerDiscipline X s₀) (fun _ _ => True) ops (progressOnRow event row) := by
  rw [progressOnRow, query_bind]
  refine ⟨h.imp id And.left, fun (r : Option DeploymentDevice) _ => ?_⟩
  cases r with
  | none => trivial
  | some _ =>
      dsimp only
      split
      · rename_i hsuccess
        refine creditSuccess_confined ?_ hsuccess (h.imp id And.right)
        simp [managerDiscipline, hops, ClientOp.keepsDeployments]
      · trivial

/-- A progress report. -/
theorem handleDeviceProgress_confined (event : DeviceProgressEvent)
    (h : event.deviceID = X ∨ s₀.db.IgnoresProgress event) :
    Obeys (managerDiscipline X s₀) (fun _ _ => True) [] (handleDeviceProgress event) := by
  rw [handleDeviceProgress, query_bind]
  refine ⟨trivial, fun (r : Option DeploymentDevice) hr => ?_⟩
  cases r with
  | none => trivial
  | some row =>
      have hrow : s₀.db.activeRow event.deviceID = some row := hr rfl row rfl
      exact progressOnRow_confined rfl (h.imp id fun hignores => hignores row hrow)

/-- The loop of a threshold rollback of a deployment in which the device of the topic is
active. -/
theorem revertDevices_confined {id : DeploymentID} (hactive : s₀.db.ActiveIn X id)
    {failureRate threshold : ℚ} (hle : threshold ≤ failureRate) (devs : List DeploymentDevice)
    (ops : List ClientOp) :
    Obeys (managerDiscipline X s₀) (fun _ _ => True) ops
      (revertDevices id (.breached failureRate threshold) devs) := by
  induction devs generalizing ops with
  | nil => trivial
  | cons row devs ih =>
      rw [revertDevices, publishCommand_bind]
      refine ⟨trivial, fun _ _ => ?_⟩
      rw [query_bind]
      refine ⟨?_, fun _ _ => ih _⟩
      right
      right
      exact ⟨id, hactive, failureRate, threshold, hle, by simp [managerDiscipline]⟩

/-- A rollback touches the deployment that has reached its threshold. -/
theorem executeRollback_confined {id : DeploymentID} (hactive : s₀.db.ActiveIn X id)
    {failureRate threshold : ℚ} (hle : threshold ≤ failureRate) (ops : List ClientOp) :
    Obeys (managerDiscipline X s₀) (fun _ _ => True) ops
      (executeRollback id (.breached failureRate threshold)) := by
  rw [executeRollback, getDeployment_bind]
  refine ⟨trivial, fun (r : Option Deployment) hr => ?_⟩
  cases r with
  | none => trivial
  | some dep =>
      have hdep : dep.id = id := (hr dep rfl).1
      dsimp only
      split
      · trivial
      · rw [query_bind, hdep]
        refine ⟨trivial, fun (r : Option Deployment) _ => ?_⟩
        cases r with
        | none => trivial
        | some _ =>
            dsimp only
            rw [query_bind]
            refine ⟨trivial, fun (r : Option (List DeploymentDevice)) _ => ?_⟩
            cases r with
            | none => trivial
            | some devs =>
                exact (revertDevices_confined hactive hle devs _).bind fun _ _ _ => trivial

/-- A failure touches the deployment of its row. -/
theorem evaluateFailure_confined {row : DeploymentDevice}
    (hactive : s₀.db.ActiveIn X row.deploymentID) (ops : List ClientOp) :
    Obeys (managerDiscipline X s₀) (fun _ _ => True) ops (evaluateFailure row) := by
  rw [evaluateFailure, getDeployment_bind]
  refine ⟨trivial, fun (r : Option Deployment) hr => ?_⟩
  cases r with
  | none => trivial
  | some dep =>
      have hdep : dep.id = row.deploymentID := (hr dep rfl).1
      dsimp only
      split
      · rename_i hbreached
        rw [hdep]
        exact executeRollback_confined hactive (of_decide_eq_true hbreached.2) _
      · split
        · rw [query_bind]
          exact ⟨trivial, fun _ _ => trivial⟩
        · trivial

/-- An error report. -/
theorem handleDeviceError_confined (event : DeviceErrorEvent)
    (h : event.deviceID = X ∨ s₀.db.IgnoresError event) :
    Obeys (managerDiscipline X s₀) (fun _ _ => True) [] (handleDeviceError event) := by
  rw [handleDeviceError, query_bind]
  refine ⟨trivial, fun (r : Option DeploymentDevice) hr => ?_⟩
  cases r with
  | none => trivial
  | some row =>
      have hrow : s₀.db.activeRow event.deviceID = some row := hr rfl row rfl
      show Obeys _ _ _ (errorOnRow event row)
      unfold errorOnRow
      split
      · trivial
      · rename_i hopen
        have hX : event.deviceID = X := h.resolve_right fun hignores => hopen (hignores row hrow)
        obtain ⟨hmem, hisActive⟩ := Db.activeRow_spec hrow
        have hactive : s₀.db.ActiveIn X row.deploymentID := ⟨row, hmem, hX ▸ hisActive, rfl⟩
        rw [query_bind]
        refine ⟨Or.inl hX, fun (r : Option DeploymentDevice) _ => ?_⟩
        cases r with
        | none => trivial
        | some _ =>
            dsimp only
            rw [query_bind]
            exact ⟨trivial, fun _ _ => evaluateFailure_confined hactive _⟩

end

/-! ## Harmless messages -/

/-- The metadata is stored for the robot of the topic. -/
theorem storeMetadata_confined {X : DeviceID} {s₀ : ReportStore} {p : StatusPayload}
    (hX : p.deviceID = X) (ops : List ClientOp) :
    Obeys (callbackDiscipline X s₀) (fun _ _ => True) ops (storeMetadata p) := by
  by_cases hmeta : p.metaMap.length > 0
  · rw [storeMetadata, if_pos hmeta]
    exact ⟨hX, fun _ _ => trivial⟩
  · rw [storeMetadata, if_neg hmeta]
    trivial

/-- A callback of a harmless message keeps to the device of the topic. -/
theorem confined_obeys {rolloutMgr : Bool} {s : ReportStore} {msg : Message}
    (h : msg.Harmless rolloutMgr s.db) :
    Obeys (callbackDiscipline msg.topicDevice s) (fun _ _ => True) []
      (msg.handler rolloutMgr) := by
  obtain ⟨X, channel, payload⟩ := msg
  cases channel with
  | status =>
      show Obeys _ _ _ (handleStatus payload)
      unfold handleStatus
      cases hp : payload.bind StatusPayload.unmarshal with
      | none => trivial
      | some p =>
          have hX : p.deviceID = X := h p hp
          exact ⟨hX, fun _ _ => storeMetadata_confined hX _⟩
  | progress =>
      show Obeys _ _ _ (handleProgress rolloutMgr payload)
      unfold handleProgress
      cases hp : payload.bind ProgressPayload.unmarshal with
      | none => trivial
      | some p =>
          dsimp only
          split
          · rename_i hmgr
            have hobeys := handleDeviceProgress_confined p.event (h hmgr p hp)
            exact (ofRollout_obeys hobeys).bind fun _ _ _ => trivial
          · trivial
  | error =>
      show Obeys _ _ _ (handleError rolloutMgr payload)
      unfold handleError
      cases hp : payload.bind ErrorPayload.unmarshal with
      | none => trivial
      | some p =>
          dsimp only
          split
          · rename_i hmgr
            have hobeys := handleDeviceError_confined p.event (h hmgr p hp)
            exact (ofRollout_obeys hobeys).bind fun _ _ _ => trivial
          · trivial

/-- A message that concerns nobody else is about the robot of its topic. -/
theorem concerns_of_harmless {rolloutMgr : Bool} {s : ReportStore} {msg : Message}
    (h : msg.Harmless rolloutMgr s.db) : ConcernsTopicDevice rolloutMgr s msg := by
  intro env
  have hstart : Confined msg.topicDevice s (s, []) [] :=
    ⟨rfl, fun _ => rfl, rfl, fun _ => rfl, fun i _ => ⟨rfl, Or.inl rfl⟩⟩
  have hstep : ∀ (st : ReportStore × CallbackLog) (ops : List ClientOp) (op : ClientOp),
      Confined msg.topicDevice s st ops → AllowedFor msg.topicDevice s ops op →
        AnswerFor s ops op (execRead env st op).1 ∧
          Confined msg.topicDevice s (execRead env st op).2 (ops ++ [op]) :=
    fun _ _ _ hs hop => hs.exec env hop
  obtain ⟨ops, hend, -⟩ := (confined_obeys h).run hstep hstart
  have hlog : (process rolloutMgr env s msg).2.ops = ops := hend.log
  rw [hlog]
  exact hend.concerns

/-! ## Harmful messages -/

/-- No statement fails, and the clock stands. -/
def clear (now : Nat) : Nat → Reading := fun _ => { now }

/-- A read in quiet times answers from the tables and changes nothing. -/
theorem execRead_clear (now : Nat) (st : ReportStore × CallbackLog) (q : Query) :
    (execRead (clear now) st (.rollout (.sql q))).1 = (st.1.db.exec 0 q).1 ∧
      (execRead (clear now) st (.rollout (.sql q))).2.1.db = (st.1.db.exec 0 q).2 :=
  ⟨st.1.execRollout_answer q rfl, st.1.execRollout_db q rfl⟩

/-- The operation writes no row of {lit}`deployment_devices`. -/
def Op.keepsRows : Op → Bool
  | .sql (.updateDeploymentDeviceStatus _) => false
  | .sql (.createDeploymentDevice _) => false
  | _ => true

/-- Counting a success writes no row. -/
theorem creditSuccess_keepsRows (event : DeviceProgressEvent) (row : DeploymentDevice) :
    Always AnyAnswer (fun op => op.keepsRows = true) (creditSuccess event row) := by
  rw [creditSuccess, getDeployment_bind]
  refine ⟨rfl, fun (r : Option Deployment) _ => ?_⟩
  cases r with
  | none => trivial
  | some dep =>
      dsimp only
      split
      · trivial
      · rw [query_bind]
        refine ⟨rfl, fun _ _ => Always.bind ?_ fun _ => ?_⟩
        · apply (recordInstalledVersion_ops event dep).mono (fun _ _ h => h)
          intro op hop
          rcases hop with ⟨fw, rfl⟩ | ⟨v, rfl⟩ <;> rfl
        · split
          · rw [completeDeployment, query_bind]
            refine ⟨rfl, fun _ _ => Always.bind ?_ fun _ => trivial⟩
            split
            · exact ⟨rfl, fun _ _ => trivial⟩
            · trivial
          · trivial

/-- Evaluating a failure writes no row. -/
theorem evaluateFailure_keepsRows (row : DeploymentDevice) :
    Always AnyAnswer (fun op => op.keepsRows = true) (evaluateFailure row) := by
  rw [evaluateFailure, getDeployment_bind]
  refine ⟨rfl, fun (r : Option Deployment) _ => ?_⟩
  cases r with
  | none => trivial
  | some dep =>
      dsimp only
      split
      · apply (executeRollback_rollbackOps _ _).mono (fun _ _ h => h)
        intro op hop
        cases hop <;> rfl
      · split
        · exact ⟨rfl, fun _ _ => trivial⟩
        · trivial

/-- A program that writes no rows leaves them alone. -/
theorem run_keepsRows {α : Type} {p : Rollout α} (now : Nat)
    (hp : Always AnyAnswer (fun op => op.keepsRows = true) p) (st : ReportStore × CallbackLog) :
    ((Callback.ofRollout p).run (execRead (clear now)) st).2.1.db.deploymentDevices =
      st.1.db.deploymentDevices := by
  induction p generalizing st with
  | done a => rfl
  | call op k ih =>
      refine (ih _ (hp.2 _ trivial) _).trans ?_
      have hop := hp.1
      show (st.1.execRollout op _).2.db.deploymentDevices = _
      rw [(st.1.exec_rollout op _).2]
      cases op with
      | sql q =>
          rw [ControlPlane.exec_sql]
          split
          · rfl
          · apply Db.deploymentDevices_exec
            · intro p hq
              subst hq
              cases hop
            · intro p hq
              subst hq
              cases hop
      | _ => rfl

/-- The rows of a device after an update that is not shown by them. -/
theorem Db.rowsOfDevice_update_ne {db : Db} {p : UpdateDeploymentDeviceStatusParams}
    (h : ¬ db.Shows p) :
    (db.updateDeploymentDeviceStatus p).2.rowsOfDevice p.deviceID ≠
      db.rowsOfDevice p.deviceID := by
  intro heq
  apply h
  intro row hrow hsel
  have hdevice : row.deviceID = p.deviceID := by
    have hboth : row.deploymentID = p.deploymentID ∧ row.deviceID = p.deviceID := by
      simpa [UpdateDeploymentDeviceStatusParams.selects] using hsel
    exact hboth.2
  have hmem : row ∈ db.rowsOfDevice p.deviceID :=
    List.mem_filter.mpr ⟨hrow, by simpa using hdevice⟩
  rw [Db.rowsOfDevice_updateDeploymentDeviceStatus] at heq
  have hsame := List.map_inj_left.mp (heq.trans (List.map_id _).symm) row hmem
  rwa [if_pos hsel] at hsame

/-- A program that updates rows, if nothing fails, and then writes no row. -/
theorem run_update {α : Type} {p : UpdateDeploymentDeviceStatusParams}
    {k : Option DeploymentDevice → Rollout α} (now : Nat)
    (hk : ∀ r, Always AnyAnswer (fun op => op.keepsRows = true) (k r))
    (st : ReportStore × CallbackLog) :
    ((Callback.ofRollout (.call (.sql (.updateDeploymentDeviceStatus p)) k)).run
      (execRead (clear now)) st).2.1.db.deploymentDevices =
        (st.1.db.updateDeploymentDeviceStatus p).2.deploymentDevices := by
  refine (run_keepsRows now (hk _) _).trans ?_
  exact congrArg Db.deploymentDevices (execRead_clear now st (.updateDeploymentDeviceStatus p)).2

/-! ### Heartbeats -/

/-- The row of the device was last written at {lit}`now`. -/
def ReportStore.UpdatedAt (s : ReportStore) (id : DeviceID) (now : Nat) : Prop :=
  ∃ d c, s.row id = some (d, c) ∧ c.updatedAt = now

/-- No command is published. -/
def NoPublish (ops : List ClientOp) : Prop :=
  ∀ id deviceID cmd, ClientOp.rollout (.publishCommand id deviceID cmd) ∉ ops

/-- A row written later than before, without a command published, concerns another device. -/
theorem not_concernsOnly_of_updated {X i : DeviceID} {s s' : ReportStore} {ops : List ClientOp}
    (hi : i ≠ X) (hupdated : s'.UpdatedAt i ((s.columns i).updatedAt + 1))
    (hquiet : NoPublish ops) : ¬ ConcernsOnly X s s' ops := by
  intro h
  obtain ⟨d, c, hrow, hc⟩ := hupdated
  obtain ⟨-, hsame | ⟨id, version, now, -, ⟨rate, threshold, -, hmem⟩, -⟩⟩ := h i hi
  · rw [hrow, ReportStore.row] at hsame
    obtain ⟨d', -, heq⟩ := Option.map_eq_some_iff.mp hsame.symm
    have hcolumns : s.columns i = c := congrArg Prod.snd heq
    rw [hcolumns] at hc
    omega
  · exact hquiet _ _ _ hmem

/-- The metadata is stored, and nothing is sent. -/
theorem run_storeMetadata (p : StatusPayload) (now t : Nat) {st : ReportStore × CallbackLog}
    (hrow : st.1.UpdatedAt p.deviceID t) (hquiet : NoPublish st.2.ops) :
    ((storeMetadata p).run (execRead (clear now)) st).2.1.UpdatedAt p.deviceID t ∧
      NoPublish ((storeMetadata p).run (execRead (clear now)) st).2.2.ops := by
  by_cases hmeta : p.metaMap.length > 0
  · rw [storeMetadata, if_pos hmeta]
    obtain ⟨d, c, hst, hc⟩ := hrow
    constructor
    · refine ⟨d, { c with metadata := some (.object p.metaMap) }, ?_, hc⟩
      show (st.1.setMetadata _ p.deviceID).row p.deviceID = _
      rw [ReportStore.setMetadata, ReportStore.row_setColumns, if_pos rfl, hst]
      rfl
    · intro id deviceID cmd hmem
      have hmem' : ClientOp.rollout (.publishCommand id deviceID cmd) ∈
          st.2.ops ++ [.setMetadata (.object p.metaMap) p.deviceID] := by
        simpa [execRead, CallbackLog.ops, perform, run_call] using hmem
      rcases List.mem_append.mp hmem' with hold | hnew
      · exact hquiet _ _ _ hold
      · simp at hnew
  · rw [storeMetadata, if_neg hmeta]
    exact ⟨hrow, hquiet⟩

/-- A heartbeat whose payload names another device refreshes the row of that device. -/
theorem status_harmful {rolloutMgr : Bool} {s : ReportStore} {X : DeviceID} {payload : Option Json}
    {p : StatusPayload} (hp : payload.bind StatusPayload.unmarshal = some p) (hX : p.deviceID ≠ X) :
    ¬ ConcernsTopicDevice rolloutMgr s ⟨X, .status, payload⟩ := by
  intro h
  obtain ⟨st, hrow, hquiet, hrun⟩ : ∃ st : ReportStore × CallbackLog,
      st.1.UpdatedAt p.deviceID ((s.columns p.deviceID).updatedAt + 1) ∧ NoPublish st.2.ops ∧
        process rolloutMgr (clear ((s.columns p.deviceID).updatedAt + 1)) s ⟨X, .status, payload⟩ =
          ((storeMetadata p).run (execRead (clear ((s.columns p.deviceID).updatedAt + 1))) st).2 := by
    refine ⟨(s.upsertDevice p.upsertParams ((s.columns p.deviceID).updatedAt + 1),
      [⟨.upsertDevice p.upsertParams, ()⟩]), (s.row_upsertDevice p.upsertParams _).1, ?_, ?_⟩
    · simp [NoPublish, CallbackLog.ops]
    · simp only [process, Message.handler, handleStatus, hp]
      rfl
  have hend := run_storeMetadata p ((s.columns p.deviceID).updatedAt + 1) _ hrow hquiet
  rw [← hrun] at hend
  exact not_concernsOnly_of_updated hX hend.1 hend.2 (h _)

/-! ### Reports -/

section

variable {s : ReportStore} {X : DeviceID} {payload : Option Json}

/-- Rows that differ afterwards are a change of another device. -/
theorem not_concernsOnly_of_rows {i : DeviceID} {s' : ReportStore} {ops : List ClientOp}
    (hi : i ≠ X) (hrows : s'.db.rowsOfDevice i ≠ s.db.rowsOfDevice i) :
    ¬ ConcernsOnly X s s' ops :=
  fun h => hrows (h i hi).1

/-- The lookup of a report, if it does not fail. -/
theorem run_lookup {α : Type} {i : DeviceID} {row : DeploymentDevice}
    {k : Option DeploymentDevice → Rollout α} (now : Nat) (hrow : s.db.activeRow i = some row) :
    ∃ st : ReportStore × CallbackLog, st.1.db = s.db ∧
      (Callback.ofRollout (.call (.sql (.getActiveDeploymentDeviceByDevice i)) k)).run
          (execRead (clear now)) (s, []) =
        (Callback.ofRollout (k (some row))).run (execRead (clear now)) st := by
  obtain ⟨hanswer, hdb⟩ := execRead_clear now (s, []) (.getActiveDeploymentDeviceByDevice i)
  refine ⟨_, hdb, ?_⟩
  exact run_call_of_answer (hanswer.trans hrow)

/-- The row of an active device is one of the rows the update of a report selects. -/
theorem selects_activeRow {i : DeviceID} {row : DeploymentDevice}
    (hrow : s.db.activeRow i = some row) {p : UpdateDeploymentDeviceStatusParams}
    (hid : p.deploymentID = row.deploymentID) (hdevice : p.deviceID = i) :
    row ∈ s.db.deploymentDevices ∧ p.selects row = true := by
  obtain ⟨hmem, hactive⟩ := Db.activeRow_spec hrow
  have hrowi : row.deviceID = i := ((s.db.isActive_iff i row).mp hactive).1
  exact ⟨hmem, by simp [UpdateDeploymentDeviceStatusParams.selects, hid, hdevice, hrowi]⟩

/-- The handler of an error goes on from the row it finds. -/
theorem run_handleDeviceError (event : DeviceErrorEvent) {row : DeploymentDevice} (now : Nat)
    (hrow : s.db.activeRow event.deviceID = some row) :
    ∃ st : ReportStore × CallbackLog, st.1.db = s.db ∧
      (Callback.ofRollout (handleDeviceError event)).run (execRead (clear now)) (s, []) =
        (Callback.ofRollout (errorOnRow event row)).run (execRead (clear now)) st := by
  rw [handleDeviceError, query_bind]
  exact run_lookup now hrow

/-- The handler of a progress goes on from the row it finds. -/
theorem run_handleDeviceProgress (event : DeviceProgressEvent) {row : DeploymentDevice}
    (now : Nat) (hrow : s.db.activeRow event.deviceID = some row) :
    ∃ st : ReportStore × CallbackLog, st.1.db = s.db ∧
      (Callback.ofRollout (handleDeviceProgress event)).run (execRead (clear now)) (s, []) =
        (Callback.ofRollout (progressOnRow event row)).run (execRead (clear now)) st := by
  rw [handleDeviceProgress, query_bind]
  exact run_lookup now hrow

/-- An error report on an open row of another device fails that row. -/
theorem error_harmful {p : ErrorPayload} (hp : payload.bind ErrorPayload.unmarshal = some p)
    (hX : p.deviceID ≠ X) (hreport : ¬ s.db.IgnoresError p.event) :
    ¬ ConcernsTopicDevice true s ⟨X, .error, payload⟩ := by
  intro h
  obtain ⟨row, hreport⟩ := not_forall.mp hreport
  obtain ⟨hrow, hopen⟩ := Classical.not_imp.mp hreport
  let u : UpdateDeploymentDeviceStatusParams :=
    ⟨row.deploymentID, p.deviceID, "failed", row.progress, some p.error⟩
  have hshows : ¬ s.db.Shows u := by
    intro hshows
    obtain ⟨hmem, hsel⟩ := selects_activeRow hrow (p := u) rfl rfl
    have hstatus : "failed" = row.status := congrArg DeploymentDevice.status (hshows row hmem hsel)
    exact hopen (Or.inr hstatus.symm)
  obtain ⟨st, hdb, hrun⟩ := run_handleDeviceError p.event 0 hrow
  have hprocess : process true (clear 0) s ⟨X, .error, payload⟩ =
      ((Callback.ofRollout (errorOnRow p.event row)).run (execRead (clear 0)) st).2 := by
    rw [← hrun]
    simp only [process, Message.handler, handleError, hp, if_true, run_bind]
    rfl
  have hrows : (process true (clear 0) s ⟨X, .error, payload⟩).1.db.deploymentDevices =
      (s.db.updateDeploymentDeviceStatus u).2.deploymentDevices := by
    rw [hprocess, errorOnRow, if_neg hopen, query_bind, ← hdb]
    refine run_update 0 (fun (r : Option DeploymentDevice) => ?_) st
    cases r with
    | none => trivial
    | some _ =>
        dsimp only
        rw [query_bind]
        exact ⟨rfl, fun _ _ => evaluateFailure_keepsRows row⟩
  refine not_concernsOnly_of_rows hX ?_ (h (clear 0))
  rw [Db.rowsOfDevice, hrows]
  exact Db.rowsOfDevice_update_ne hshows

/-- A progress report of another device that the rows do not show already rewrites them. -/
theorem progress_harmful_rows {p : ProgressPayload} {row : DeploymentDevice}
    (hp : payload.bind ProgressPayload.unmarshal = some p) (hX : p.deviceID ≠ X)
    (hrow : s.db.activeRow p.deviceID = some row) (hshows : ¬ s.db.Shows (p.event.update row)) :
    ¬ ConcernsTopicDevice true s ⟨X, .progress, payload⟩ := by
  intro h
  obtain ⟨st, hdb, hrun⟩ := run_handleDeviceProgress p.event 0 hrow
  have hprocess : process true (clear 0) s ⟨X, .progress, payload⟩ =
      ((Callback.ofRollout (progressOnRow p.event row)).run (execRead (clear 0)) st).2 := by
    rw [← hrun]
    simp only [process, Message.handler, handleProgress, hp, if_true, run_bind]
    rfl
  have hrows : (process true (clear 0) s ⟨X, .progress, payload⟩).1.db.deploymentDevices =
      (s.db.updateDeploymentDeviceStatus (p.event.update row)).2.deploymentDevices := by
    rw [hprocess, progressOnRow, query_bind, ← hdb]
    refine run_update 0 (fun (r : Option DeploymentDevice) => ?_) st
    cases r with
    | none => trivial
    | some _ =>
        dsimp only
        split
        · exact creditSuccess_keepsRows p.event row
        · trivial
  refine not_concernsOnly_of_rows hX ?_ (h (clear 0))
  rw [Db.rowsOfDevice, hrows]
  exact Db.rowsOfDevice_update_ne hshows

/-- A device is updated at {lit}`t` if it is after the rest of the program. -/
theorem run_query_updatedAt {α : Type} {q : Query} {k : Option q.Row → Rollout α} {now t : Nat}
    {i : DeviceID} {st : ReportStore × CallbackLog} {r : Option q.Row}
    (hr : (st.1.db.exec 0 q).1 = r)
    (hk : ∀ st' : ReportStore × CallbackLog, st'.1.db = (st.1.db.exec 0 q).2 →
      ((Callback.ofRollout (k r)).run (execRead (clear now)) st').2.1.UpdatedAt i t) :
    ((Callback.ofRollout (.call (.sql q) k)).run (execRead (clear now)) st).2.1.UpdatedAt i t := by
  obtain ⟨hanswer, hdb⟩ := execRead_clear now st q
  have hrest := hk _ hdb
  rw [← hanswer.trans hr] at hrest
  exact hrest

/-- A version that is written sets the time. -/
theorem updatedAt_install {i : DeviceID} (version : String) (now : Nat)
    {st : ReportStore × CallbackLog} (hdevice : (st.1.db.device i).isSome = true) :
    (execRead (clear now) st
      (.rollout (.sql (.updateDeviceVersion i version)))).2.1.UpdatedAt i now := by
  obtain ⟨d, hd⟩ := Option.isSome_iff_exists.mp hdevice
  refine ⟨{ d with currentVersion := version, status := "online" },
    { st.1.columns i with updatedAt := now }, ?_, rfl⟩
  refine (st.1.row_updateDeviceVersion i i version (clear now st.2.length) rfl).trans ?_
  rw [if_pos rfl, ReportStore.row, hd]
  rfl

/-- A program that writes no version leaves the times alone. -/
theorem run_updatedAt {α : Type} {p : Rollout α} {i : DeviceID} {t : Nat} (now : Nat)
    (hp : Always AnyAnswer (fun op => ∀ i version, op ≠ .sql (.updateDeviceVersion i version)) p)
    {st : ReportStore × CallbackLog} (hst : st.1.UpdatedAt i t) :
    ((Callback.ofRollout p).run (execRead (clear now)) st).2.1.UpdatedAt i t := by
  induction p generalizing st with
  | done a => exact hst
  | call op k ih =>
      apply ih _ (hp.2 _ trivial)
      obtain ⟨d, c, hrow, hc⟩ := hst
      refine ⟨d, c, ?_, hc⟩
      exact (st.1.row_execRollout op (clear now st.2.length) hp.1 i).trans hrow

/-- A program that publishes nothing leaves no command in the log. -/
theorem run_noPublish {α : Type} {p : Rollout α} (now : Nat)
    (hp : Always AnyAnswer (fun op => ∀ id i cmd, op ≠ .publishCommand id i cmd) p)
    {st : ReportStore × CallbackLog} (hst : NoPublish st.2.ops) :
    NoPublish ((Callback.ofRollout p).run (execRead (clear now)) st).2.2.ops := by
  induction p generalizing st with
  | done a => exact hst
  | call op k ih =>
      apply ih _ (hp.2 _ trivial)
      intro id i cmd hmem
      have hmem' : ClientOp.rollout (.publishCommand id i cmd) ∈ st.2.ops ++ [.rollout op] := by
        simpa [execRead, CallbackLog.ops] using hmem
      rcases List.mem_append.mp hmem' with hold | hnew
      · exact hst _ _ _ hold
      · have hop : Op.publishCommand id i cmd = op := by simpa using hnew
        exact hp.1 id i cmd hop.symm

/-- A progress report sends no command. -/
theorem handleDeviceProgress_noPublish (event : DeviceProgressEvent) :
    Always AnyAnswer (fun op => ∀ id i cmd, op ≠ .publishCommand id i cmd)
      (handleDeviceProgress event) := by
  rw [handleDeviceProgress, query_bind]
  refine ⟨by simp, fun (r : Option DeploymentDevice) _ => ?_⟩
  cases r with
  | none => trivial
  | some row =>
      have hforward : Always AnyAnswer (ForwardOp [event.deviceID]) (progressOnRow event row) :=
        progressOnRow_forward (by simp) row
      apply hforward.mono (fun _ _ h => h)
      intro op hop
      cases hop <;> simp

/-- The completion branch writes no version. -/
theorem completion_noVersion (depID : DeploymentID) (dep : Deployment) (c : Prop) [Decidable c] :
    Always AnyAnswer (fun op => ∀ i version, op ≠ .sql (.updateDeviceVersion i version))
      (if c then (do completeDeployment depID dep; return .ok () : Rollout Outcome)
        else return .ok ()) := by
  split
  · rw [completeDeployment, query_bind]
    refine ⟨by simp, fun _ _ => Always.bind ?_ fun _ => trivial⟩
    split
    · exact ⟨by simp, fun _ _ => trivial⟩
    · trivial
  · trivial

/-- An update that selects a row answers with a row. -/
theorem Db.updateDeploymentDeviceStatus_answer {db : Db} {p : UpdateDeploymentDeviceStatusParams}
    {row : DeploymentDevice} (hmem : row ∈ db.deploymentDevices) (hsel : p.selects row = true) :
    ∃ row', (db.updateDeploymentDeviceStatus p).1 = some row' := by
  apply Option.isSome_iff_exists.mp
  apply List.find?_isSome.mpr
  refine ⟨p.set row, List.mem_map.mpr ⟨row, hmem, if_pos hsel⟩, ?_⟩
  exact hsel

/-- A credited success report sets the time of its device. -/
theorem run_creditSuccess_updatedAt {event : DeviceProgressEvent} {row : DeploymentDevice}
    {dep : Deployment} {fw : FirmwareVersion} (now : Nat) {st : ReportStore × CallbackLog}
    (hdep : st.1.db.deployment row.deploymentID = some dep)
    (hopen : ¬ (dep.status = .rolledBack ∨ dep.status = .failed))
    (hfw : st.1.db.firmware.find? dep.firmwareVersionID = some fw)
    (hdevice : (st.1.db.device event.deviceID).isSome = true) :
    ((Callback.ofRollout (creditSuccess event row)).run
      (execRead (clear now)) st).2.1.UpdatedAt event.deviceID now := by
  rw [creditSuccess, getDeployment_bind]
  refine run_query_updatedAt (q := .getDeployment row.deploymentID .handler) (r := some dep) hdep ?_
  intro st₁ hdb₁
  dsimp only
  rw [if_neg hopen, query_bind]
  apply run_query_updatedAt rfl
  intro st₂ hdb₂
  rw [hdb₁] at hdb₂
  rw [recordInstalledVersion, query_bind]
  refine run_query_updatedAt (q := .getFirmwareVersion dep.firmwareVersionID) (r := some fw) ?_ ?_
  · rw [hdb₂]
    exact hfw
  · intro st₃ hdb₃
    rw [hdb₂] at hdb₃
    apply run_updatedAt now (completion_noVersion _ _ _)
    apply updatedAt_install
    rw [hdb₃]
    exact hdevice

/-- A credited success report of another device writes its version again. -/
theorem progress_harmful_install {p : ProgressPayload} {row : DeploymentDevice}
    (hp : payload.bind ProgressPayload.unmarshal = some p) (hX : p.deviceID ≠ X)
    (hrow : s.db.activeRow p.deviceID = some row) (hinstalls : s.db.Installs p.event row) :
    ¬ ConcernsTopicDevice true s ⟨X, .progress, payload⟩ := by
  intro h
  obtain ⟨hsuccess, dep, hdep, hopen, hfirmware, hdevice⟩ := hinstalls
  obtain ⟨fw, hfw⟩ := Option.isSome_iff_exists.mp hfirmware
  generalize hnow : (s.columns p.deviceID).updatedAt + 1 = now
  obtain ⟨st, hdb, hrun⟩ := run_handleDeviceProgress p.event now hrow
  have hprocess : process true (clear now) s ⟨X, .progress, payload⟩ =
      ((Callback.ofRollout (handleDeviceProgress p.event)).run (execRead (clear now)) (s, [])).2 := by
    simp only [process, Message.handler, handleProgress, hp, if_true, run_bind]
    rfl
  have hquiet : NoPublish (process true (clear now) s ⟨X, .progress, payload⟩).2.ops := by
    rw [hprocess]
    exact run_noPublish now (handleDeviceProgress_noPublish _) (by simp [NoPublish, CallbackLog.ops])
  have hupdated : (process true (clear now) s ⟨X, .progress, payload⟩).1.UpdatedAt p.deviceID
      ((s.columns p.deviceID).updatedAt + 1) := by
    rw [hprocess, hrun, progressOnRow, query_bind, hnow]
    obtain ⟨hmem, hsel⟩ := selects_activeRow hrow (p := p.event.update row) rfl rfl
    obtain ⟨row', hrow'⟩ := Db.updateDeploymentDeviceStatus_answer hmem hsel
    rw [← hdb] at hrow' hdep hdevice
    refine run_query_updatedAt (q := .updateDeploymentDeviceStatus (p.event.update row))
      (r := some row') hrow' ?_
    intro st₁ hdb₁
    dsimp only
    rw [if_pos hsuccess]
    have hdep₁ : st₁.1.db.deployment row.deploymentID = some dep := by
      rw [hdb₁]
      exact hdep
    have hfw₁ : st₁.1.db.firmware.find? dep.firmwareVersionID = some fw := by
      rw [hdb₁, hdb]
      exact hfw
    have hdevice₁ : (st₁.1.db.device p.deviceID).isSome = true := by
      rw [hdb₁]
      exact hdevice
    exact run_creditSuccess_updatedAt now hdep₁ hopen hfw₁ hdevice₁
  exact not_concernsOnly_of_updated hX hupdated hquiet (h _)

end

/-! ## Exactly which messages -/

/-- A message concerns the device of its topic only exactly if its payload names that device, or
its callback has nothing to write for the device it names. -/
theorem message_concerns_topic_device (rolloutMgr : Bool) (s : ReportStore) (msg : Message) :
    ConcernsTopicDevice rolloutMgr s msg ↔ msg.Harmless rolloutMgr s.db := by
  constructor
  · intro h
    obtain ⟨X, channel, payload⟩ := msg
    cases channel with
    | status =>
        intro p hp
        by_contra hX
        exact status_harmful hp hX h
    | progress =>
        intro hmgr p hp
        subst hmgr
        by_cases hX : p.deviceID = X
        · exact Or.inl hX
        · right
          intro row hrow
          constructor
          · by_contra hshows
            exact progress_harmful_rows hp hX hrow hshows h
          · intro hinstalls
            exact progress_harmful_install hp hX hrow hinstalls h
    | error =>
        intro hmgr p hp
        subst hmgr
        by_cases hX : p.deviceID = X
        · exact Or.inl hX
        · right
          by_contra hreport
          exact error_harmful hp hX hreport h
  · exact concerns_of_harmless

/-- A heartbeat on the topic of one robot that names another one in its payload. -/
def misaddressedHeartbeat : Message where
  topicDevice := "robot-1"
  channel := .status
  payload := some (.object [("device_id", .string "robot-2"), ("version", .string "1.0.0"),
    ("status", .string "error")])

/-- The other robot is shown with an error. -/
theorem misaddressed_heartbeat_concerns_another :
    ¬ ConcernsTopicDevice true
      { db := ControlPlane.fleetDb ["robot-1", "robot-2"] (by decide) } misaddressedHeartbeat := by
  have hnamed : misaddressedHeartbeat.payload.bind StatusPayload.unmarshal =
      some ⟨"robot-2", "", "", "1.0.0", "error", "", none⟩ := by
    rfl
  exact status_harmful hnamed (by decide)

end OtaRobot
