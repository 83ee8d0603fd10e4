import Mathlib.Data.List.Sort
import Mathlib.Data.Rat.Defs
import OtaRobot.Library.Table

/-!
# The control plane's database

The tables {lit}`firmware_versions`, {lit}`devices`, {lit}`deployments` and
{lit}`deployment_devices` with the sqlc queries the rollout manager and the
deployment handlers issue.  A query is one atomic statement; {lit}`Db.exec` is its
meaning when it does not fail.  Rows stand in {lit}`created_at` order, so
{lit}`ORDER BY created_at DESC LIMIT 1` is the last matching row.

A {lit}`:one` query that finds no row answers {lean}`none`, as pgx answers
{lit}`ErrNoRows`; a failing statement answers {lean}`none` as well and leaves the
tables unchanged (see {lit}`ControlPlane.exec`).

Main results:

- Theorem {lit}`Db.deployment_exec`: what one statement does to one deployment.
- Theorem {lit}`Db.rowsOf_exec`: which statements touch the rows of a deployment.
- Theorem {lit}`Db.activeRow_spec`: what the active-row lookup guarantees.

Current gaps:

- Column widths are not modelled: a value that does not fit is one of the ways in
  which a statement can fail.
- The counters are natural numbers; 32-bit overflow is out of reach of a fleet.
-/

namespace OtaRobot

/-- {lit}`devices.id`, the robot's own name. -/
abbrev DeviceID := String

/-- {lit}`deployments.id`; the UUIDs are numbered. -/
abbrev DeploymentID := Nat

/-- {lit}`firmware_versions.id`. -/
abbrev FirmwareID := Nat

/-! ## Rows -/

/-- The column {lit}`strategy`. -/
inductive Strategy where
  | full
  | canary
deriving DecidableEq, Repr

/-- {lit}`deployments.status`. -/
inductive DeploymentStatus where
  | pending
  | running
  | completed
  | failed
  | rolledBack
deriving DecidableEq, Repr

/-- A row of {lit}`firmware_versions`. -/
structure FirmwareVersion where
  id : FirmwareID
  version : String
  storageKey : String
  sha256Checksum : String
  ecdsaSignature : Option String := none
deriving DecidableEq, Repr

/-- A row of {lit}`devices`. -/
structure Device where
  id : DeviceID
  factoryID : String := "factory-local"
  hwModel : String := "sim-v1"
  currentVersion : String := "0.0.0"
  status : String := "offline"
deriving DecidableEq, Repr

/-- A row of {lit}`deployments`. -/
structure Deployment where
  id : DeploymentID
  firmwareVersionID : FirmwareID
  strategy : Strategy := .full
  status : DeploymentStatus := .pending
  canaryPercentage : Nat := 100
  currentPhase : Nat := 0
  totalDevices : Nat := 0
  successCount : Nat := 0
  failureCount : Nat := 0
  rollbackThreshold : ℚ := 1 / 5
  createdBy : Option String := none
deriving DecidableEq, Repr

/-- A row of {lit}`deployment_devices`.  The status is a text column: the handler
stores whatever the report says. -/
structure DeploymentDevice where
  deploymentID : DeploymentID
  deviceID : DeviceID
  status : String := "pending"
  progress : Int := 0
  errorMessage : Option String := none
  previousVersion : Option String := none
deriving DecidableEq, Repr

/-- The tables. -/
structure Db where
  firmware : Table FirmwareVersion.id
  devices : Table Device.id
  deployments : Table Deployment.id
  deploymentDevices : List DeploymentDevice

/-- The database before the first upload, the first heartbeat and the first rollout. -/
def Db.empty : Db where
  firmware := Table.empty
  devices := Table.empty
  deployments := Table.empty
  deploymentDevices := []

/-- {lit}`SELECT * FROM deployments WHERE id = $1`. -/
def Db.deployment (db : Db) (id : DeploymentID) : Option Deployment :=
  db.deployments.find? id

/-- {lit}`SELECT * FROM devices WHERE id = $1`. -/
def Db.device (db : Db) (id : DeviceID) : Option Device :=
  db.devices.find? id

/-! ## Queries -/

/-- The parameters of {lit}`CreateDeployment`. -/
structure CreateDeploymentParams where
  firmwareVersionID : FirmwareID
  strategy : Strategy
  canaryPercentage : Nat
  totalDevices : Nat
  rollbackThreshold : ℚ
  createdBy : Option String
deriving DecidableEq, Repr

/-- The parameters of {lit}`CreateDeploymentDevice`. -/
structure CreateDeploymentDeviceParams where
  deploymentID : DeploymentID
  deviceID : DeviceID
  previousVersion : Option String
deriving DecidableEq, Repr

/-- The parameters of {lit}`UpdateDeploymentDeviceStatus`. -/
structure UpdateDeploymentDeviceStatusParams where
  deploymentID : DeploymentID
  deviceID : DeviceID
  status : String
  progress : Int
  errorMessage : Option String
deriving DecidableEq, Repr

/-- The line of the source a {lit}`GetDeployment` comes from.  It is an annotation
for the history: the database does not see it. -/
inductive ReadSite where
  | handler
  | phaseCheck (phaseNum : Nat)
  | observeWindow (phaseNum : Nat)
  | rolloutEnd
deriving DecidableEq, Repr

/-- The statements of the control plane. -/
inductive Query where
  | createDeployment (params : CreateDeploymentParams)
  | getDeployment (id : DeploymentID) (site : ReadSite)
  | updateDeploymentStatus (id : DeploymentID) (status : DeploymentStatus)
  | updateDeploymentPhase (id : DeploymentID) (currentPhase canaryPercentage : Nat)
  | incrementDeploymentSuccess (id : DeploymentID)
  | incrementDeploymentFailure (id : DeploymentID)
  | createDeploymentDevice (params : CreateDeploymentDeviceParams)
  | updateDeploymentDeviceStatus (params : UpdateDeploymentDeviceStatusParams)
  | listDeploymentDevices (id : DeploymentID)
  | getActiveDeploymentDeviceByDevice (deviceID : DeviceID)
  | getFirmwareVersion (id : FirmwareID)
  | getDevice (id : DeviceID)
  | listDevices
  | updateDeviceVersion (id : DeviceID) (currentVersion : String)
deriving DecidableEq, Repr

/-- What a successful statement returns. -/
def Query.Row : Query → Type
  | .createDeployment _ => Deployment
  | .getDeployment _ _ => Deployment
  | .updateDeploymentStatus _ _ => Deployment
  | .updateDeploymentPhase _ _ _ => Deployment
  | .incrementDeploymentSuccess _ => Unit
  | .incrementDeploymentFailure _ => Unit
  | .createDeploymentDevice _ => DeploymentDevice
  | .updateDeploymentDeviceStatus _ => DeploymentDevice
  | .listDeploymentDevices _ => List DeploymentDevice
  | .getActiveDeploymentDeviceByDevice _ => DeploymentDevice
  | .getFirmwareVersion _ => FirmwareVersion
  | .getDevice _ => Device
  | .listDevices => List Device
  | .updateDeviceVersion _ _ => Device

/-! ## Statements on deployments -/

/-- {lit}`UPDATE deployments SET ... WHERE id = $1`. -/
def Db.updateDeployment (db : Db) (id : DeploymentID) (f : Deployment → Deployment)
    (hf : ∀ d, (f d).id = d.id) : Db :=
  { db with deployments := db.deployments.modify id f hf }

/-- The inserted row: the columns the statement names, the defaults of the others. -/
def CreateDeploymentParams.row (p : CreateDeploymentParams) (uuid : DeploymentID) :
    Deployment where
  id := uuid
  firmwareVersionID := p.firmwareVersionID
  strategy := p.strategy
  canaryPercentage := p.canaryPercentage
  totalDevices := p.totalDevices
  rollbackThreshold := p.rollbackThreshold
  createdBy := p.createdBy

/-- {lit}`INSERT INTO deployments ... RETURNING *`, with the generated UUID; the
firmware has to exist. -/
def Db.createDeployment (db : Db) (uuid : DeploymentID) (p : CreateDeploymentParams) :
    Option Deployment × Db :=
  match db.firmware.find? p.firmwareVersionID, db.deployments.insert (p.row uuid) with
  | some _, some deployments => (some (p.row uuid), { db with deployments })
  | _, _ => (none, db)

/-! ## Statements on the rows of deployments -/

/-- The row statuses the active-row lookup takes for terminal. -/
def terminalRowStatuses : List String :=
  ["success", "failed", "rolled_back"]

/-- {lit}`dd.device_id = $1 AND (d.status = 'running' OR dd.status NOT IN (...))` of
the row joined with its deployment. -/
def Db.isActive (db : Db) (deviceID : DeviceID) (row : DeploymentDevice) : Bool :=
  match db.deployment row.deploymentID with
  | none => false
  | some d =>
      row.deviceID = deviceID &&
        (d.status = .running || !(terminalRowStatuses.contains row.status))

/-- The newest active row of a device. -/
def Db.activeRow (db : Db) (deviceID : DeviceID) : Option DeploymentDevice :=
  (db.deploymentDevices.filter (db.isActive deviceID)).getLast?

/-- {lit}`WHERE deployment_id = $1 AND device_id = $2`. -/
def UpdateDeploymentDeviceStatusParams.selects (p : UpdateDeploymentDeviceStatusParams)
    (row : DeploymentDevice) : Bool :=
  row.deploymentID = p.deploymentID && row.deviceID = p.deviceID

/-- {lit}`SET status = $3, progress = $4, error_message = $5`. -/
def UpdateDeploymentDeviceStatusParams.set (p : UpdateDeploymentDeviceStatusParams)
    (row : DeploymentDevice) : DeploymentDevice :=
  { row with status := p.status, progress := p.progress, errorMessage := p.errorMessage }

/-- {lit}`UpdateDeploymentDeviceStatus`: all rows of the pair, and the first of them is returned. -/
def Db.updateDeploymentDeviceStatus (db : Db) (p : UpdateDeploymentDeviceStatusParams) :
    Option DeploymentDevice × Db :=
  let rows := db.deploymentDevices.map fun row => if p.selects row then p.set row else row
  (rows.find? p.selects, { db with deploymentDevices := rows })

/-- The row that {lit}`CreateDeploymentDevice` inserts. -/
def CreateDeploymentDeviceParams.row (p : CreateDeploymentDeviceParams) :
    DeploymentDevice where
  deploymentID := p.deploymentID
  deviceID := p.deviceID
  previousVersion := p.previousVersion

/-- {lit}`INSERT INTO deployment_devices`; both foreign keys have to exist. -/
def Db.createDeploymentDevice (db : Db) (p : CreateDeploymentDeviceParams) :
    Option DeploymentDevice × Db :=
  match db.deployment p.deploymentID, db.device p.deviceID with
  | some _, some _ =>
      (some p.row, { db with deploymentDevices := db.deploymentDevices ++ [p.row] })
  | _, _ => (none, db)

/-- {lit}`SELECT ... JOIN devices ... WHERE dd.deployment_id = $1 ORDER BY dd.created_at`. -/
def Db.listDeploymentDevices (db : Db) (id : DeploymentID) : List DeploymentDevice :=
  db.deploymentDevices.filter fun row =>
    row.deploymentID = id && (db.device row.deviceID).isSome

/-! ## Statements on devices -/

/-- {lit}`SELECT * FROM devices ORDER BY factory_id, created_at DESC`. -/
def Db.listDevices (db : Db) : List Device :=
  db.devices.rows.reverse.insertionSort fun a b => a.factoryID ≤ b.factoryID

/-- {lit}`UPDATE devices SET current_version = $2, status = 'online' WHERE id = $1`. -/
def Db.updateDeviceVersion (db : Db) (id : DeviceID) (currentVersion : String) : Db :=
  { db with
    devices := db.devices.modify id
      (fun d => { d with currentVersion := currentVersion, status := "online" })
      fun _ => rfl }

/-! ## Executing a statement -/

/-- One statement that does not fail; {lit}`uuid` is the UUID a new row would get. -/
def Db.exec (db : Db) (uuid : DeploymentID) : (q : Query) → Option q.Row × Db
  | .createDeployment p => db.createDeployment uuid p
  | .getDeployment id _ => (db.deployment id, db)
  | .updateDeploymentStatus id status =>
      let db' := db.updateDeployment id (fun d => { d with status := status }) fun _ => rfl
      (db'.deployment id, db')
  | .updateDeploymentPhase id currentPhase canaryPercentage =>
      let db' := db.updateDeployment id
        (fun d => { d with currentPhase := currentPhase, canaryPercentage := canaryPercentage })
        fun _ => rfl
      (db'.deployment id, db')
  | .incrementDeploymentSuccess id =>
      (some (), db.updateDeployment id
        (fun d => { d with successCount := d.successCount + 1 }) fun _ => rfl)
  | .incrementDeploymentFailure id =>
      (some (), db.updateDeployment id
        (fun d => { d with failureCount := d.failureCount + 1 }) fun _ => rfl)
  | .createDeploymentDevice p => db.createDeploymentDevice p
  | .updateDeploymentDeviceStatus p => db.updateDeploymentDeviceStatus p
  | .listDeploymentDevices id => (some (db.listDeploymentDevices id), db)
  | .getActiveDeploymentDeviceByDevice deviceID => (db.activeRow deviceID, db)
  | .getFirmwareVersion id => (db.firmware.find? id, db)
  | .getDevice id => (db.device id, db)
  | .listDevices => (some db.listDevices, db)
  | .updateDeviceVersion id currentVersion =>
      let db' := db.updateDeviceVersion id currentVersion
      (db'.device id, db')

/-! ## What a statement does to one deployment -/

/-- The effect of a statement on an existing deployment row. -/
def Query.onDeployment (q : Query) (d : Deployment) : Deployment :=
  match q with
  | .updateDeploymentStatus id status => if id = d.id then { d with status := status } else d
  | .updateDeploymentPhase id currentPhase canaryPercentage =>
      if id = d.id then
        { d with currentPhase := currentPhase, canaryPercentage := canaryPercentage }
      else d
  | .incrementDeploymentSuccess id =>
      if id = d.id then { d with successCount := d.successCount + 1 } else d
  | .incrementDeploymentFailure id =>
      if id = d.id then { d with failureCount := d.failureCount + 1 } else d
  | _ => d

/-- A deployment is found under its id. -/
theorem Db.deployment_id {db : Db} {id : DeploymentID} {d : Deployment}
    (h : db.deployment id = some d) : d.id = id :=
  Table.find?_key h

/-- A device is found under its id. -/
theorem Db.device_id {db : Db} {id : DeviceID} {d : Device}
    (h : db.device id = some d) : d.id = id :=
  Table.find?_key h

/-- What a version update writes. -/
theorem Db.device_updateDeviceVersion (db : Db) (deviceID i : DeviceID) (version : String) :
    (db.updateDeviceVersion deviceID version).device i =
      if i = deviceID then
        (db.device deviceID).map fun d => { d with currentVersion := version, status := "online" }
      else db.device i := by
  by_cases hi : i = deviceID
  · simp [Db.updateDeviceVersion, Db.device, hi]
  · simp [Db.updateDeviceVersion, Db.device, hi, Table.find?_modify]

/-- An update of a deployment, and what is found afterwards. -/
theorem Db.deployment_updateDeployment (db : Db) (id id' : DeploymentID)
    (f : Deployment → Deployment) (hf : ∀ d, (f d).id = d.id) :
    (db.updateDeployment id f hf).deployment id' =
      if id' = id then (db.deployment id').map f else db.deployment id' :=
  Table.find?_modify _ _ _ _ hf

/-- A created deployment is new, and only its own row appears. -/
theorem Db.deployment_createDeployment (db : Db) (uuid : DeploymentID)
    (p : CreateDeploymentParams) (id : DeploymentID) :
    ((db.createDeployment uuid p).2.deployment id = db.deployment id ∧
        ∀ d, (db.createDeployment uuid p).1 = some d → d.id ≠ id) ∨
      (db.deployment id = none ∧ id = uuid ∧
        ∃ d, (db.createDeployment uuid p).1 = some d ∧ d.id = uuid ∧
          d.status = .pending ∧ (db.createDeployment uuid p).2.deployment id = some d) := by
  unfold Db.createDeployment
  split
  · rename_i row deployments hfirmware hinsert
    by_cases hid : id = uuid
    · subst hid
      right
      refine ⟨Table.insert_fresh hinsert, rfl, p.row id, rfl, rfl, rfl, ?_⟩
      simp [Db.deployment, Table.find?_insert hinsert, CreateDeploymentParams.row]
    · left
      refine ⟨?_, ?_⟩
      · simp [Db.deployment, Table.find?_insert hinsert, CreateDeploymentParams.row, hid]
      · rintro d hd
        obtain rfl := Option.some.inj hd
        exact Ne.symm hid
  · exact Or.inl ⟨rfl, fun d hd => by simp at hd⟩

/-- An insert that answers has inserted the row it answers with. -/
theorem Db.createDeployment_eq_some {db : Db} {uuid : DeploymentID}
    {p : CreateDeploymentParams} {d : Deployment} (h : (db.createDeployment uuid p).1 = some d) :
    d = p.row uuid ∧ (db.createDeployment uuid p).2.deployment d.id = some d := by
  unfold Db.createDeployment at h ⊢
  split at h
  · rename_i row deployments hfirmware hinsert
    obtain rfl := Option.some.inj h
    refine ⟨rfl, ?_⟩
    simp [Db.deployment, Table.find?_insert hinsert]
  · cases h

/-- What one statement does to an existing deployment. -/
theorem Db.deployment_exec {db : Db} {uuid : DeploymentID} {q : Query}
    {id : DeploymentID} {d : Deployment} (h : db.deployment id = some d) :
    (db.exec uuid q).2.deployment id = some (q.onDeployment d) := by
  have hid : d.id = id := Db.deployment_id h
  cases q with
  | createDeployment p =>
      rcases db.deployment_createDeployment uuid p id with ⟨heq, -⟩ | ⟨hnone, -⟩
      · simpa [Db.exec, Query.onDeployment, h] using heq
      · simp [h] at hnone
  | updateDeploymentStatus id' status =>
      simp only [Db.exec, Query.onDeployment, Db.deployment_updateDeployment, h, hid, eq_comm]
      split <;> simp_all
  | updateDeploymentPhase id' currentPhase canaryPercentage =>
      simp only [Db.exec, Query.onDeployment, Db.deployment_updateDeployment, h, hid, eq_comm]
      split <;> simp_all
  | incrementDeploymentSuccess id' =>
      simp only [Db.exec, Query.onDeployment, Db.deployment_updateDeployment, h, hid, eq_comm]
      split <;> simp_all
  | incrementDeploymentFailure id' =>
      simp only [Db.exec, Query.onDeployment, Db.deployment_updateDeployment, h, hid, eq_comm]
      split <;> simp_all
  | createDeploymentDevice p =>
      have : (db.createDeploymentDevice p).2.deployment id = db.deployment id := by
        unfold Db.createDeploymentDevice
        split <;> rfl
      simpa [Db.exec, Query.onDeployment, h] using this
  | _ => exact h

/-- A deployment that appears has just been inserted. -/
theorem Db.deployment_exec_none {db : Db} {uuid : DeploymentID} {q : Query}
    {id : DeploymentID} {d : Deployment} (h : db.deployment id = none)
    (h' : (db.exec uuid q).2.deployment id = some d) :
    id = uuid ∧ ∃ p, q = .createDeployment p := by
  cases q with
  | createDeployment p =>
      rcases db.deployment_createDeployment uuid p id with ⟨heq, -⟩ | ⟨-, huuid, -⟩
      · simp only [Db.exec] at h'
        rw [heq, h] at h'
        simp at h'
      · exact ⟨huuid, p, rfl⟩
  | updateDeploymentStatus id' status =>
      simp only [Db.exec, Db.deployment_updateDeployment, h] at h'
      split at h' <;> simp at h'
  | updateDeploymentPhase id' currentPhase canaryPercentage =>
      simp only [Db.exec, Db.deployment_updateDeployment, h] at h'
      split at h' <;> simp at h'
  | incrementDeploymentSuccess id' =>
      simp only [Db.exec, Db.deployment_updateDeployment, h] at h'
      split at h' <;> simp at h'
  | incrementDeploymentFailure id' =>
      simp only [Db.exec, Db.deployment_updateDeployment, h] at h'
      split at h' <;> simp at h'
  | createDeploymentDevice p =>
      have : (db.createDeploymentDevice p).2.deployment id = db.deployment id := by
        unfold Db.createDeploymentDevice
        split <;> rfl
      simp only [Db.exec] at h'
      rw [this, h] at h'
      simp at h'
  | _ =>
      simp only [Db.exec] at h'
      exact absurd (h.symm.trans h') (by simp)

/-- Only {lit}`UpdateDeploymentStatus` writes the status column. -/
theorem Query.onDeployment_status (q : Query) (d : Deployment) :
    (q.onDeployment d).status = d.status ∨
      q = .updateDeploymentStatus d.id (q.onDeployment d).status := by
  cases q with
  | updateDeploymentStatus id status =>
      simp only [Query.onDeployment]
      split <;> simp_all
  | updateDeploymentPhase | incrementDeploymentSuccess | incrementDeploymentFailure =>
      simp only [Query.onDeployment]
      split <;> simp
  | _ => exact Or.inl rfl

/-- No statement changes what was fixed at the creation of a deployment. -/
theorem Query.onDeployment_fixed (q : Query) (d : Deployment) :
    (q.onDeployment d).id = d.id ∧ (q.onDeployment d).totalDevices = d.totalDevices ∧
      (q.onDeployment d).rollbackThreshold = d.rollbackThreshold ∧
        (q.onDeployment d).strategy = d.strategy ∧
          (q.onDeployment d).firmwareVersionID = d.firmwareVersionID := by
  cases q with
  | updateDeploymentStatus | updateDeploymentPhase | incrementDeploymentSuccess
  | incrementDeploymentFailure =>
      simp only [Query.onDeployment]
      split <;> simp
  | _ => exact ⟨rfl, rfl, rfl, rfl, rfl⟩

/-! ## The active-row lookup -/

/-- The condition of the active row. -/
theorem Db.isActive_iff (db : Db) (deviceID : DeviceID) (row : DeploymentDevice) :
    db.isActive deviceID row = true ↔
      row.deviceID = deviceID ∧ ∃ d, db.deployment row.deploymentID = some d ∧
        (d.status = .running ∨ row.status ∉ terminalRowStatuses) := by
  unfold Db.isActive
  split
  · rename_i h
    simp [h]
  · rename_i d h
    simp [h]

/-- The lookup returns an active row of the device. -/
theorem Db.activeRow_spec {db : Db} {deviceID : DeviceID} {row : DeploymentDevice}
    (h : db.activeRow deviceID = some row) :
    row ∈ db.deploymentDevices ∧ db.isActive deviceID row = true := by
  have hmem := List.mem_of_getLast? h
  exact List.mem_filter.mp hmem

/-- A device with an active row has a newest one. -/
theorem Db.activeRow_isSome {db : Db} {deviceID : DeviceID} {row : DeploymentDevice}
    (hmem : row ∈ db.deploymentDevices) (h : db.isActive deviceID row = true) :
    ∃ row', db.activeRow deviceID = some row' := by
  have hne : db.deploymentDevices.filter (db.isActive deviceID) ≠ [] :=
    List.ne_nil_of_mem (List.mem_filter.mpr ⟨hmem, h⟩)
  exact ⟨_, List.getLast?_eq_some_getLast hne⟩

/-! ## The rows of one deployment -/

/-- The rows of a deployment, in creation order. -/
def Db.rowsOf (db : Db) (id : DeploymentID) : List DeploymentDevice :=
  db.deploymentDevices.filter fun row => row.deploymentID = id

/-- The rows of a deployment. -/
theorem Db.mem_rowsOf {db : Db} {id : DeploymentID} {row : DeploymentDevice} :
    row ∈ db.rowsOf id ↔ row ∈ db.deploymentDevices ∧ row.deploymentID = id := by
  simp [Db.rowsOf]

/-- A status update rewrites, of the rows of one deployment, exactly those it selects. -/
theorem Db.rowsOf_updateDeploymentDeviceStatus (db : Db)
    (p : UpdateDeploymentDeviceStatusParams) (id : DeploymentID) :
    (db.updateDeploymentDeviceStatus p).2.rowsOf id =
      (db.rowsOf id).map fun row => if p.selects row then p.set row else row := by
  unfold Db.rowsOf Db.updateDeploymentDeviceStatus
  rw [List.filter_map]
  congr 1
  apply List.filter_congr
  intro row _
  simp only [Function.comp]
  split <;> rfl

/-- A status update that selects a row returns one. -/
theorem Db.updateDeploymentDeviceStatus_isSome {db : Db}
    {p : UpdateDeploymentDeviceStatusParams} {row : DeploymentDevice}
    (hrow : row ∈ db.deploymentDevices) (hsel : p.selects row = true) :
    ∃ row', (db.updateDeploymentDeviceStatus p).1 = some row' := by
  rw [← Option.isSome_iff_exists, Db.updateDeploymentDeviceStatus, List.find?_isSome]
  refine ⟨p.set row, ?_, hsel⟩
  exact List.mem_map.mpr ⟨row, hrow, if_pos hsel⟩

/-- An update for another deployment selects no row of this one. -/
theorem UpdateDeploymentDeviceStatusParams.not_selects_of_mem_rowsOf {db : Db}
    {p : UpdateDeploymentDeviceStatusParams} {id : DeploymentID} (h : p.deploymentID ≠ id)
    {row : DeploymentDevice} (hrow : row ∈ db.rowsOf id) : p.selects row = false := by
  have hid : row.deploymentID = id := (Db.mem_rowsOf.mp hrow).2
  simp [UpdateDeploymentDeviceStatusParams.selects, hid, Ne.symm h]

/-- Statements other than the two that write {lit}`deployment_devices` for this
deployment leave its rows alone. -/
theorem Db.rowsOf_exec {db : Db} {uuid : DeploymentID} {q : Query} {id : DeploymentID}
    (hcreate : ∀ p, q = .createDeploymentDevice p → p.deploymentID ≠ id)
    (hupdate : ∀ p, q = .updateDeploymentDeviceStatus p → p.deploymentID ≠ id) :
    (db.exec uuid q).2.rowsOf id = db.rowsOf id := by
  cases q with
  | createDeployment p =>
      simp only [Db.exec, Db.createDeployment]
      split <;> rfl
  | createDeploymentDevice p =>
      have hp := hcreate p rfl
      simp only [Db.exec, Db.createDeploymentDevice]
      split
      · simp [Db.rowsOf, List.filter_append, CreateDeploymentDeviceParams.row, hp]
      · rfl
  | updateDeploymentDeviceStatus p =>
      have hp := hupdate p rfl
      simp only [Db.exec]
      rw [Db.rowsOf_updateDeploymentDeviceStatus]
      conv_rhs => rw [← List.map_id (db.rowsOf id)]
      apply List.map_congr_left
      intro row hrow
      simp [UpdateDeploymentDeviceStatusParams.not_selects_of_mem_rowsOf hp hrow]
  | _ => rfl

/-- A row of a deployment was there before the statement, or has just been inserted, or
has just been updated. -/
theorem Db.mem_rowsOf_exec {db : Db} {uuid : DeploymentID} {q : Query} {id : DeploymentID}
    {row : DeploymentDevice} (h : row ∈ (db.exec uuid q).2.rowsOf id) :
    row ∈ db.rowsOf id ∨
      (∃ p, q = .createDeploymentDevice p ∧ p.deploymentID = id ∧ row = p.row) ∨
      ∃ p, q = .updateDeploymentDeviceStatus p ∧ p.deploymentID = id ∧
        row.deviceID = p.deviceID ∧ (db.updateDeploymentDeviceStatus p).1 ≠ none := by
  by_cases hcreate : ∀ p, q = .createDeploymentDevice p → p.deploymentID ≠ id
  · by_cases hupdate : ∀ p, q = .updateDeploymentDeviceStatus p → p.deploymentID ≠ id
    · left
      rwa [Db.rowsOf_exec hcreate hupdate] at h
    · simp only [not_forall, not_not] at hupdate
      obtain ⟨p, rfl, hid⟩ := hupdate
      rw [Db.exec, Db.rowsOf_updateDeploymentDeviceStatus, List.mem_map] at h
      obtain ⟨row', hrow', heq⟩ := h
      by_cases hselects : p.selects row' = true
      · right
        right
        obtain ⟨updated, hupdated⟩ :=
          Db.updateDeploymentDeviceStatus_isSome (Db.mem_rowsOf.mp hrow').1 hselects
        refine ⟨p, rfl, hid, ?_, by simp [hupdated]⟩
        have hdevice : row'.deviceID = p.deviceID := by
          simpa [UpdateDeploymentDeviceStatusParams.selects, hid,
            (Db.mem_rowsOf.mp hrow').2] using hselects
        rw [if_pos hselects] at heq
        rw [← heq]
        exact hdevice
      · left
        rw [if_neg hselects] at heq
        rwa [← heq]
  · simp only [not_forall, not_not] at hcreate
    obtain ⟨p, rfl, hid⟩ := hcreate
    simp only [Db.exec, Db.createDeploymentDevice] at h
    split at h
    · rw [Db.mem_rowsOf, List.mem_append, List.mem_singleton] at h
      obtain ⟨hmem | rfl, hrow⟩ := h
      · exact Or.inl (Db.mem_rowsOf.mpr ⟨hmem, hrow⟩)
      · exact Or.inr (Or.inl ⟨p, rfl, hid, rfl⟩)
    · exact Or.inl h

/-- Statements other than the insert keep which deployments the rows belong to. -/
theorem Db.owners_exec {db : Db} {uuid : DeploymentID} {q : Query}
    (hq : ∀ p, q ≠ .createDeploymentDevice p) :
    ((db.exec uuid q).2.deploymentDevices.map fun row => row.deploymentID) =
      db.deploymentDevices.map fun row => row.deploymentID := by
  cases q with
  | createDeployment p =>
      simp only [Db.exec, Db.createDeployment]
      split <;> rfl
  | createDeploymentDevice p => exact absurd rfl (hq p)
  | updateDeploymentDeviceStatus p =>
      simp only [Db.exec, Db.updateDeploymentDeviceStatus, List.map_map]
      apply List.map_congr_left
      intro row _
      simp only [Function.comp]
      split <;> rfl
  | _ => rfl

end OtaRobot
