import OtaRobot.ControlPlane
import OtaRobot.Mqtt.Payload

/-!
# The MQTT client

{lit}`handleStatus`, {lit}`handleProgress` and {lit}`handleError` of
{lit}`internal/mqtt/client.go`, with the statements they issue themselves; the rollout manager
is called as it stands in {lit}`Rollout.Manager`.

The columns of {lit}`devices` that only this file writes, and the timestamps, stand beside the
database.  {lit}`NOW()` is the environment's answer, one reading for each statement.

Main results:

- Theorem {lit}`ReportStore.row_upsertDevice`: what a heartbeat writes.
- Theorem {lit}`ReportStore.exec_rollout`: what the statements of the rollout manager write.
-/

namespace OtaRobot

open Prog

/-! ## Rows and statements -/

/-- The columns of {lit}`devices` that {lit}`Device` leaves out. -/
structure DeviceColumns where
  name : String := ""
  ipAddress : Option String := none
  lastSeen : Option Nat := none
  metadata : Option Json := none
  createdAt : Nat := 0
  updatedAt : Nat := 0

/-- The tables, with the columns of {lit}`devices` that only reports write. -/
structure ReportStore where
  db : Db
  columns : DeviceID → DeviceColumns := fun _ => {}

/-- The parameters of {lit}`UpsertDevice`. -/
structure UpsertDeviceParams where
  id : DeviceID
  name : String
  factoryID : String
  hwModel : String
  currentVersion : String
  status : String
  ipAddress : Option String
deriving DecidableEq, Repr

/-- The inserted row. -/
def UpsertDeviceParams.row (p : UpsertDeviceParams) : Device where
  id := p.id
  factoryID := p.factoryID
  hwModel := p.hwModel
  currentVersion := p.currentVersion
  status := p.status

/-- The columns of the inserted row that {lit}`Device` leaves out. -/
def UpsertDeviceParams.columns (p : UpsertDeviceParams) (now : Nat) : DeviceColumns where
  name := p.name
  ipAddress := p.ipAddress
  lastSeen := some now
  createdAt := now
  updatedAt := now

namespace ReportStore

/-- The row of a device. -/
def row (s : ReportStore) (id : DeviceID) : Option (Device × DeviceColumns) :=
  (s.db.device id).map fun d => (d, s.columns id)

/-- The columns of one robot. -/
def setColumns (s : ReportStore) (id : DeviceID) (f : DeviceColumns → DeviceColumns) :
    ReportStore :=
  { s with columns := fun i => if i = id then f (s.columns id) else s.columns i }

/-- {lit}`INSERT INTO devices ... ON CONFLICT (id) DO UPDATE SET ...`. -/
def upsertDevice (s : ReportStore) (p : UpsertDeviceParams) (now : Nat) : ReportStore :=
  match s.db.devices.insert p.row with
  | some devices =>
      { s with db := { s.db with devices } }.setColumns p.id fun _ => p.columns now
  | none =>
      let devices := s.db.devices.modify p.id
        (fun d => { d with status := p.status, currentVersion := p.currentVersion }) fun _ => rfl
      { s with db := { s.db with devices } }.setColumns p.id fun c =>
        { c with lastSeen := some now, ipAddress := p.ipAddress, updatedAt := now }

/-- {lit}`UPDATE devices SET metadata = $1 WHERE id = $2`. -/
def setMetadata (s : ReportStore) (metadata : Json) (id : DeviceID) : ReportStore :=
  s.setColumns id fun c => { c with metadata := some metadata }

end ReportStore

/-! ## Operations -/

/-- What a callback does: its own two statements, and the operations of the manager. -/
inductive ClientOp where
  | upsertDevice (p : UpsertDeviceParams)
  | setMetadata (metadata : Json) (id : DeviceID)
  | rollout (op : Op)

/-- The callbacks ignore what their own statements return. -/
def ClientOp.Ret : ClientOp → Type
  | .upsertDevice _ => Unit
  | .setMetadata _ _ => Unit
  | .rollout op => op.Ret

/-- A callback, as a program over its operations. -/
abbrev Callback := Prog ClientOp.Ret

/-- The manager runs inside the callback. -/
def Callback.ofRollout {α : Type} : Rollout α → Callback α
  | .done a => .done a
  | .call op k => .call (.rollout op) fun r => Callback.ofRollout (k r)

/-- The environment's part of an operation. -/
structure Reading where
  fault : Bool := false
  now : Nat := 0
deriving DecidableEq, Repr

namespace ReportStore

/-- {lit}`UpdateDeviceVersion` sets {lit}`updated_at`. -/
def execRollout (s : ReportStore) (op : Op) (x : Reading) : op.Ret × ReportStore :=
  let answer := ControlPlane.exec { db := s.db } op { fault := x.fault }
  let s' := { s with db := answer.2.db }
  (answer.1,
    match op with
    | .sql (.updateDeviceVersion id _) =>
        if x.fault then s' else s'.setColumns id fun c => { c with updatedAt := x.now }
    | _ => s')

/-- One operation; a statement that fails changes nothing. -/
def exec (s : ReportStore) : (op : ClientOp) → Reading → op.Ret × ReportStore
  | .upsertDevice p, x => ((), if x.fault then s else s.upsertDevice p x.now)
  | .setMetadata metadata id, x => ((), if x.fault then s else s.setMetadata metadata id)
  | .rollout op, x => s.execRollout op x

end ReportStore

/-! ### What the statements do -/

/-- The row of a robot after its columns were written. -/
theorem ReportStore.row_setColumns (s : ReportStore) (id i : DeviceID)
    (f : DeviceColumns → DeviceColumns) :
    (s.setColumns id f).row i =
      if i = id then (s.row id).map fun r => (r.1, f r.2) else s.row i := by
  by_cases hi : i = id
  · simp [ReportStore.row, ReportStore.setColumns, hi, Function.comp_def]
  · simp [ReportStore.row, ReportStore.setColumns, hi]

/-- A heartbeat leaves a row for its device, updated now, and the other rows alone. -/
theorem ReportStore.row_upsertDevice (s : ReportStore) (p : UpsertDeviceParams) (now : Nat) :
    (∃ d c, (s.upsertDevice p now).row p.id = some (d, c) ∧ c.updatedAt = now) ∧
      ∀ i, i ≠ p.id → (s.upsertDevice p now).row i = s.row i := by
  unfold ReportStore.upsertDevice
  cases hinsert : s.db.devices.insert p.row with
  | some devices =>
      have hfind : ∀ i, devices.find? i = if i = p.id then some p.row else s.db.devices.find? i :=
        Table.find?_insert hinsert
      constructor
      · refine ⟨p.row, p.columns now, ?_, rfl⟩
        dsimp only
        rw [ReportStore.row_setColumns, if_pos rfl]
        simp [ReportStore.row, Db.device, hfind]
      · intro i hi
        dsimp only
        rw [ReportStore.row_setColumns, if_neg hi]
        simp [ReportStore.row, Db.device, hfind, hi]
  | none =>
      have hfound : ∃ d, s.db.devices.find? p.id = some d := by
        apply Option.ne_none_iff_exists'.mp
        intro hnone
        obtain ⟨devices, hsome⟩ := Table.insert_eq_some (r := p.row) hnone
        rw [hinsert] at hsome
        cases hsome
      obtain ⟨d, hd⟩ := hfound
      constructor
      · refine ⟨{ d with status := p.status, currentVersion := p.currentVersion },
          { s.columns p.id with lastSeen := some now, ipAddress := p.ipAddress, updatedAt := now },
          ?_, rfl⟩
        dsimp only
        rw [ReportStore.row_setColumns, if_pos rfl]
        simp [ReportStore.row, Db.device, hd]
      · intro i hi
        dsimp only
        rw [ReportStore.row_setColumns, if_neg hi]
        simp [ReportStore.row, Db.device, hi, Table.find?_modify]

/-- A heartbeat touches no other table. -/
theorem ReportStore.upsertDevice_tables (s : ReportStore) (p : UpsertDeviceParams) (now : Nat) :
    (s.upsertDevice p now).db.firmware = s.db.firmware ∧
      (s.upsertDevice p now).db.deployments = s.db.deployments ∧
        (s.upsertDevice p now).db.deploymentDevices = s.db.deploymentDevices := by
  unfold ReportStore.upsertDevice
  split <;> exact ⟨rfl, rfl, rfl⟩

/-- The database after an operation of the manager is the one of the control plane. -/
theorem ReportStore.exec_rollout (s : ReportStore) (op : Op) (x : Reading) :
    (s.execRollout op x).1 = (ControlPlane.exec { db := s.db } op { fault := x.fault }).1 ∧
      (s.execRollout op x).2.db = (ControlPlane.exec { db := s.db } op { fault := x.fault }).2.db := by
  refine ⟨rfl, ?_⟩
  unfold ReportStore.execRollout
  dsimp only
  split
  · split <;> rfl
  · rfl

/-! ## Callbacks -/

/-- The end of {lit}`handleStatus`: the telemetry and the state of the state machine. -/
def storeMetadata (p : StatusPayload) : Callback Unit := do
  if p.metaMap.length > 0 then
    let _ ← perform (ClientOp.setMetadata (.object p.metaMap) p.deviceID)
    return ()
  else
    return ()

/-- The row a heartbeat inserts; the model has a default, the address is a constant. -/
def StatusPayload.upsertParams (p : StatusPayload) : UpsertDeviceParams where
  id := p.deviceID
  name := p.deviceID
  factoryID := p.factoryID
  hwModel := if p.hwModel = "" then "sim-v1" else p.hwModel
  currentVersion := p.version
  status := p.status
  ipAddress := some "0.0.0.0"

/-- {lit}`handleStatus`: what is no JSON is logged only. -/
def handleStatus (payload : Option Json) : Callback Unit :=
  match payload.bind StatusPayload.unmarshal with
  | none => return ()
  | some p => do
      let _ ← perform (ClientOp.upsertDevice p.upsertParams)
      storeMetadata p

/-- The report for the manager. -/
def ProgressPayload.event (p : ProgressPayload) : DeviceProgressEvent where
  deviceID := p.deviceID
  status := p.status
  progress := p.progress

/-- The report for the manager. -/
def ErrorPayload.event (p : ErrorPayload) : DeviceErrorEvent where
  deviceID := p.deviceID
  error := p.error

/-- {lit}`rolloutMgr` says whether {lit}`SetRolloutManager` has been called. -/
def handleProgress (rolloutMgr : Bool) (payload : Option Json) : Callback Unit :=
  match payload.bind ProgressPayload.unmarshal with
  | none => return ()
  | some p => do
      if rolloutMgr then
        let _ ← Callback.ofRollout (handleDeviceProgress p.event)
        return ()
      else
        return ()

/-- {lit}`handleError`: without a manager the report is logged only. -/
def handleError (rolloutMgr : Bool) (payload : Option Json) : Callback Unit :=
  match payload.bind ErrorPayload.unmarshal with
  | none => return ()
  | some p => do
      if rolloutMgr then
        let _ ← Callback.ofRollout (handleDeviceError p.event)
        return ()
      else
        return ()

/-- The last level of the topic. -/
inductive Channel where
  | status
  | progress
  | error
deriving DecidableEq, Repr

/-- A message received on {lit}`ota/device/<topicDevice>/<channel>`. -/
structure Message where
  topicDevice : DeviceID
  channel : Channel
  payload : Option Json

/-- The callback subscribed to the topic.  None of them looks at the device of the topic. -/
def Message.handler (rolloutMgr : Bool) (msg : Message) : Callback Unit :=
  match msg.channel with
  | .status => handleStatus msg.payload
  | .progress => handleProgress rolloutMgr msg.payload
  | .error => handleError rolloutMgr msg.payload

/-- The operations a callback has executed, with their answers. -/
abbrev CallbackLog := List (Answered ClientOp.Ret)

/-- One operation; the environment has one reading for each. -/
def execRead (env : Nat → Reading) (s : ReportStore × CallbackLog) (op : ClientOp) :
    op.Ret × (ReportStore × CallbackLog) :=
  let answer := s.1.exec op (env s.2.length)
  (answer.1, (answer.2, s.2 ++ [⟨op, answer.1⟩]))

/-- The store and the log after the message is processed. -/
def process (rolloutMgr : Bool) (env : Nat → Reading) (s : ReportStore) (msg : Message) :
    ReportStore × CallbackLog :=
  ((msg.handler rolloutMgr).run (execRead env) (s, [])).2

end OtaRobot
