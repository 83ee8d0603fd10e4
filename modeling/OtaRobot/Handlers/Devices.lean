import OtaRobot.Database
import OtaRobot.Library.Pool

/-!
# The device handlers

{lit}`ListDevices`, {lit}`GetDevice`, {lit}`DeleteDevice` and {lit}`PruneOfflineDevices` of
{lit}`internal/handlers/devices.go`, as threads over the same database as the rollout
manager.  Deleting a device deletes its rows in {lit}`deployment_devices`: the foreign key
cascades.

Which robots have not been seen for 30 seconds is the environment's answer; the column
{lit}`last_seen` and the clock are left out.

Main results:

- Theorem {lit}`Db.rowsOf_deleteDevices`: what a deletion does to the rows of a deployment.
- Theorem {lit}`DeviceHandlers.effect`: what one operation of the handlers does.
-/

namespace OtaRobot

open Prog

/-! ## Statements -/

/-- {lit}`UPDATE devices SET status = 'offline' WHERE last_seen < ... AND status != 'offline'`. -/
def Db.markOffline (db : Db) (stale : List DeviceID) : Db :=
  { db with
    devices := db.devices.modifyAll
      (fun d => if d.id ∈ stale ∧ d.status ≠ "offline" then { d with status := "offline" } else d)
      fun d => by split <;> rfl }

/-- {lit}`DELETE FROM devices WHERE ...`, with {lit}`ON DELETE CASCADE` on
{lit}`deployment_devices`. -/
def Db.deleteDevices (db : Db) (p : Device → Bool) : Nat × Db :=
  (db.devices.rows.countP p,
    { db with
      devices := db.devices.filter fun d => !p d
      deploymentDevices := db.deploymentDevices.filter fun row =>
        !(db.device row.deviceID).any p })

/-- The rows of the deleted devices are gone. -/
theorem Db.rowsOf_deleteDevices (db : Db) (p : Device → Bool) (id : DeploymentID) :
    (db.deleteDevices p).2.rowsOf id =
      (db.rowsOf id).filter fun row => !(db.device row.deviceID).any p := by
  simp only [Db.rowsOf, Db.deleteDevices, List.filter_filter]
  apply List.filter_congr
  intro row _
  exact Bool.and_comm _ _

/-- Marking devices offline keeps the rows of deployments. -/
theorem Db.rowsOf_markOffline (db : Db) (stale : List DeviceID) (id : DeploymentID) :
    (db.markOffline stale).rowsOf id = db.rowsOf id :=
  rfl

/-! ## Operations -/

/-- What a device handler answers. -/
inductive DeviceReply where
  | error (status : Nat) (text : String)
  | devices (data : List Device) (total : Nat)
  | device (d : Device)
  | decommissioned (id : DeviceID)
  | pruned (deletedCount : Nat)
deriving DecidableEq, Repr

/-- The statements and replies of the device handlers. -/
inductive DeviceOp where
  | markOffline
  | listDevices
  | getDevice (id : DeviceID)
  | deleteDevice (id : DeviceID)
  | pruneOffline
  | respond (r : DeviceReply)
deriving DecidableEq, Repr

/-- A {lit}`DELETE` answers with the number of deleted rows. -/
def DeviceOp.Ret : DeviceOp → Type
  | .markOffline => Unit
  | .listDevices => Option (List Device)
  | .getDevice _ => Option Device
  | .deleteDevice _ => Option Nat
  | .pruneOffline => Option Nat
  | .respond _ => Unit

/-- The rows of {lit}`devices` that an operation deletes. -/
def DeviceOp.deletes : DeviceOp → Device → Bool
  | .deleteDevice id, d => d.id = id
  | .pruneOffline, d => d.status = "offline"
  | _, _ => false

namespace DeviceHandlers

/-! ## Handlers -/

/-- The device requests. -/
inductive Call where
  | listDevices
  | getDevice (id : DeviceID)
  | deleteDevice (id : DeviceID)
  | pruneOfflineDevices
deriving DecidableEq, Repr

/-- A handler, as a program over these operations. -/
abbrev Handler := Prog DeviceOp.Ret

/-- One operation. -/
def issue (op : DeviceOp) : Handler op.Ret :=
  perform op

/-- Sends the reply. -/
def reply (r : DeviceReply) : Handler Unit :=
  issue (.respond r)

/-- {lit}`ListDevices`: stale devices are marked offline first. -/
def listDevices : Handler Unit := do
  let _ ← issue .markOffline
  let some devices ← issue .listDevices
    | reply (.error 500 "failed to list devices")
  let devices : List Device := devices
  reply (.devices devices devices.length)

/-- {lit}`GetDevice`. -/
def getDevice (id : DeviceID) : Handler Unit := do
  let some device ← issue (.getDevice id)
    | reply (.error 404 "device not found")
  reply (.device device)

/-- {lit}`DeleteDevice`: a device that is online or updating is not deleted. -/
def deleteDevice (id : DeviceID) : Handler Unit := do
  let some device ← issue (.getDevice id)
    | reply (.error 404 "device not found")
  let device : Device := device
  if device.status = "online" ∨ device.status = "updating" then
    reply (.error 400 ("cannot decommission active or updating robot. " ++
      "Unit must be offline before deletion."))
  else
    let some rowsAffected ← issue (.deleteDevice id)
      | reply (.error 500 "failed to delete device")
    let rowsAffected : Nat := rowsAffected
    if rowsAffected = 0 then
      reply (.error 404 "device not found")
    else
      reply (.decommissioned id)

/-- {lit}`PruneOfflineDevices`. -/
def pruneOfflineDevices : Handler Unit := do
  let some rowsAffected ← issue .pruneOffline
    | reply (.error 500 "failed to prune offline devices")
  reply (.pruned rowsAffected)

/-- The program of a request. -/
def body : Call → Prog DeviceOp.Ret Unit
  | .listDevices => listDevices
  | .getDevice id => getDevice id
  | .deleteDevice id => deleteDevice id
  | .pruneOfflineDevices => pruneOfflineDevices

/-! ## Executing -/

/-- The environment's part of a step: whether the statement fails, and the robots that have
not been seen for 30 seconds. -/
structure Choice where
  fault : Bool := false
  stale : List DeviceID := []
deriving DecidableEq, Repr

/-- One operation; a statement that fails changes nothing. -/
def exec (db : Db) : (op : DeviceOp) → Choice → op.Ret × Db
  | .markOffline, x => ((), if x.fault then db else db.markOffline x.stale)
  | .listDevices, x => (if x.fault then none else some db.listDevices, db)
  | .getDevice id, x => (if x.fault then none else db.device id, db)
  | .deleteDevice id, x =>
      if x.fault then (none, db)
      else (some (db.deleteDevices fun d => d.id = id).1, (db.deleteDevices fun d => d.id = id).2)
  | .pruneOffline, x =>
      if x.fault then (none, db)
      else
        (some (db.deleteDevices fun d => d.status = "offline").1,
          (db.deleteDevices fun d => d.status = "offline").2)
  | .respond _, _ => ((), db)

/-- Every request is admitted. -/
def machine : Machine DeviceOp.Ret Db Call Choice where
  body := body
  accept db _ := some db
  exec := exec

/-- A state of the device handlers. -/
abbrev Config := Machine.Config DeviceOp.Ret Db Call

/-- A request arrives, or executes its next operation. -/
abbrev Label := Machine.Label Call Choice

/-- Deployments are left alone, and only a deletion that does not fail touches their rows. -/
theorem effect (db : Db) (op : DeviceOp) (x : Choice) :
    (exec db op x).2.deployments = db.deployments ∧
      ((∀ id, (exec db op x).2.rowsOf id = db.rowsOf id) ∨
        x.fault = false ∧ ∀ id, (exec db op x).2.rowsOf id =
          (db.rowsOf id).filter fun row => !(db.device row.deviceID).any op.deletes) := by
  cases op with
  | markOffline =>
      simp only [exec]
      split
      · exact ⟨rfl, Or.inl fun _ => rfl⟩
      · exact ⟨rfl, Or.inl fun id => db.rowsOf_markOffline x.stale id⟩
  | deleteDevice id =>
      simp only [exec]
      split
      · exact ⟨rfl, Or.inl fun _ => rfl⟩
      · rename_i hfault
        exact ⟨rfl, Or.inr ⟨by simpa using hfault, fun i => db.rowsOf_deleteDevices _ i⟩⟩
  | pruneOffline =>
      simp only [exec]
      split
      · exact ⟨rfl, Or.inl fun _ => rfl⟩
      · rename_i hfault
        exact ⟨rfl, Or.inr ⟨by simpa using hfault, fun i => db.rowsOf_deleteDevices _ i⟩⟩
  | _ => exact ⟨rfl, Or.inl fun _ => rfl⟩

end DeviceHandlers

end OtaRobot
