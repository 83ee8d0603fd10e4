import OtaRobot.ControlPlane
import OtaRobot.Firmware.Validate

/-!
# Deleting a firmware version

{lit}`Delete` of {lit}`internal/firmware/service.go` over the database and the object store.  The
object is removed first; then the database may refuse to delete a row that deployments refer to.

Main results:

- Theorems {lit}`delete_missing`, {lit}`delete_deployed` and {lit}`delete_unused`: what a deletion
  in which nothing fails returns and leaves.
- Theorem {lit}`delete_all_or_nothing`: when it does nothing by halves.
-/

namespace OtaRobot

open Prog

/-! ## The foreign key -/

/-- Some deployment refers to the firmware version. -/
def Db.isDeployed (db : Db) (id : FirmwareID) : Bool :=
  db.deployments.rows.any fun d => d.firmwareVersionID = id

/-- {lit}`DELETE FROM firmware_versions WHERE id = $1`: the foreign key of {lit}`deployments` has
no {lit}`ON DELETE` action. -/
def Db.deleteFirmwareVersion (db : Db) (id : FirmwareID) : Except String Unit × Db :=
  if db.isDeployed id then
    (.error "update or delete on table \"firmware_versions\" violates foreign key constraint", db)
  else (.ok (), { db with firmware := db.firmware.filter fun fw => fw.id ≠ id })

namespace Firmware

/-! ## Operations -/

/-- What a deletion asks of the table and the object store. -/
inductive DeleteOp where
  | getFirmwareVersion (id : FirmwareID)
  | removeObject (key : String)
  | deleteFirmwareVersion (id : FirmwareID)
deriving DecidableEq, Repr

/-- Answers: {lean}`none` and {lean}`false` are errors. -/
def DeleteOp.Ret : DeleteOp → Type
  | .getFirmwareVersion _ => Option FirmwareVersion
  | .removeObject _ => Bool
  | .deleteFirmwareVersion _ => Except String Unit

/-- A deletion, as a program over these operations. -/
abbrev Deleting := Prog DeleteOp.Ret

/-- One operation. -/
def Deleting.ask (op : DeleteOp) : Deleting op.Ret :=
  perform op

/-- {lit}`Delete`; whether the object store has removed the object is not looked at. -/
def deleteFirmware (id : FirmwareID) : Deleting (Except String Unit) := do
  match ← Deleting.ask (.getFirmwareVersion id) with
  | none => return .error "firmware not found"
  | some fw => do
      let fw : FirmwareVersion := fw
      let _ ← Deleting.ask (.removeObject fw.storageKey)
      Deleting.ask (.deleteFirmwareVersion id)

/-! ## Database and object store -/

/-- The tables, and the objects by their keys. -/
structure FirmwareStores where
  db : Db
  objects : String → Option Agent.Bytes

/-- An object is removed. -/
def FirmwareStores.removeObject (s : FirmwareStores) (key : String) : FirmwareStores :=
  { s with objects := fun key' => if key' = key then none else s.objects key' }

/-- One operation that does not fail.  To remove an object that is not there is no error. -/
def FirmwareStores.exec (s : FirmwareStores) : (op : DeleteOp) → op.Ret × FirmwareStores
  | .getFirmwareVersion id => (s.db.firmware.find? id, s)
  | .removeObject key => (true, s.removeObject key)
  | .deleteFirmwareVersion id =>
      ((s.db.deleteFirmwareVersion id).1, { s with db := (s.db.deleteFirmwareVersion id).2 })

/-- A deletion in which nothing fails. -/
def FirmwareStores.delete (s : FirmwareStores) (id : FirmwareID) :
    Except String Unit × FirmwareStores :=
  (deleteFirmware id).run FirmwareStores.exec s

/-! ## What a deletion does -/

section

variable {s : FirmwareStores} {id : FirmwareID} {fw : FirmwareVersion}

/-- There is no such firmware. -/
theorem delete_missing (h : s.db.firmware.find? id = none) :
    s.delete id = (.error "firmware not found", s) := by
  have hanswer : (s.exec (.getFirmwareVersion id)).1 = (none : Option FirmwareVersion) := h
  exact run_call_of_answer hanswer

/-- From the row on, the object is removed and the deletion is left to the database. -/
theorem delete_found (h : s.db.firmware.find? id = some fw) :
    s.delete id = ((s.db.deleteFirmwareVersion id).1,
      { s.removeObject fw.storageKey with db := (s.db.deleteFirmwareVersion id).2 }) := by
  have hanswer : (s.exec (.getFirmwareVersion id)).1 = some fw := h
  exact run_call_of_answer hanswer

/-- A deployed firmware loses its object and keeps its row. -/
theorem delete_deployed (h : s.db.firmware.find? id = some fw)
    (hdeployed : s.db.isDeployed id = true) :
    ∃ text, s.delete id = (.error text, s.removeObject fw.storageKey) := by
  rw [delete_found h, Db.deleteFirmwareVersion, if_pos hdeployed]
  exact ⟨_, rfl⟩

/-- A firmware that was never deployed is deleted. -/
theorem delete_unused (h : s.db.firmware.find? id = some fw)
    (hdeployed : s.db.isDeployed id = false) :
    (s.delete id).1 = .ok () ∧ (s.delete id).2.db.firmware.find? id = none ∧
      (s.delete id).2.objects = (s.removeObject fw.storageKey).objects := by
  rw [delete_found h, Db.deleteFirmwareVersion, if_neg (by simp [hdeployed])]
  refine ⟨rfl, ?_, rfl⟩
  have hkey : fw.id = id := Table.find?_key h
  show (s.db.firmware.filter fun fw => fw.id ≠ id).find? id = none
  rw [Table.find?_filter, h]
  simp [hkey]

/-- A deletion that succeeds has left neither the row nor its object, and one that fails has
changed neither. -/
def AllOrNothing (id : FirmwareID) (s : FirmwareStores)
    (result : Except String Unit × FirmwareStores) : Prop :=
  match result.1 with
  | .ok _ => result.2.db.firmware.find? id = none ∧
      ∀ fw, s.db.firmware.find? id = some fw → result.2.objects fw.storageKey = none
  | .error _ => result.2.db.firmware.find? id = s.db.firmware.find? id ∧
      ∀ fw, s.db.firmware.find? id = some fw →
        result.2.objects fw.storageKey = s.objects fw.storageKey

/-- In every state, a deletion is all or nothing exactly if no deployment refers to the firmware
version or its object is not in the store anyway. -/
theorem delete_all_or_nothing (s : FirmwareStores) (id : FirmwareID) :
    AllOrNothing id s (s.delete id) ↔
      ∀ fw, s.db.firmware.find? id = some fw → s.db.isDeployed id = true →
        s.objects fw.storageKey = none := by
  cases h : s.db.firmware.find? id with
  | none =>
      rw [delete_missing h]
      refine iff_of_true ⟨rfl, fun _ _ => rfl⟩ ?_
      intro fw hfw
      cases hfw
  | some fw =>
      cases hdeployed : s.db.isDeployed id with
      | true =>
          obtain ⟨text, hdelete⟩ := delete_deployed h hdeployed
          rw [hdelete]
          constructor
          · intro hnothing fw' hfw' _
            have hkept := hnothing.2 fw' (h.trans hfw')
            cases hfw'
            rw [← hkept]
            exact if_pos rfl
          · intro hmissing
            refine ⟨rfl, fun fw' hfw' => ?_⟩
            obtain rfl : fw = fw' := Option.some.inj (h.symm.trans hfw')
            rw [hmissing fw rfl rfl]
            exact if_pos rfl
      | false =>
          obtain ⟨hok, hrow, hobjects⟩ := delete_unused h hdeployed
          refine iff_of_true ?_ fun _ _ hdep => by cases hdep
          rw [AllOrNothing, hok]
          refine ⟨hrow, fun fw' hfw' => ?_⟩
          obtain rfl : fw = fw' := Option.some.inj (h.symm.trans hfw')
          rw [hobjects]
          exact if_pos rfl

end

/-! ## A deployed version -/

/-- A firmware. -/
def deployedFirmware : FirmwareVersion where
  id := 0
  version := "2.0.0"
  storageKey := "fw"
  sha256Checksum := ""

/-- A version that a finished deployment refers to, and its object. -/
def deployedStores : FirmwareStores where
  db :=
    { firmware := Table.single deployedFirmware
      devices := Table.empty
      deployments := Table.single { id := 0, firmwareVersionID := 0, status := .completed }
      deploymentDevices := [] }
  objects := fun key => if key = "fw" then some [1] else none

/-- The deletion of a deployed version fails and removes its object. -/
theorem delete_not_all_or_nothing :
    ¬ ∀ (s : FirmwareStores) (id : FirmwareID), AllOrNothing id s (s.delete id) := by
  intro hall
  have hnothing : AllOrNothing 0 deployedStores (deployedStores.delete 0) := hall _ _
  have hfound : deployedStores.db.firmware.find? 0 = some deployedFirmware := rfl
  obtain ⟨text, hdelete⟩ := delete_deployed hfound rfl
  rw [hdelete] at hnothing
  have hobject : (none : Option Agent.Bytes) = some [1] := hnothing.2 deployedFirmware rfl
  cases hobject

end Firmware

end OtaRobot
