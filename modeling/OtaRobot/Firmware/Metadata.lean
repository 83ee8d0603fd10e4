import OtaRobot.Firmware.Release
import OtaRobot.Mqtt.Payload

/-!
# Changing a firmware version

The {lit}`PATCH` handler of {lit}`internal/handlers/firmware.go` and {lit}`Update` of
{lit}`internal/firmware/service.go`.  The handler replaces what the body does not name by a
default, and the service cannot tell the default from a value that was asked for.

Main results:

- Theorem {lit}`update_row`: what an answered request has written.
- Theorem {lit}`patch_changes_named`: when a request changes what it names, and nothing else.
-/

namespace OtaRobot.Firmware

open Prog

/-- {lit}`firmware_versions` by its primary key. -/
abbrev FirmwareTable := Table fun row : FirmwareRow => row.id

/-! ## Requests -/

/-- The body of an edit. -/
structure UpdateFirmwareRequest where
  version : Option String
  releaseNotes : Option String
  status : Option String
deriving DecidableEq, Repr

/-- The body is parsed. -/
def UpdateFirmwareRequest.unmarshal (j : Json) : Option UpdateFirmwareRequest := do
  let members ← j.structMembers
  let version ← decodePointer Json.asString none (Json.valuesOf "version" members)
  let releaseNotes ← decodePointer Json.asString none (Json.valuesOf "release_notes" members)
  let status ← decodePointer Json.asString none (Json.valuesOf "status" members)
  return { version, releaseNotes, status }

/-! ## Operations -/

/-- The statements of an edit. -/
inductive MetadataOp where
  | getFirmwareVersion (id : FirmwareID)
  | updateFirmwareVersion (id : FirmwareID) (notes : String) (isActive : Bool)
deriving DecidableEq, Repr

/-- Answers: {lean}`none` is an error. -/
def MetadataOp.Ret : MetadataOp → Type
  | .getFirmwareVersion _ => Option FirmwareRow
  | .updateFirmwareVersion _ _ _ => Option FirmwareRow

/-- An edit, as a program over these operations. -/
abbrev Updating := Prog MetadataOp.Ret

/-- One operation. -/
def Updating.ask (op : MetadataOp) : Updating op.Ret :=
  perform op

/-- The column {lit}`is_active` that {lit}`Update` writes. -/
def FirmwareRow.activeAs (fw : FirmwareRow) (status : String) : Bool :=
  if status = "active" then true else if status = "deprecated" then false else fw.isActive

/-- The column {lit}`release_notes` that {lit}`Update` writes. -/
def FirmwareRow.notesAs (fw : FirmwareRow) (notes : String) : String :=
  if notes = "" then Option.getD fw.releaseNotes notes else notes

/-- {lit}`Update` of the service. -/
def updateFirmware (id : FirmwareID) (notes status : String) :
    Updating (Except String FirmwareRow) := do
  let some fw ← Updating.ask (.getFirmwareVersion id)
    | return .error "firmware not found"
  let fw : FirmwareRow := fw
  let some updated ← Updating.ask
      (.updateFirmwareVersion id (fw.notesAs notes) (fw.activeAs status))
    | return .error "failed to update firmware"
  return .ok updated

/-- The reply to an edit. -/
inductive PatchReply where
  | error (status : Nat) (text : String)
  | updated (row : FirmwareRow)
deriving DecidableEq, Repr

/-- {lit}`Update` of the handler.  An id that is no UUID and a body that is not JSON are
{lean}`none`; the version is not passed on. -/
def updateHandler (id : Option FirmwareID) (body : Option Json) : Updating PatchReply :=
  match id with
  | none => return .error 400 "invalid id format"
  | some uid =>
      match body.bind UpdateFirmwareRequest.unmarshal with
      | none => return .error 400 "invalid request body"
      | some req => do
          let notes := Option.getD req.releaseNotes ""
          let status := Option.getD req.status "active"
          match ← updateFirmware uid notes status with
          | .error text => return .error 500 text
          | .ok updated => return .updated updated

/-! ## The table -/

/-- The row with other notes and another status. -/
def FirmwareRow.withMetadata (fw : FirmwareRow) (notes : String) (isActive : Bool) : FirmwareRow :=
  { fw with releaseNotes := some notes, isActive := isActive }

/-- An edit keeps the id. -/
@[simp]
theorem FirmwareRow.id_withMetadata (fw : FirmwareRow) (notes : String) (isActive : Bool) :
    (fw.withMetadata notes isActive).id = fw.id :=
  rfl

/-- {lit}`UPDATE firmware_versions SET release_notes = $1, is_active = $2 WHERE id = $3`. -/
def updateMetadata (t : FirmwareTable) (id : FirmwareID) (notes : String) (isActive : Bool) :
    FirmwareTable :=
  t.modify id (fun fw => fw.withMetadata notes isActive)
    fun fw => fw.id_withMetadata notes isActive

/-- One statement; {lit}`RETURNING` leaves {lit}`uploaded_by` out. -/
def execMetadata (fault : MetadataOp → Bool) (t : FirmwareTable) :
    (op : MetadataOp) → op.Ret × FirmwareTable
  | .getFirmwareVersion id =>
      (if fault (.getFirmwareVersion id) then none else t.find? id, t)
  | .updateFirmwareVersion id notes isActive =>
      if fault (.updateFirmwareVersion id notes isActive) then (none, t)
      else
        let t' := updateMetadata t id notes isActive
        ((t'.find? id).map fun fw => { fw with uploadedBy := none }, t')

/-- The answer to a request and the table after it. -/
def patch (fault : MetadataOp → Bool) (t : FirmwareTable) (id : Option FirmwareID)
    (body : Option Json) : PatchReply × FirmwareTable :=
  (updateHandler id body).run (execMetadata fault) t

/-! ## What a request writes -/

section

variable {fault : MetadataOp → Bool} {t : FirmwareTable} {id : FirmwareID}

/-- An update that returns a row has found its row, and has written two of its columns. -/
theorem run_updateFirmware {notes status : String} {row : FirmwareRow}
    (h : ((updateFirmware id notes status).run (execMetadata fault) t).1 = .ok row) :
    ∃ old, t.find? id = some old ∧
      ((updateFirmware id notes status).run (execMetadata fault) t).2 =
        updateMetadata t id (old.notesAs notes) (old.activeAs status) := by
  unfold updateFirmware at h ⊢
  simp only [Updating.ask, perform_bind, run, execMetadata] at h ⊢
  split at h
  · rename_i old hread
    have hfind : t.find? id = some old := by
      have hanswer : (if fault (.getFirmwareVersion id) then none else t.find? id) = some old :=
        hread
      split at hanswer
      · cases hanswer
      · exact hanswer
    refine ⟨old, hfind, ?_⟩
    simp only [run, execMetadata] at h ⊢
    by_cases hwrite : fault (.updateFirmwareVersion id (old.notesAs notes) (old.activeAs status))
    · rw [if_pos hwrite] at h
      cases h
    · rw [if_neg hwrite]
      split <;> rfl
  · cases h

/-- What an answered request has written. -/
theorem update_row {body : Json} {row : FirmwareRow}
    (h : (patch fault t (some id) (some body)).1 = .updated row) :
    ∃ req old, UpdateFirmwareRequest.unmarshal body = some req ∧ t.find? id = some old ∧
      (patch fault t (some id) (some body)).2 =
        updateMetadata t id (old.notesAs (Option.getD req.releaseNotes ""))
          (old.activeAs (Option.getD req.status "active")) := by
  unfold patch updateHandler at h ⊢
  dsimp only [Option.bind_some] at h ⊢
  cases hreq : UpdateFirmwareRequest.unmarshal body with
  | none =>
      rw [hreq] at h
      cases h
  | some req =>
      rw [hreq] at h
      dsimp only at h ⊢
      rw [run_bind] at h ⊢
      split at h
      · cases h
      · rename_i updated hupdated
        obtain ⟨old, hold, htable⟩ := run_updateFirmware hupdated
        refine ⟨req, old, rfl, hold, ?_⟩
        exact htable

end

/-! ## What a request names -/

/-- The row holds what the request names, and is otherwise the old one. -/
structure Honours (req : UpdateFirmwareRequest) (old new : FirmwareRow) : Prop where
  version : new.version = Option.getD req.version old.version
  releaseNotes : new.releaseNotes = req.releaseNotes.or old.releaseNotes
  kept : req.status = none → new.isActive = old.isActive
  active : req.status = some "active" → new.isActive = true
  deprecated : req.status = some "deprecated" → new.isActive = false
  others : new = { old with
    version := new.version, releaseNotes := new.releaseNotes, isActive := new.isActive }

/-- No default of the handler, and no value it drops, differs from the row. -/
structure NamesEnough (req : UpdateFirmwareRequest) (old : FirmwareRow) : Prop where
  version : ∀ version, req.version = some version → version = old.version
  status : req.status = none → old.isActive = true
  absentNotes : req.releaseNotes = none → old.releaseNotes ≠ none
  emptyNotes : req.releaseNotes = some "" → Option.getD old.releaseNotes "" = ""

/-- When an edit does what its body names. -/
theorem honours_iff (req : UpdateFirmwareRequest) (old : FirmwareRow) :
    Honours req old (old.withMetadata (old.notesAs (Option.getD req.releaseNotes ""))
      (old.activeAs (Option.getD req.status "active"))) ↔ NamesEnough req old := by
  have hactive : old.activeAs "active" = true := if_pos rfl
  have hdeprecated : old.activeAs "deprecated" = false := by
    rw [FirmwareRow.activeAs, if_neg (by decide), if_pos rfl]
  constructor
  · intro h
    have hversion : old.version = Option.getD req.version old.version := h.version
    have hnotes : some (old.notesAs (Option.getD req.releaseNotes "")) =
        req.releaseNotes.or old.releaseNotes := h.releaseNotes
    have hkept : req.status = none → old.activeAs (Option.getD req.status "active") = old.isActive :=
      h.kept
    refine ⟨?_, ?_, ?_, ?_⟩
    · intro version hv
      rw [hv] at hversion
      exact hversion.symm
    · intro hnone
      rw [← hkept hnone, hnone]
      exact hactive
    · intro hnone hnull
      rw [hnone, hnull] at hnotes
      cases hnotes
    · intro hempty
      rw [hempty] at hnotes
      exact Option.some.inj hnotes
  · intro h
    refine ⟨?_, ?_, ?_, ?_, ?_, rfl⟩
    · cases hv : req.version with
      | none => rfl
      | some version => exact (h.version version hv).symm
    · cases hn : req.releaseNotes with
      | none =>
          obtain ⟨stored, hstored⟩ := Option.ne_none_iff_exists'.mp (h.absentNotes hn)
          simp [FirmwareRow.withMetadata, FirmwareRow.notesAs, hstored]
      | some notes =>
          by_cases hempty : notes = ""
          · have hstored := h.emptyNotes (hn.trans (congrArg some hempty))
            simp [FirmwareRow.withMetadata, FirmwareRow.notesAs, hempty, hstored]
          · simp [FirmwareRow.withMetadata, FirmwareRow.notesAs, hempty]
    · intro hnone
      rw [h.status hnone, hnone]
      exact hactive
    · intro hstatus
      rw [hstatus]
      exact hactive
    · intro hstatus
      rw [hstatus]
      exact hdeprecated

/-- A request that is answered changes one row, and changes in it exactly what it names if the
handler fills in nothing that differs from the row and drops nothing that does. -/
theorem patch_changes_named (fault : MetadataOp → Bool) (t : FirmwareTable) (id : FirmwareID)
    (body : Json) (row : FirmwareRow)
    (h : (patch fault t (some id) (some body)).1 = .updated row) :
    ∃ req old new, UpdateFirmwareRequest.unmarshal body = some req ∧ t.find? id = some old ∧
      (patch fault t (some id) (some body)).2.find? id = some new ∧
      (∀ id', id' ≠ id →
        (patch fault t (some id) (some body)).2.find? id' = t.find? id') ∧
      (Honours req old new ↔ NamesEnough req old) := by
  obtain ⟨req, old, hreq, hold, htable⟩ := update_row h
  refine ⟨req, old, _, hreq, hold, ?_, ?_, honours_iff req old⟩
  · rw [htable, updateMetadata, Table.find?_modify_self, hold]
    rfl
  · intro id' hne
    rw [htable, updateMetadata, Table.find?_modify_ne _ _ _ hne]

/-! ## A deprecated version -/

/-- A deprecated firmware. -/
def deprecatedRow : FirmwareRow where
  id := 0
  version := "1.0.0"
  storageKey := "firmware/1.0.0/a.bin"
  sha256Checksum := ""
  fileSize := 4
  releaseNotes := some "first"
  isActive := false

/-- A table with this firmware. -/
def deprecatedTable : FirmwareTable :=
  Table.single deprecatedRow

/-- A request without faults. -/
def patched (body : Json) : PatchReply × FirmwareTable :=
  patch (fun _ => false) deprecatedTable (some 0) (some body)

/-- A body that names the status and the notes. -/
def reactivation : Json :=
  .object [("status", .string "active"), ("release_notes", .string "second")]

/-- The edit form of the dashboard. -/
def edition : Json :=
  .object [("version", .string "1.0.1"), ("release_notes", .string "second")]

/-- The edit does what it names. -/
theorem patch_changes_named_reactivation :
    ∃ req old new, UpdateFirmwareRequest.unmarshal reactivation = some req ∧
      deprecatedTable.find? 0 = some old ∧ (patched reactivation).2.find? 0 = some new ∧
        Honours req old new := by
  have hreply : (patched reactivation).1 =
      .updated { deprecatedRow with releaseNotes := some "second", isActive := true } := by
    decide +kernel
  have hrequest : UpdateFirmwareRequest.unmarshal reactivation =
      some ⟨none, some "second", some "active"⟩ := by
    decide +kernel
  obtain ⟨req, old, new, hreq, hold, hnew, -, hiff⟩ :=
    patch_changes_named (fun _ => false) deprecatedTable 0 reactivation _ hreply
  obtain rfl := Option.some.inj (hrequest.symm.trans hreq)
  refine ⟨_, old, new, hreq, hold, hnew, hiff.mpr ⟨?_, ?_, ?_, ?_⟩⟩
  · intro version hversion
    cases hversion
  · intro hstatus
    cases hstatus
  · intro hnotes
    cases hnotes
  · intro hnotes
    exact absurd hnotes (by decide)

/-- Editing the notes of a deprecated version activates it, and leaves its version as it was. -/
theorem patch_changes_more :
    ¬ ∀ (fault : MetadataOp → Bool) (t : FirmwareTable) (id : FirmwareID) (body : Json)
      (row : FirmwareRow) (req : UpdateFirmwareRequest) (old new : FirmwareRow),
      (patch fault t (some id) (some body)).1 = .updated row →
        UpdateFirmwareRequest.unmarshal body = some req → t.find? id = some old →
          (patch fault t (some id) (some body)).2.find? id = some new → Honours req old new := by
  intro h
  have hhonours := h (fun _ => false) deprecatedTable 0 edition
    { deprecatedRow with releaseNotes := some "second", isActive := true }
    ⟨some "1.0.1", some "second", none⟩ deprecatedRow
    { deprecatedRow with releaseNotes := some "second", isActive := true }
    (by decide +kernel) (by decide +kernel) (by decide +kernel) (by decide +kernel)
  exact absurd (hhonours.kept rfl) (by decide)

end OtaRobot.Firmware
