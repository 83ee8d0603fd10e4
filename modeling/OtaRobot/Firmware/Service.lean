import OtaRobot.Firmware.Deletion
import OtaRobot.Firmware.Published
import OtaRobot.Firmware.Resign

/-!
# The firmware service

All calls of {lit}`internal/firmware/service.go` as threads over one table and one object store:
releases, deletions, changes, the signing of what is unsigned, and download links.  Single
statements, object-store calls and signatures are atomic; any of them may fail, and any thread may
run next.

Main results:

- Theorems {lit}`Service.exec_row` and {lit}`Service.exec_object`: where rows and objects come
  from.
-/

namespace OtaRobot.Firmware

open Agent (Bytes PublicKey)
open Prog

/-! ## Download links -/

/-- What a link request is answered. -/
structure DownloadDetails where
  url : String
  checksum : String
  signature : String
deriving DecidableEq, Repr

/-- What a link request asks for. -/
inductive LinkOp where
  | getFirmwareVersion (id : FirmwareID)
  | presignedGetObject (key : String)
deriving DecidableEq, Repr

/-- Answers: {lean}`none` is an error. -/
def LinkOp.Ret : LinkOp → Type
  | .getFirmwareVersion _ => Option FirmwareRow
  | .presignedGetObject _ => Option String

/-- A link request, as a program over these operations. -/
abbrev Linking := Prog LinkOp.Ret

/-- One operation. -/
def Linking.ask (op : LinkOp) : Linking op.Ret :=
  perform op

/-- {lit}`GetDownloadURL`; the signature of a row without one is the empty text. -/
def getDownloadURL (id : FirmwareID) : Linking (Except String DownloadDetails) := do
  match ← Linking.ask (.getFirmwareVersion id) with
  | none => return .error "firmware version not found"
  | some fw => do
      let fw : FirmwareRow := fw
      match ← Linking.ask (.presignedGetObject fw.storageKey) with
      | none => return .error "failed to generate download URL"
      | some url => return .ok ⟨url, fw.sha256Checksum, Option.getD fw.ecdsaSignature ""⟩

/-! ## Calls and operations -/

/-- The calls of the service. -/
inductive ServiceCall where
  | release (params : ReleaseParams)
  | getDownloadURL (id : FirmwareID)
  | list
  | delete (id : FirmwareID)
  | update (id : FirmwareID) (notes status : String)
  | resignAll
deriving DecidableEq, Repr

/-- What a call other than {lit}`Release` returns. -/
inductive ServiceReply where
  | link (result : Except String DownloadDetails)
  | listed (result : Option (List FirmwareRow))
  | deleted (result : Except String Unit)
  | updated (result : Except String FirmwareRow)
  | resigned (result : Except String Nat)
deriving DecidableEq

/-- The operations of all calls. -/
inductive ServiceOp where
  | release (op : ReleaseOp)
  | link (op : LinkOp)
  | delete (op : DeleteOp)
  | metadata (op : MetadataOp)
  | resign (op : ResignOp)
  | reply (r : ServiceReply)
deriving DecidableEq

/-- The answers to the operations. -/
def ServiceOp.Ret : ServiceOp → Type
  | .release op => op.Ret
  | .link op => op.Ret
  | .delete op => op.Ret
  | .metadata op => op.Ret
  | .resign op => op.Ret
  | .reply _ => Unit

/-- A call, as a program over all operations. -/
abbrev Serving := Prog ServiceOp.Ret

/-- The call returns. -/
def Serving.reply (r : ServiceReply) : Serving Unit :=
  perform (ServiceOp.reply r)

/-- A release as a call of the service. -/
def ofRelease {α : Type} (p : Releasing α) : Serving α :=
  p.embed .release fun _ r => r

/-- A link request as a call of the service. -/
def ofLink {α : Type} (p : Linking α) : Serving α :=
  p.embed .link fun _ r => r

/-- A deletion as a call of the service. -/
def ofDelete {α : Type} (p : Deleting α) : Serving α :=
  p.embed .delete fun _ r => r

/-- An edit as a call of the service. -/
def ofMetadata {α : Type} (p : Updating α) : Serving α :=
  p.embed .metadata fun _ r => r

/-- {lit}`ResignAll` as a call of the service. -/
def ofResign {α : Type} (p : Resigning α) : Serving α :=
  p.embed .resign fun _ r => r

/-- One call of the service. -/
def serve (svc : ReleaseService) : ServiceCall → Serving Unit
  | .release params => ofRelease (release svc params)
  | .getDownloadURL id => do
      let result ← ofLink (getDownloadURL id)
      Serving.reply (.link result)
  | .list => do
      let result ← ofResign (Resigning.ask .listFirmwareVersions)
      Serving.reply (.listed result)
  | .delete id => do
      let result ← ofDelete (deleteFirmware id)
      Serving.reply (.deleted result)
  | .update id notes status => do
      let result ← ofMetadata (updateFirmware id notes status)
      Serving.reply (.updated result)
  | .resignAll => do
      let result ← ofResign (resignAll svc)
      Serving.reply (.resigned result)

/-! ## The store -/

/-- {lit}`SELECT * FROM firmware_versions WHERE id = $1`. -/
def ReleaseStore.row (s : ReleaseStore) (id : FirmwareID) : Option FirmwareRow :=
  s.versions.rows.find? fun row => row.id = id

/-- Update the rows with the id. -/
def ReleaseStore.setRow (s : ReleaseStore) (id : FirmwareID) (f : FirmwareRow → FirmwareRow)
    (hf : ∀ row, (f row).version = row.version) : ReleaseStore :=
  { s with
    versions := s.versions.modifyAll (fun row => if row.id = id then f row else row) fun row => by
      split
      · exact hf row
      · rfl }

/-- {lit}`DELETE FROM firmware_versions WHERE id = $1`. -/
def ReleaseStore.deleteRow (s : ReleaseStore) (id : FirmwareID) : ReleaseStore :=
  { s with versions := s.versions.filter fun row => row.id ≠ id }

/-- The environment's part of a step: whether a deployment refers to the row that is to be
deleted, and the link the object store signs. -/
structure ServiceChoice extends ReleaseChoice where
  deployed : Bool := false
  url : String := ""
deriving DecidableEq, Repr

/-- {lit}`DELETE`: the foreign key of {lit}`deployments` may refuse it. -/
def ReleaseStore.execDelete (s : ReleaseStore) :
    (op : DeleteOp) → ServiceChoice → op.Ret × ReleaseStore
  | .getFirmwareVersion id, x =>
      (if x.fault then none else (s.row id).map fun row => row.toFirmwareVersion, s)
  | .removeObject key, x => if x.fault then (false, s) else (true, s.setObject key none)
  | .deleteFirmwareVersion id, x =>
      if x.fault then (.error "connection reset by peer", s)
      else if x.deployed then
        (.error "update or delete on table \"firmware_versions\" violates foreign key constraint",
          s)
      else (.ok (), s.deleteRow id)

/-- {lit}`RETURNING` leaves {lit}`uploaded_by` out. -/
def ReleaseStore.execMetadata (s : ReleaseStore) :
    (op : MetadataOp) → ServiceChoice → op.Ret × ReleaseStore
  | .getFirmwareVersion id, x => (if x.fault then none else s.row id, s)
  | .updateFirmwareVersion id notes isActive, x =>
      if x.fault then (none, s)
      else
        let s' := s.setRow id (fun row => row.withMetadata notes isActive) fun _ => rfl
        ((s'.row id).map fun row => { row with uploadedBy := none }, s')

/-- The statements of {lit}`ResignAll`. -/
def ReleaseStore.execResign (s : ReleaseStore) :
    (op : ResignOp) → ServiceChoice → op.Ret × ReleaseStore
  | .listFirmwareVersions, x =>
      (if x.fault then none
        else some (s.versions.rows.filter fun row => row.isActive).reverse, s)
  | .signASN1 _, x => (if x.fault then none else some x.signature, s)
  | .setSignature id text, x =>
      if x.fault then (false, s)
      else (true, s.setRow id (fun row => row.withSignature text) fun _ => rfl)

/-- The operations of a link request. -/
def ReleaseStore.execLink (s : ReleaseStore) :
    (op : LinkOp) → ServiceChoice → op.Ret × ReleaseStore
  | .getFirmwareVersion id, x => (if x.fault then none else s.row id, s)
  | .presignedGetObject _, x => (if x.fault then none else some x.url, s)

/-- One atomic operation.  A failing one has no effect. -/
def ReleaseStore.execService (s : ReleaseStore) :
    (op : ServiceOp) → ServiceChoice → op.Ret × ReleaseStore
  | .release op, x => s.exec op x.toReleaseChoice
  | .link op, x => s.execLink op x
  | .delete op, x => s.execDelete op x
  | .metadata op, x => s.execMetadata op x
  | .resign op, x => s.execResign op x
  | .reply _, _ => ((), s)

/-- The service: every call is admitted. -/
def serviceMachine (svc : ReleaseService) :
    Machine ServiceOp.Ret ReleaseStore ServiceCall ServiceChoice where
  body := serve svc
  accept s _ := some s
  exec := ReleaseStore.execService

/-- The thread of a call runs its program. -/
@[simp]
theorem serviceMachine_body (svc : ReleaseService) : (serviceMachine svc).body = serve svc :=
  rfl

namespace Service

/-- A state of the service: the table, the objects and the calls under way. -/
abbrev Config := Machine.Config ServiceOp.Ret ReleaseStore ServiceCall

/-- A call is made, or executes its next operation. -/
abbrev Label := Machine.Label ServiceCall ServiceChoice

/-- The interleaved steps of the calls. -/
def step (svc : ReleaseService) : Config → Label → Option Config :=
  (serviceMachine svc).step

/-- The service starts on what an earlier one has left. -/
def start (s₀ : ReleaseStore) : Config :=
  Machine.initial s₀

/-! ## Where rows and objects come from -/

/-- What an operation may make of a row. -/
inductive Becomes (row : FirmwareRow) : ServiceOp → FirmwareRow → Prop where
  | same (op : ServiceOp) : Becomes row op row
  | signed (text : String) :
      Becomes row (.resign (.setSignature row.id text)) (row.withSignature text)
  | changed (notes : String) (isActive : Bool) :
      Becomes row (.metadata (.updateFirmwareVersion row.id notes isActive))
        (row.withMetadata notes isActive)

/-- The row that an operation has inserted. -/
def insertedRow : (op : ServiceOp) → op.Ret → Option FirmwareRow
  | .release (.createFirmwareVersion _), r => r
  | _, _ => none

variable {s : ReleaseStore} {op : ServiceOp} {x : ServiceChoice}

/-- A row after an update is an old one or the updated one. -/
theorem mem_setRow {id : FirmwareID} {f : FirmwareRow → FirmwareRow}
    (hf : ∀ row, (f row).version = row.version) {row' : FirmwareRow}
    (h : row' ∈ (s.setRow id f hf).versions.rows) :
    row' ∈ s.versions.rows ∨ ∃ row ∈ s.versions.rows, row.id = id ∧ row' = f row := by
  obtain ⟨row, hrow, rfl⟩ := List.mem_map.mp h
  by_cases hid : row.id = id
  · exact Or.inr ⟨row, hrow, hid, if_pos hid⟩
  · simpa [hid] using Or.inl hrow

/-- A row is inserted by {lit}`CreateFirmwareVersion`. -/
theorem exec_insertedRow {row : FirmwareRow}
    (h : insertedRow op (s.execService op x).1 = some row) :
    ∃ p, op = .release (.createFirmwareVersion p) ∧ row = p.row x.uuid := by
  cases op with
  | release op =>
      cases op with
      | createFirmwareVersion p =>
          refine ⟨p, rfl, ?_⟩
          have hanswer : (if x.fault then (none, s) else s.createFirmwareVersion x.uuid p).1 =
              some row := h
          split at hanswer
          · cases hanswer
          · rcases createFirmwareVersion_cases s x.uuid p with hnone | ⟨versions, -, hsome⟩
            · rw [hnone] at hanswer
              cases hanswer
            · rw [hsome] at hanswer
              exact (Option.some.inj hanswer).symm
      | _ => cases h
  | _ => cases h

/-- A row after an operation was there before it, or has been inserted by it. -/
theorem exec_row {row' : FirmwareRow} (h : row' ∈ (s.execService op x).2.versions.rows) :
    (∃ row ∈ s.versions.rows, Becomes row op row') ∨
      insertedRow op (s.execService op x).1 = some row' := by
  have hsame : (s.execService op x).2.versions = s.versions →
      ∃ row ∈ s.versions.rows, Becomes row op row' := by
    intro hversions
    rw [hversions] at h
    exact ⟨row', h, .same op⟩
  cases op with
  | release op =>
      cases op with
      | createFirmwareVersion p =>
          have hexec : s.execService (.release (.createFirmwareVersion p)) x =
              if x.fault then (none, s) else s.createFirmwareVersion x.uuid p := rfl
          by_cases hfault : x.fault = true
          · rw [if_pos hfault] at hexec
            exact Or.inl (hsame (by rw [hexec]))
          · rw [if_neg hfault] at hexec
            rcases createFirmwareVersion_cases s x.uuid p with hnone | ⟨versions, hinsert, hsome⟩
            · exact Or.inl (hsame (by rw [hexec, hnone]))
            · rw [hexec, hsome] at h ⊢
              have hrows : versions.rows = s.versions.rows ++ [p.row x.uuid] := insert_rows hinsert
              have hmem : row' ∈ versions.rows := h
              rw [hrows, List.mem_append, List.mem_singleton] at hmem
              rcases hmem with hold | rfl
              · exact Or.inl ⟨row', hold, .same _⟩
              · exact Or.inr rfl
      | putObject key data =>
          refine Or.inl (hsame ?_)
          simp only [ReleaseStore.execService, ReleaseStore.exec]
          split <;> rfl
      | removeObject key =>
          refine Or.inl (hsame ?_)
          simp only [ReleaseStore.execService, ReleaseStore.exec]
          split <;> rfl
      | _ => exact Or.inl (hsame rfl)
  | link op => cases op <;> exact Or.inl (hsame rfl)
  | delete op =>
      cases op with
      | getFirmwareVersion id => exact Or.inl (hsame rfl)
      | removeObject key =>
          refine Or.inl (hsame ?_)
          simp only [ReleaseStore.execService, ReleaseStore.execDelete]
          split <;> rfl
      | deleteFirmwareVersion id =>
          left
          simp only [ReleaseStore.execService, ReleaseStore.execDelete] at h
          split at h
          · exact ⟨row', h, .same _⟩
          · split at h
            · exact ⟨row', h, .same _⟩
            · exact ⟨row', (List.mem_filter.mp h).1, .same _⟩
  | metadata op =>
      cases op with
      | getFirmwareVersion id => exact Or.inl (hsame rfl)
      | updateFirmwareVersion id notes isActive =>
          left
          simp only [ReleaseStore.execService, ReleaseStore.execMetadata] at h
          split at h
          · exact ⟨row', h, .same _⟩
          · rcases mem_setRow (f := fun row => row.withMetadata notes isActive) (fun _ => rfl) h with
              hrow | ⟨row, hrow, rfl, rfl⟩
            · exact ⟨row', hrow, .same _⟩
            · exact ⟨row, hrow, .changed notes isActive⟩
  | resign op =>
      cases op with
      | listFirmwareVersions => exact Or.inl (hsame rfl)
      | signASN1 digest => exact Or.inl (hsame rfl)
      | setSignature id text =>
          left
          simp only [ReleaseStore.execService, ReleaseStore.execResign] at h
          split at h
          · exact ⟨row', h, .same _⟩
          · rcases mem_setRow (f := fun row => row.withSignature text) (fun _ => rfl) h with
              hrow | ⟨row, hrow, rfl, rfl⟩
            · exact ⟨row', hrow, .same _⟩
            · exact ⟨row, hrow, .signed text⟩
  | reply r => exact Or.inl (hsame rfl)

/-- An object after an operation was there before it, or has been put there by it. -/
theorem exec_object {key : String} {data : Bytes}
    (h : (s.execService op x).2.objects key = some data) :
    s.objects key = some data ∨ op = .release (.putObject key data) := by
  have hset : ∀ {key' : String} {object : Option Bytes},
      (s.setObject key' object).objects key = some data →
        s.objects key = some data ∨ key = key' ∧ object = some data := by
    intro key' object hobject
    by_cases hkey : key = key'
    · exact Or.inr ⟨hkey, (if_pos hkey).symm.trans hobject⟩
    · exact Or.inl ((if_neg hkey).symm.trans hobject)
  cases op with
  | release op =>
      rcases (exec_effect s op x.toReleaseChoice .idle).object key with
        hsame | ⟨data', rfl, hfault⟩ | rfl
      · exact Or.inl (hsame.symm.trans h)
      · right
        have hobject : (s.setObject key (some data')).objects key = some data := by
          simpa [ReleaseStore.execService, ReleaseStore.exec, hfault] using h
        obtain rfl : data' = data := Option.some.inj ((if_pos rfl).symm.trans hobject)
        rfl
      · left
        simp only [ReleaseStore.execService, ReleaseStore.exec] at h
        split at h
        · exact h
        · rcases hset h with hold | ⟨-, hdata⟩
          · exact hold
          · cases hdata
  | link op => cases op <;> exact Or.inl h
  | delete op =>
      cases op with
      | getFirmwareVersion id => exact Or.inl h
      | removeObject key' =>
          simp only [ReleaseStore.execService, ReleaseStore.execDelete] at h
          split at h
          · exact Or.inl h
          · rcases hset h with hold | ⟨-, hdata⟩
            · exact Or.inl hold
            · cases hdata
      | deleteFirmwareVersion id =>
          simp only [ReleaseStore.execService, ReleaseStore.execDelete] at h
          split at h
          · exact Or.inl h
          · split at h <;> exact Or.inl h
  | metadata op =>
      cases op with
      | getFirmwareVersion id => exact Or.inl h
      | updateFirmwareVersion id notes isActive =>
          simp only [ReleaseStore.execService, ReleaseStore.execMetadata] at h
          split at h <;> exact Or.inl h
  | resign op =>
      cases op with
      | setSignature id text =>
          simp only [ReleaseStore.execService, ReleaseStore.execResign] at h
          split at h <;> exact Or.inl h
      | _ => exact Or.inl h
  | reply r => exact Or.inl h

end Service

end OtaRobot.Firmware
