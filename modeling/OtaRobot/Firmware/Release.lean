import OtaRobot.Firmware.Validate

/-!
# The release service

{lit}`Release` of {lit}`internal/firmware/service.go` as a thread over the table
{lit}`firmware_versions` and the object store.  Single statements, single object-store calls and
single signatures are atomic; any of them may fail, and any thread may run next.

The table is keyed by {lit}`version`, which is UNIQUE.  What does not change while the service
runs is a {lit}`ReleaseService`: whether it has a signing key, and the cryptographic library.

Main results:

- Theorem {lit}`storageKey_injective`: two uploads share a storage key exactly if they share
  version and file name.
- Theorem {lit}`release_obeys`: a release records what it has uploaded, and removes what it could
  not record.
-/

namespace OtaRobot.Firmware

open Agent Prog

/-! ## Rows and operations -/

/-- A row of {lit}`firmware_versions`. -/
structure FirmwareRow extends FirmwareVersion where
  fileSize : Nat
  releaseNotes : Option String := none
  uploadedBy : Option String := none
  isActive : Bool := true
deriving DecidableEq, Repr

/-- The version is unique in the table. -/
def FirmwareRow.key (row : FirmwareRow) : String :=
  row.version

/-- The parameters of {lit}`CreateFirmwareVersion`. -/
structure CreateFirmwareVersionParams where
  version : String
  storageKey : String
  fileSize : Nat
  sha256Checksum : String
  ecdsaSignature : Option String
  releaseNotes : Option String
  uploadedBy : Option String
deriving DecidableEq, Repr

/-- The row that {lit}`CreateFirmwareVersion` inserts. -/
def CreateFirmwareVersionParams.row (p : CreateFirmwareVersionParams) (id : FirmwareID) :
    FirmwareRow where
  id := id
  version := p.version
  storageKey := p.storageKey
  sha256Checksum := p.sha256Checksum
  ecdsaSignature := p.ecdsaSignature
  fileSize := p.fileSize
  releaseNotes := p.releaseNotes
  uploadedBy := p.uploadedBy

/-- What a release asks of the table, the signer and the object store. -/
inductive ReleaseOp where
  | getFirmwareVersionByVersion (version : String)
  | signASN1 (digest : Bytes)
  | putObject (key : String) (data : Bytes)
  | createFirmwareVersion (params : CreateFirmwareVersionParams)
  | removeObject (key : String)
  | returned (result : Except String FirmwareRow)
deriving DecidableEq

/-- Answers: {lean}`none` and {lean}`false` are errors. -/
def ReleaseOp.Ret : ReleaseOp → Type
  | .getFirmwareVersionByVersion _ => Option FirmwareRow
  | .signASN1 _ => Option Bytes
  | .putObject _ _ => Bool
  | .createFirmwareVersion _ => Option FirmwareRow
  | .removeObject _ => Bool
  | .returned _ => Unit

/-- A release, as a program over these operations. -/
abbrev Releasing := Prog ReleaseOp.Ret

/-- One operation of a release. -/
def issue (op : ReleaseOp) : Releasing op.Ret :=
  perform op

/-- {lit}`Release` returns. -/
def finish (result : Except String FirmwareRow) : Releasing Unit :=
  issue (.returned result)

/-! ## Release -/

/-- The fields of the service, and the libraries it calls. -/
structure ReleaseService where
  privKey : Bool := true
  crypto : Crypto
  encodeBase64 : Bytes → String
  lowering : RuneLowering := asciiLowering

/-- The parameters of {lit}`Release`. -/
structure ReleaseParams where
  version : String
  filename : String
  data : Bytes
  releaseNotes : String := ""
deriving DecidableEq, Repr

/-- {lit}`SignSHA256`. -/
def signSHA256 (svc : ReleaseService) (sha256Hex : String) : Releasing (Option String) :=
  match hexDecode sha256Hex with
  | none => return none
  | some hashBytes => do
      let some sig ← issue (.signASN1 hashBytes)
        | return none
      return some (svc.encodeBase64 sig)

/-- The key of an object. -/
def storageKey (version filename : String) : String :=
  "firmware/" ++ version ++ "/" ++ filename

/-- An empty text is stored as {lit}`NULL`. -/
def textOf (s : String) : Option String :=
  if s = "" then none else some s

/-- The file name an upload is stored under. -/
def ReleaseParams.storedName (params : ReleaseParams) : String :=
  let filename := base params.filename
  if filename = "" ∨ filename = "." then "firmware.bin" else filename

/-- The key under which the release stores its image. -/
def ReleaseParams.storageKey (params : ReleaseParams) : String :=
  Firmware.storageKey (trimSpace params.version) params.storedName

/-- {lit}`fmt.Sprintf("%x", sha256.Sum256(data))`. -/
def checksum (svc : ReleaseService) (data : Bytes) : String :=
  hexEncode (svc.crypto.sum256 data)

/-- The row a release inserts. -/
def ReleaseParams.record (svc : ReleaseService) (params : ReleaseParams) (sigStr : String) :
    CreateFirmwareVersionParams where
  version := trimSpace params.version
  storageKey := params.storageKey
  fileSize := params.data.length
  sha256Checksum := checksum svc params.data
  ecdsaSignature := textOf sigStr
  releaseNotes := textOf params.releaseNotes
  uploadedBy := some "operator"

/-- {lit}`Release` from the upload on: persistence with the compensating cleanup. -/
def storeFirmware (svc : ReleaseService) (params : ReleaseParams) (sigStr : String) :
    Releasing Unit := do
  let uploaded ← issue (.putObject params.storageKey params.data)
  let uploaded : Bool := uploaded
  if uploaded then
    match ← issue (.createFirmwareVersion (params.record svc sigStr)) with
    | some fw => finish (.ok fw)
    | none => do
        let _ ← issue (.removeObject params.storageKey)
        finish (.error "failed to record firmware in database")
  else
    finish (.error "failed to upload firmware to storage")

/-- {lit}`Release` from the uniqueness check on. -/
def signFirmware (svc : ReleaseService) (params : ReleaseParams) : Releasing Unit := do
  if svc.privKey then
    match ← signSHA256 svc (checksum svc params.data) with
    | some sigStr => storeFirmware svc params sigStr
    | none => finish (.error "sign firmware")
  else
    finish (.error "firmware signing key unavailable")

/-- Every error of the uniqueness check is taken for a version that is not there. -/
def release (svc : ReleaseService) (params : ReleaseParams) : Releasing Unit :=
  if trimSpace params.version = "" then
    finish (.error "version is required")
  else
    match validateBinary svc.lowering params.storedName params.data with
    | .error text => finish (.error text)
    | .ok _ => do
        match ← issue (.getFirmwareVersionByVersion (trimSpace params.version)) with
        | some _ => finish (.error ("firmware version " ++ trimSpace params.version ++
            " already exists"))
        | none => signFirmware svc params

/-! ## The machine -/

/-- The table, and the objects by their keys. -/
structure ReleaseStore where
  versions : Table FirmwareRow.key
  objects : String → Option Bytes

/-- No version has been released, and no object stored. -/
def ReleaseStore.empty : ReleaseStore where
  versions := Table.empty
  objects := fun _ => none

/-- An object is put under a key, or removed. -/
def ReleaseStore.setObject (s : ReleaseStore) (key : String) (object : Option Bytes) :
    ReleaseStore :=
  { s with objects := fun key' => if key' = key then object else s.objects key' }

/-- {lit}`INSERT INTO firmware_versions ... RETURNING *`: the version and the UUID are unique. -/
def ReleaseStore.createFirmwareVersion (s : ReleaseStore) (uuid : FirmwareID)
    (p : CreateFirmwareVersionParams) : Option FirmwareRow × ReleaseStore :=
  if s.versions.rows.any fun row => row.id = uuid then (none, s)
  else
    match s.versions.insert (p.row uuid) with
    | some versions => (some (p.row uuid), { s with versions })
    | none => (none, s)

/-- The environment's part of a step. -/
structure ReleaseChoice where
  fault : Bool := false
  uuid : FirmwareID := 0
  signature : Bytes := []
deriving DecidableEq, Repr

/-- One atomic operation.  A failing one has no effect. -/
def ReleaseStore.exec (s : ReleaseStore) : (op : ReleaseOp) → ReleaseChoice → op.Ret × ReleaseStore
  | .getFirmwareVersionByVersion version, x =>
      (if x.fault then none else s.versions.find? version, s)
  | .signASN1 _, x => (if x.fault then none else some x.signature, s)
  | .putObject key data, x =>
      if x.fault then (false, s) else (true, s.setObject key (some data))
  | .createFirmwareVersion p, x =>
      if x.fault then (none, s) else s.createFirmwareVersion x.uuid p
  | .removeObject key, x => if x.fault then (false, s) else (true, s.setObject key none)
  | .returned _, _ => ((), s)

/-- The release service: every call is admitted. -/
def releaseMachine (svc : ReleaseService) :
    Machine ReleaseOp.Ret ReleaseStore ReleaseParams ReleaseChoice where
  body := release svc
  accept s _ := some s
  exec := ReleaseStore.exec

/-- The thread of a release runs {lit}`release`. -/
@[simp]
theorem releaseMachine_body (svc : ReleaseService) : (releaseMachine svc).body = release svc :=
  rfl

namespace Releases

/-- A state of the service: the table, the objects and the releases under way. -/
abbrev Config := Machine.Config ReleaseOp.Ret ReleaseStore ReleaseParams

/-- A release is called, or executes its next operation. -/
abbrev Label := Machine.Label ReleaseParams ReleaseChoice

/-- The interleaved steps of the releases. -/
def step (svc : ReleaseService) : Config → Label → Option Config :=
  (releaseMachine svc).step

/-- Nothing was released yet. -/
def start : Config :=
  Machine.initial ReleaseStore.empty

end Releases

/-! ## Storage keys -/

/-- A text with a separator after which it does not occur again splits in one way. -/
theorem append_separator_injective {α : Type} {sep : α} {xs xs' ys ys' : List α} (hy : sep ∉ ys)
    (hy' : sep ∉ ys') (h : xs ++ sep :: ys = xs' ++ sep :: ys') : xs = xs' ∧ ys = ys' := by
  rcases List.append_eq_append_iff.mp h with ⟨zs, hxs, hys⟩ | ⟨zs, hxs, hys⟩
  · cases zs with
    | nil =>
        have htail : ys = ys' := (List.cons.inj hys).2
        exact ⟨by simpa using hxs.symm, htail⟩
    | cons z zs =>
        have htail : ys = zs ++ sep :: ys' := (List.cons.inj hys).2
        exact absurd (by simp [htail]) hy
  · cases zs with
    | nil =>
        have htail : ys' = ys := (List.cons.inj hys).2
        exact ⟨by simpa using hxs, htail.symm⟩
    | cons z zs =>
        have htail : ys' = zs ++ sep :: ys := (List.cons.inj hys).2
        exact absurd (by simp [htail]) hy'

/-- Two uploads share a storage key exactly if they share version and file name. -/
theorem storageKey_injective {version version' filename filename' : String}
    (hname : '/' ∉ filename.toList) (hname' : '/' ∉ filename'.toList) :
    storageKey version filename = storageKey version' filename' ↔
      version = version' ∧ filename = filename' := by
  constructor
  · intro h
    have hlists : ("firmware/" ++ version).toList ++ '/' :: filename.toList =
        ("firmware/" ++ version').toList ++ '/' :: filename'.toList := by
      have htexts := congrArg String.toList h
      simpa [storageKey] using htexts
    obtain ⟨hversion, hfilename⟩ := append_separator_injective hname hname' hlists
    have hversions : version.toList = version'.toList := by simpa using hversion
    exact ⟨String.toList_inj.mp hversions, String.toList_inj.mp hfilename⟩
  · intro h
    rw [h.1, h.2]

/-! ## What a release does in which order -/

/-- How far the upload of a release has come. -/
inductive Upload where
  | idle
  | stored (key : String) (data : Bytes)
  | orphaned (key : String)

namespace Upload

/-- A stored object is recorded under its own key and checksum, and what could not be recorded
is removed. -/
def Allows (svc : ReleaseService) : Upload → ReleaseOp → Prop
  | .stored key data, .createFirmwareVersion p =>
      p.storageKey = key ∧ p.sha256Checksum = checksum svc data
  | _, .createFirmwareVersion _ => False
  | .orphaned key, .removeObject key' => key' = key
  | _, .removeObject _ => False
  | _, _ => True

/-- What is known of the upload after an operation. -/
def next : Upload → (op : ReleaseOp) → op.Ret → Upload
  | _, .putObject key data, r => bif (r : Bool) then .stored key data else .idle
  | _, .createFirmwareVersion p, r =>
      if Option.isSome (α := FirmwareRow) r then .idle else .orphaned p.storageKey
  | _, _, _ => .idle

end Upload

/-- A release inserts the row of the object it has stored, and removes its own object only. -/
def uploadDiscipline (svc : ReleaseService) : Discipline ReleaseOp.Ret Upload where
  allowed := Upload.Allows svc
  rely _ _ _ := True
  next := Upload.next

variable {svc : ReleaseService}

theorem finish_obeys (result : Except String FirmwareRow) (g : Upload) :
    Obeys (uploadDiscipline svc) (fun _ _ => True) g (finish result) := by
  refine ⟨?_, fun _ _ => trivial⟩
  cases g <;> trivial

/-- The object is stored before its row. -/
theorem storeFirmware_obeys (params : ReleaseParams) (sigStr : String) (g : Upload) :
    Obeys (uploadDiscipline svc) (fun _ _ => True) g (storeFirmware svc params sigStr) := by
  refine ⟨by cases g <;> trivial, fun (uploaded : Bool) _ => ?_⟩
  cases uploaded with
  | false => exact finish_obeys _ _
  | true =>
      refine ⟨⟨rfl, rfl⟩, fun (r : Option FirmwareRow) _ => ?_⟩
      cases r with
      | some fw => exact finish_obeys _ _
      | none => exact ⟨rfl, fun _ _ => finish_obeys _ _⟩

/-- The signature comes before the upload. -/
theorem signFirmware_obeys (params : ReleaseParams) (g : Upload) :
    Obeys (uploadDiscipline svc) (fun _ _ => True) g (signFirmware svc params) := by
  unfold signFirmware
  split
  · unfold signSHA256
    split
    · exact finish_obeys _ _
    · refine ⟨by cases g <;> trivial, fun (r : Option Bytes) _ => ?_⟩
      cases r with
      | none => exact finish_obeys _ _
      | some sig => exact storeFirmware_obeys _ _ _
  · exact finish_obeys _ _

/-- A release records what it has uploaded, and removes what it could not record. -/
theorem release_obeys (params : ReleaseParams) :
    Obeys (uploadDiscipline svc) (fun _ _ => True) .idle (release svc params) := by
  unfold release
  split
  · exact finish_obeys _ _
  · split
    · exact finish_obeys _ _
    · refine ⟨trivial, fun (r : Option FirmwareRow) _ => ?_⟩
      cases r with
      | some fw => exact finish_obeys _ _
      | none => exact signFirmware_obeys _ _

end OtaRobot.Firmware
