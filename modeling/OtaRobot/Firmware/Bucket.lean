import OtaRobot.Firmware.Catalogue

/-!
# What the bucket holds, and what a link leads to

An object is put into the bucket by a release that has passed the validation, under a key made of
its version and file name.  Two releases of one version share a key; two versions never do, so the
object behind a link to a version, if there is one, was uploaded as that version.

Main results:

- Theorem {lit}`Service.serve_issues`: which releases upload and record what.
- Theorem {lit}`Service.stored_accepted`: where the objects of the bucket come from.
- Theorem {lit}`Service.link_names`: what a download link is for.
-/

namespace OtaRobot.Firmware

open Agent (Bytes PublicKey)
open Prog Transition

/-! ## Accepted uploads -/

/-- The release passes the checks before the first operation. -/
structure Accepted (svc : ReleaseService) (params : ReleaseParams) : Prop where
  version : trimSpace params.version ≠ ""
  valid : validateBinary svc.lowering params.storedName params.data = .ok ()

/-- The name of the root has no extension. -/
theorem validateBinary_root (low : RuneLowering) (data : Bytes) :
    validateBinary low "/" data ≠ .ok () := by
  have hbase : base "/" = "/" := by decide
  have hlower : ("/".toList.map low.toLower) = ['/'] := by
    simp [low.ascii '/' (by decide)]
  have hext : (allowedFirmwareExtensions.any fun ext => hasSuffix ['/'] ext) = false := by decide
  unfold validateBinary
  split
  · simp
  · split
    · simp
    · dsimp only
      rw [hbase, hlower, hext]
      simp

/-- An accepted name is one level of the key. -/
theorem storedName_noSlash {svc : ReleaseService} {params : ReleaseParams}
    (h : Accepted svc params) : '/' ∉ params.storedName.toList := by
  have hvalid := h.valid
  have hname : params.storedName = "firmware.bin" ∨ params.storedName = base params.filename := by
    unfold ReleaseParams.storedName
    dsimp only
    split
    · exact Or.inl rfl
    · exact Or.inr rfl
  rcases hname with hname | hname
  · rw [hname]
    decide
  · rcases slash_not_mem_base params.filename with hroot | hslash
    · rw [hname, hroot] at hvalid
      exact absurd hvalid (validateBinary_root _ _)
    · rw [hname]
      exact hslash

/-- Accepted releases share a key exactly if they share version and file name. -/
theorem Accepted.storageKey_iff {svc : ReleaseService} {params params' : ReleaseParams}
    (h : Accepted svc params) (h' : Accepted svc params') :
    params.storageKey = params'.storageKey ↔
      trimSpace params.version = trimSpace params'.version ∧
        params.storedName = params'.storedName :=
  storageKey_injective (storedName_noSlash h) (storedName_noSlash h')

/-- A release uploads its image and records it. -/
def ReleaseOp.Uploads (svc : ReleaseService) (params : ReleaseParams) : ReleaseOp → Prop
  | .putObject key data => Accepted svc params ∧ key = params.storageKey ∧ data = params.data
  | .createFirmwareVersion p => Accepted svc params ∧ ∃ sigStr, p = params.record svc sigStr
  | _ => True

section

variable {svc : ReleaseService} {params : ReleaseParams}

theorem finish_uploads (result : Except String FirmwareRow) :
    Always (fun _ _ => True) (ReleaseOp.Uploads svc params) (finish result) :=
  ⟨trivial, fun _ _ => trivial⟩

/-- The image is uploaded under the key of its release. -/
theorem storeFirmware_uploads (h : Accepted svc params) (sigStr : String) :
    Always (fun _ _ => True) (ReleaseOp.Uploads svc params) (storeFirmware svc params sigStr) := by
  refine ⟨⟨h, rfl, rfl⟩, fun (uploaded : Bool) _ => ?_⟩
  cases uploaded with
  | false => exact finish_uploads _
  | true =>
      refine ⟨⟨h, sigStr, rfl⟩, fun (r : Option FirmwareRow) _ => ?_⟩
      cases r with
      | some fw => exact finish_uploads _
      | none => exact ⟨trivial, fun _ _ => finish_uploads _⟩

/-- The signature comes before the upload. -/
theorem signFirmware_uploads (h : Accepted svc params) :
    Always (fun _ _ => True) (ReleaseOp.Uploads svc params) (signFirmware svc params) := by
  unfold signFirmware
  split
  · unfold signSHA256
    split
    · exact finish_uploads _
    · refine ⟨trivial, fun (r : Option Bytes) _ => ?_⟩
      cases r with
      | none => exact finish_uploads _
      | some sig => exact storeFirmware_uploads h _
  · exact finish_uploads _

/-- A release uploads what it has validated. -/
theorem release_uploads :
    Always (fun _ _ => True) (ReleaseOp.Uploads svc params) (release svc params) := by
  unfold release
  split
  · exact finish_uploads _
  · rename_i hversion
    split
    · exact finish_uploads _
    · rename_i u hvalid
      refine ⟨trivial, fun (r : Option FirmwareRow) _ => ?_⟩
      cases r with
      | some fw => exact finish_uploads _
      | none => exact signFirmware_uploads ⟨hversion, hvalid⟩

end

namespace Service

/-! ## Who uploads -/

/-- Only a release uploads and records, and it does so with its own image. -/
def Issues (svc : ReleaseService) : ServiceCall → ServiceOp → Prop
  | .release params, .release op => op.Uploads svc params
  | _, .release _ => False
  | _, _ => True

theorem issues_other {svc : ReleaseService} {call : ServiceCall} {op : ServiceOp}
    (h : ∀ op', op ≠ .release op') : Issues svc call op := by
  cases op with
  | release op => exact absurd rfl (h op)
  | _ => cases call <;> trivial

/-- Every call uploads what a release may upload. -/
theorem serve_issues (svc : ReleaseService) (call : ServiceCall) :
    Always (fun _ _ => True) (Issues svc call) (serve svc call) := by
  have hreply : ∀ r, Always (fun _ _ => True) (Issues svc call) (Serving.reply r) :=
    fun r => ⟨issues_other fun _ => by simp, fun _ _ => trivial⟩
  cases call with
  | release params =>
      exact release_uploads.embed (fun _ _ _ => trivial) fun _ h => h
  | getDownloadURL id =>
      exact (always_embed (fun _ => trivial) _).bind fun _ => hreply _
  | list => exact ⟨trivial, fun _ _ => hreply _⟩
  | delete id =>
      exact (always_embed (fun _ => trivial) _).bind fun _ => hreply _
  | update id notes status =>
      exact (always_embed (fun _ => trivial) _).bind fun _ => hreply _
  | resignAll =>
      exact (always_embed (fun _ => trivial) _).bind fun _ => hreply _

/-- A call of the run has released the image under the version. -/
def ReleasedAs (svc : ReleaseService) (c : Config) (params : ReleaseParams) : Prop :=
  Accepted svc params ∧ ∃ i q, c.thread i = some (.release params, q)

section

variable {svc : ReleaseService} {s₀ : ReleaseStore} {c c' t : Config} {ls : List Label}

theorem run_issues (h : run (step svc) (start s₀) ls = some t) : t.AllOps (Issues svc) := by
  have hbody : ∀ call, Always (fun _ _ => True) (Issues svc call)
      ((serviceMachine svc).body call) := by
    rw [serviceMachine_body]
    exact serve_issues svc
  exact Machine.run_allOps hbody h

/-- What was uploaded in a run is the image of a release. -/
theorem uploaded_released (h : run (step svc) (start s₀) ls = some t) {key : String}
    {data : Bytes} {e : Machine.Event ServiceOp.Ret} (he : e ∈ t.trace)
    (hop : e.op = .release (.putObject key data)) :
    ∃ params, ReleasedAs svc t params ∧ params.storageKey = key ∧ params.data = data := by
  obtain ⟨call, q, hthread, hissues⟩ := run_issues h e he
  rw [hop] at hissues
  cases call with
  | release params =>
      obtain ⟨haccepted, hkey, hdata⟩ := hissues
      exact ⟨params, ⟨haccepted, e.thread, q, hthread⟩, hkey.symm, hdata.symm⟩
  | _ => exact absurd hissues id

/-- Objects were there at the start or have been uploaded. -/
theorem object_run (h : run (step svc) (start s₀) ls = some t) :
    ∀ key data, t.store.objects key = some data → s₀.objects key = some data ∨
      ∃ e ∈ t.trace, e.op = .release (.putObject key data) := by
  refine run_invariant (I := fun m => ∀ key data, m.store.objects key = some data →
    s₀.objects key = some data ∨ ∃ e ∈ m.trace, e.op = .release (.putObject key data)) ?_
      (fun _ _ hdata => Or.inl hdata) h
  intro m l m' hm hl key data hdata
  obtain ⟨i, call, -, hs⟩ | ⟨i, x, call, op, k, r, -, hs⟩ := Machine.step_cases hl
  · have hstore : m.store = m'.store := Option.some.inj hs.accepted
    rw [← hstore] at hdata
    rw [hs.trace]
    exact hm key data hdata
  · have hexec : m.store.execService op x = (r, m'.store) := hs.effect
    have hobject := @exec_object m.store op x key data
    rw [hexec] at hobject
    rw [hs.trace]
    rcases hobject hdata with hold | rfl
    · rcases hm key data hold with hinitial | ⟨e, he, hop⟩
      · exact Or.inl hinitial
      · exact Or.inr ⟨e, List.mem_append_left _ he, hop⟩
    · exact Or.inr ⟨_, List.mem_append_right _ (List.mem_singleton_self _), rfl⟩

/-- A recorded row was there at the start or is that of a release. -/
theorem recorded_released (h : run (step svc) (start s₀) ls = some t) {row : FirmwareRow}
    (hrow : row ∈ recordedRows s₀ t.trace) :
    row ∈ s₀.versions.rows ∨ ∃ params sigStr uuid, ReleasedAs svc t params ∧
      row = (params.record svc sigStr).row uuid := by
  have hinserted := run_invariant (I := fun m => ∀ e ∈ m.trace, ∀ row,
    insertedRow e.op e.ret = some row → ∃ p uuid, e.op = .release (.createFirmwareVersion p) ∧
      row = p.row uuid) ?_ (fun _ he => absurd he List.not_mem_nil) h
  · rcases List.mem_append.mp hrow with hold | hnew
    · exact Or.inl hold
    · right
      obtain ⟨e, he, hrow⟩ := List.mem_filterMap.mp hnew
      obtain ⟨p, uuid, hop, rfl⟩ := hinserted e he row hrow
      obtain ⟨call, q, hthread, hissues⟩ := run_issues h e he
      rw [hop] at hissues
      cases call with
      | release params =>
          obtain ⟨haccepted, sigStr, rfl⟩ := hissues
          exact ⟨params, sigStr, uuid, ⟨haccepted, e.thread, q, hthread⟩, rfl⟩
      | _ => exact absurd hissues id
  · intro m l m' hm hl e he row hrow
    obtain ⟨i, call, -, hs⟩ | ⟨i, x, call, op, k, r, -, hs⟩ := Machine.step_cases hl
    · rw [hs.trace] at he
      exact hm e he row hrow
    · rw [hs.trace, List.mem_append, List.mem_singleton] at he
      rcases he with he | rfl
      · exact hm e he row hrow
      · have hexec : m.store.execService op x = (r, m'.store) := hs.effect
        have hinsertion := @exec_insertedRow m.store op x row
        rw [hexec] at hinsertion
        obtain ⟨p, hop, hrow'⟩ := hinsertion hrow
        exact ⟨p, x.uuid, hop, hrow'⟩

/-- What is stored under the key of a version was uploaded as that version, unless the row or the
object is older than the run. -/
def UploadedAs (svc : ReleaseService) (s₀ : ReleaseStore) (c : Config) (row : FirmwareRow) : Prop :=
  (∃ old ∈ s₀.versions.rows, row.identity = old.identity) ∨
    ∀ data, c.store.objects row.storageKey = some data →
      s₀.objects row.storageKey = some data ∨
        ∃ params, ReleasedAs svc c params ∧ params.data = data ∧
          trimSpace params.version = row.version

/-- Every object of the bucket was there at the start or was released. -/
theorem object_released (h : run (step svc) (start s₀) ls = some t) {key : String} {data : Bytes}
    (hdata : t.store.objects key = some data) : s₀.objects key = some data ∨
      ∃ params, ReleasedAs svc t params ∧ params.storageKey = key ∧ params.data = data := by
  rcases object_run h key data hdata with hold | ⟨e, he, hop⟩
  · exact Or.inl hold
  · exact Or.inr (uploaded_released h he hop)

/-- Two accepted releases with one key are releases of one version. -/
theorem uploadedAs_of_known (h : run (step svc) (start s₀) ls = some t) {row : FirmwareRow}
    (hknown : Known s₀ t.trace row) : UploadedAs svc s₀ t row := by
  obtain ⟨recorded, hrecorded, hidentity⟩ := hknown
  rcases recorded_released h hrecorded with hold | ⟨params, sigStr, uuid, hreleased, rfl⟩
  · exact Or.inl ⟨recorded, hold, hidentity⟩
  · right
    intro data hdata
    have hkey : row.storageKey = params.storageKey :=
      FirmwareRow.column_eq (fun row => row.storageKey) (fun _ => rfl) hidentity
    have hversion : row.version = trimSpace params.version :=
      FirmwareRow.column_eq (fun row => row.version) (fun _ => rfl) hidentity
    rcases object_released h hdata with hinitial | ⟨params', hreleased', hkey', hdata'⟩
    · exact Or.inl hinitial
    · refine Or.inr ⟨params', hreleased', hdata', ?_⟩
      have hsame : params'.storageKey = params.storageKey := hkey'.trans hkey
      rw [hversion]
      exact ((hreleased'.1.storageKey_iff hreleased.1).mp hsame).1

/-- Whatever calls run at the same time and whatever fails in them: every object of the bucket was
there at the start or has passed the validation of a release that was called with it, and what is
stored under the key of a version was uploaded as that version. -/
theorem stored_accepted (h : run (step svc) (start s₀) ls = some t) :
    (∀ key data, t.store.objects key = some data → s₀.objects key = some data ∨
      ∃ params, ReleasedAs svc t params ∧ params.storageKey = key ∧ params.data = data) ∧
      ∀ row ∈ t.store.versions.rows, UploadedAs svc s₀ t row :=
  ⟨fun _ _ hdata => object_released h hdata,
    fun row hrow => uploadedAs_of_known h (known_run h row hrow)⟩

end

/-! ## Links -/

/-- The object store has signed the link to the key. -/
def Presigned (trace : List (Machine.Event ServiceOp.Ret)) (key url : String) : Prop :=
  ∃ i, ⟨i, .link (.presignedGetObject key), (some url : Option String)⟩ ∈ trace

/-- The answer leads to the version: its link to the version's key, with its checksum and a
signature for it. -/
structure Names (svc : ReleaseService) (pub : PublicKey) (s₀ : ReleaseStore) (c : Config)
    (id : FirmwareID) (details : DownloadDetails) (row : FirmwareRow) : Prop where
  recorded : row ∈ recordedRows s₀ c.trace
  id : row.id = id
  link : Presigned c.trace row.storageKey details.url
  checksum : details.checksum = row.sha256Checksum
  signature : details.signature ≠ "" →
    BackendCrypto.verifySignature svc.crypto pub details.checksum details.signature = true

section

variable {svc : ReleaseService} {pub : PublicKey} {s₀ : ReleaseStore} {c c' t : Config}
  {ls : List Label}

/-- The row that is read is one of the table. -/
def LinkTells (svc : ReleaseService) (pub : PublicKey) (s₀ : ReleaseStore) (t : Config) :
    (op : ServiceOp) → op.Ret → Prop
  | .link (.getFirmwareVersion id), r => ∀ fw : FirmwareRow, r = some fw →
      fw.id = id ∧ Known s₀ t.trace fw ∧ fw.Verifies svc pub
  | .link (.presignedGetObject key), r => ∀ url : String, r = some url → Presigned t.trace key url
  | _, _ => True

/-- A link request answers with what belongs to the row it has read. -/
def LinkPasses (svc : ReleaseService) (pub : PublicKey) (s₀ : ReleaseStore) (t : Config) :
    ServiceCall → ServiceOp → Prop
  | .getDownloadURL id, .reply (.link (.ok details)) => ∃ row, Names svc pub s₀ t id details row
  | _, _ => True

/-- {lit}`GetDownloadURL` answers with the object, checksum and signature of one row. -/
theorem getDownloadURL_names (id : FirmwareID) :
    Always (LinkTells svc pub s₀ t) (LinkPasses svc pub s₀ t (.getDownloadURL id))
      (serve svc (.getDownloadURL id)) := by
  refine ⟨trivial, fun (r : Option FirmwareRow) hrow => ?_⟩
  cases r with
  | none => exact ⟨trivial, fun _ _ => trivial⟩
  | some fw =>
      obtain ⟨hid, ⟨recorded, hrecorded, hidentity⟩, hverifies⟩ := hrow fw rfl
      refine ⟨trivial, fun (r : Option String) hurl => ?_⟩
      cases r with
      | none => exact ⟨trivial, fun _ _ => trivial⟩
      | some url =>
          refine ⟨⟨recorded, hrecorded, ?_, ?_, ?_, ?_⟩, fun _ _ => trivial⟩
          · rw [← FirmwareRow.id_eq hidentity, hid]
          · have hkey : fw.storageKey = recorded.storageKey :=
              FirmwareRow.column_eq (fun row => row.storageKey) (fun _ => rfl) hidentity
            exact hkey ▸ hurl url rfl
          · exact FirmwareRow.sha256Checksum_eq hidentity
          · intro hne
            cases hsignature : fw.ecdsaSignature with
            | none =>
                rw [hsignature] at hne
                exact absurd rfl hne
            | some text =>
                rw [hsignature] at hne
                exact hverifies text hsignature hne

/-- No other call answers a link. -/
theorem serve_names (call : ServiceCall) :
    Always (LinkTells svc pub s₀ t) (LinkPasses svc pub s₀ t call) (serve svc call) := by
  cases call with
  | getDownloadURL id => exact getDownloadURL_names id
  | release params => exact always_embed (fun _ => trivial) _
  | list => exact ⟨trivial, fun _ _ => ⟨trivial, fun _ _ => trivial⟩⟩
  | delete id => exact (always_embed (fun _ => trivial) _).bind fun _ => ⟨trivial, fun _ _ => trivial⟩
  | update id notes status =>
      exact (always_embed (fun _ => trivial) _).bind fun _ => ⟨trivial, fun _ _ => trivial⟩
  | resignAll => exact (always_embed (fun _ => trivial) _).bind fun _ => ⟨trivial, fun _ _ => trivial⟩

/-- The row that a statement reads. -/
theorem row_mem {s : ReleaseStore} {id : FirmwareID} {row : FirmwareRow}
    (h : s.row id = some row) : row ∈ s.versions.rows ∧ row.id = id :=
  ⟨List.mem_of_find?_eq_some h, by simpa using List.find?_some h⟩

/-- A step answers what is known, and links that it signs. -/
theorem linkTells_step (hc : CatalogueInvariant svc pub s₀ t.trace c)
    (hgenuine : Genuine svc pub c.store) {i : Nat} {x : ServiceChoice} {call : ServiceCall} {op : ServiceOp} {k : op.Ret → Serving Unit}
    {r : op.Ret} (hs : (serviceMachine svc).Executed c c' i x call op k r)
    (hpast : c'.trace <+: t.trace) : LinkTells svc pub s₀ t op r := by
  have hexec : c.store.execService op x = (r, c'.store) := hs.effect
  have hbefore : c.trace <+: t.trace := by
    rw [hs.trace] at hpast
    exact (List.prefix_append _ _).trans hpast
  cases op with
  | link op =>
      cases op with
      | getFirmwareVersion id =>
          intro fw hfw
          have hanswer : (if x.fault then none else c.store.row id) = r :=
            congrArg Prod.fst hexec
          rw [hfw] at hanswer
          split at hanswer
          · cases hanswer
          · obtain ⟨hrow, hid⟩ := row_mem hanswer
            exact ⟨hid, (hc.known fw hrow).of_past hbefore, hgenuine fw hrow⟩
      | presignedGetObject key =>
          intro url hurl
          refine ⟨i, hpast.subset ?_⟩
          rw [hs.trace, ← hurl]
          exact List.mem_append_right _ (List.mem_singleton_self _)
  | _ => trivial

/-- Whatever runs at the same time, a link that is handed out for an id is one to the object of a
version with that id, together with the checksum of this version and a signature for it, if all
signatures were such at the start; and what is stored there was uploaded as this version, unless it
is older than the run. -/
theorem link_names (h : run (step svc) (start s₀) ls = some t) (hsound : Sound svc pub s₀ t.trace)
    (hgenuine : Genuine svc pub s₀) {i : Nat} {id : FirmwareID} {q : Serving Unit} (hi : t.thread i = some (.getDownloadURL id, q))
    {details : DownloadDetails} (hreply : ⟨i, .reply (.link (.ok details)), ()⟩ ∈ t.trace) :
    ∃ row, Names svc pub s₀ t id details row ∧ UploadedAs svc s₀ t row := by
  have htells : ∀ e ∈ t.trace, LinkTells svc pub s₀ t e.op e.ret := by
    have hrun := run_invariant (I := fun m => m.trace <+: t.trace →
      (CatalogueInvariant svc pub s₀ t.trace m ∧ Genuine svc pub m.store) ∧
        ∀ e ∈ m.trace, LinkTells svc pub s₀ t e.op e.ret) ?_
      (fun _ => ⟨⟨catalogueInvariant_start, hgenuine⟩, fun _ he => absurd he List.not_mem_nil⟩) h
      List.prefix_rfl
    · exact hrun.2
    · intro m l m' hm hl hpast
      obtain ⟨⟨hinvariant, hgenuine⟩, htells⟩ := hm ((Machine.step_trace hl).trans hpast)
      refine ⟨⟨catalogueInvariant_step hinvariant hsound hl hpast,
        genuine_step hinvariant hgenuine hl hpast⟩, ?_⟩
      intro e he
      obtain ⟨i, call, -, hs⟩ | ⟨i, x, call, op, k, r, -, hs⟩ := Machine.step_cases hl
      · rw [hs.trace] at he
        exact htells e he
      · rw [hs.trace, List.mem_append, List.mem_singleton] at he
        rcases he with he | rfl
        · exact htells e he
        · exact linkTells_step hinvariant hgenuine hs hpast
  have hbody : ∀ call, Always (LinkTells svc pub s₀ t) (LinkPasses svc pub s₀ t call)
      ((serviceMachine svc).body call) := by
    rw [serviceMachine_body]
    exact serve_names
  obtain ⟨call, q', hthread, hpasses⟩ := Machine.run_allOps_of_answers hbody h htells _ hreply
  rw [hi] at hthread
  obtain ⟨rfl, -⟩ := Prod.mk.inj (Option.some.inj hthread)
  obtain ⟨row, hnames⟩ := hpasses
  exact ⟨row, hnames, uploadedAs_of_known h ⟨row, hnames.recorded, rfl⟩⟩

end

/-- A release of another version under the same file name. -/
def releasing : List Label :=
  .spawn 0 (.release (uploadOf "2.0.0" [5, 6, 7, 8])) ::
    List.replicate 5 (serveNext 0 newSignature)

/-- A release, and what its object is. -/
theorem stored_accepted_releasing :
    ∃ t row params, run (step standardService) (start legacyStore) releasing = some t ∧
      row ∈ t.store.versions.rows ∧ row.version = "2.0.0" ∧
      t.store.objects row.storageKey = some [5, 6, 7, 8] ∧
      ReleasedAs standardService t params ∧ params.data = [5, 6, 7, 8] ∧
      trimSpace params.version = row.version := by
  have hend : endsWith (step standardService) (start legacyStore) releasing (fun t =>
      t.store.versions.rows.any fun row => row.version = "2.0.0" && row.id ≠ 7 &&
        row.storageKey ≠ legacyRow.storageKey &&
        t.store.objects row.storageKey = some [5, 6, 7, 8]) = true := by
    decide +kernel
  obtain ⟨t, hrun, htest⟩ := endsWith_eq_true hend
  simp only [List.any_eq_true, Bool.and_eq_true, decide_eq_true_eq] at htest
  obtain ⟨row, hrow, ⟨⟨hversion, hid⟩, hkey⟩, hdata⟩ := htest
  rcases (stored_accepted hrun).2 row hrow with ⟨old, hold, hidentity⟩ | hobjects
  · obtain rfl : old = legacyRow := List.mem_singleton.mp hold
    exact absurd (FirmwareRow.id_eq hidentity) hid
  · rcases hobjects _ hdata with hinitial | ⟨params, hreleased, hparams, hsame⟩
    · have hnone : legacyStore.objects row.storageKey = none := if_neg hkey
      rw [hnone] at hinitial
      cases hinitial
    · exact ⟨t, row, params, hrun, hrow, hversion, hdata, hreleased, hparams, hsame⟩

/-- The link to the old version, after it has been signed and deprecated. -/
theorem link_names_legacy :
    ∃ t row details, run (step standardService) (start legacyStore)
        (signingWhileDeleting ++ deprecating) = some t ∧
      details.url = "http://minio/object" ∧ details.signature ≠ "" ∧
      Names standardService signingKey legacyStore t 7 details row := by
  have hend : endsWith (step standardService) (start legacyStore)
      (signingWhileDeleting ++ deprecating) (fun t => soundTest t &&
        (t.thread 4).any (fun thread => thread.1 = .getDownloadURL 7) &&
        t.trace.any fun e => e.thread = 4 && e.op = .reply (.link (.ok
          ⟨"http://minio/object", checksum standardService [1, 2, 3, 4], oldSignatureText⟩))) =
      true := by
    decide +kernel
  obtain ⟨t, hrun, htest⟩ := endsWith_eq_true hend
  simp only [Bool.and_eq_true, List.any_eq_true, Option.any_eq_true, decide_eq_true_eq] at htest
  obtain ⟨⟨hsound, ⟨call, q⟩, hthread, rfl⟩, ⟨i, op, r⟩, he, rfl, rfl⟩ := htest
  obtain ⟨row, hnames, -⟩ := link_names hrun (sound_of_test hsound) legacyStore_genuine hthread he
  exact ⟨t, row, _, hrun, rfl, by decide, hnames⟩

end Service

end OtaRobot.Firmware
