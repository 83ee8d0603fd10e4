import OtaRobot.Firmware.Service

/-!
# What the catalogue keeps

Releases, changes, signings and deletions run at the same time, and between two statements of one
call those of any other may come: {lit}`ResignAll` signs the checksums of a listing while rows are
deleted and released, and a deletion removes an object and then a row.  Whatever comes in between,
a row keeps what its release has written, every signature in the table is one for the checksum
beside it, and a deleted version does not come back.

Main results:

- Theorem {lit}`Service.catalogueInvariant_step`: what a step keeps.
- Theorem {lit}`Service.signatures_verify`: the signatures of the table.
- Theorem {lit}`Service.catalogue_kept`: what a row keeps, and what is gone.
-/

namespace OtaRobot.Firmware

open Agent (Bytes PublicKey hexDecode)
open Prog Transition

/-! ## Rows -/

/-- The columns that are written once. -/
def FirmwareRow.identity (row : FirmwareRow) : FirmwareRow :=
  { row with ecdsaSignature := none, releaseNotes := none, isActive := true }

@[simp]
theorem FirmwareRow.identity_withSignature (row : FirmwareRow) (text : String) :
    (row.withSignature text).identity = row.identity :=
  rfl

@[simp]
theorem FirmwareRow.identity_withMetadata (row : FirmwareRow) (notes : String) (isActive : Bool) :
    (row.withMetadata notes isActive).identity = row.identity :=
  rfl

/-- Such a column is the same for two rows of one identity. -/
theorem FirmwareRow.column_eq {α : Type} (f : FirmwareRow → α) (hf : ∀ row, f row.identity = f row)
    {row row' : FirmwareRow} (h : row.identity = row'.identity) : f row = f row' := by
  rw [← hf row, h, hf row']

/-- The id is part of the identity. -/
theorem FirmwareRow.id_eq {row row' : FirmwareRow} (h : row.identity = row'.identity) :
    row.id = row'.id :=
  column_eq (fun row => row.id) (fun _ => rfl) h

/-- The checksum is part of the identity. -/
theorem FirmwareRow.sha256Checksum_eq {row row' : FirmwareRow}
    (h : row.identity = row'.identity) : row.sha256Checksum = row'.sha256Checksum :=
  column_eq (fun row => row.sha256Checksum) (fun _ => rfl) h

/-- The signature of the row, if it has one, is one for its checksum. -/
def FirmwareRow.Verifies (svc : ReleaseService) (pub : PublicKey) (row : FirmwareRow) : Prop :=
  ∀ text, row.ecdsaSignature = some text → text ≠ "" →
    BackendCrypto.verifySignature svc.crypto pub row.sha256Checksum text = true

namespace Service

/-! ## Histories -/

/-- The rows there have been: those at the start and those that were inserted. -/
def recordedRows (s₀ : ReleaseStore) (trace : List (Machine.Event ServiceOp.Ret)) :
    List FirmwareRow :=
  s₀.versions.rows ++ trace.filterMap fun e => insertedRow e.op e.ret

/-- What the signer answers verifies under the public key. -/
def Signs (svc : ReleaseService) (pub : PublicKey) : (op : ServiceOp) → op.Ret → Prop
  | .release op, r => SignedBy svc pub op r
  | .resign (.signASN1 digest), r =>
      ∀ sig, (r : Option Bytes) = some sig → svc.crypto.verifyASN1 pub digest sig = true
  | _, _ => True

/-- The library is the standard one and its signer uses the private key of {lit}`pub`; no UUID is
generated twice. -/
structure Sound (svc : ReleaseService) (pub : PublicKey) (s₀ : ReleaseStore)
    (trace : List (Machine.Event ServiceOp.Ret)) : Prop where
  encode : svc.encodeBase64 = Base64.encode
  decode : svc.crypto.decodeBase64 = Base64.decode
  rejectsEmpty : ∀ digest, svc.crypto.verifyASN1 pub digest [] = false
  signs : ∀ e ∈ trace, Signs svc pub e.op e.ret
  distinct : ((recordedRows s₀ trace).map fun row => row.id).Nodup

/-- The signatures of the table are for the checksums beside them. -/
def Genuine (svc : ReleaseService) (pub : PublicKey) (s : ReleaseStore) : Prop :=
  ∀ row ∈ s.versions.rows, row.Verifies svc pub

section

variable {svc : ReleaseService} {pub : PublicKey} {s₀ : ReleaseStore}
  {trace : List (Machine.Event ServiceOp.Ret)}

/-- What was recorded stays recorded. -/
theorem recordedRows_past {trace' : List (Machine.Event ServiceOp.Ret)}
    (h : trace' <+: trace) : recordedRows s₀ trace' <+: recordedRows s₀ trace := by
  obtain ⟨more, rfl⟩ := h
  exact ⟨more.filterMap fun e => insertedRow e.op e.ret, by simp [recordedRows]⟩

/-- One more operation records a row at most. -/
theorem recordedRows_append (e : Machine.Event ServiceOp.Ret) :
    recordedRows s₀ (trace ++ [e]) =
      recordedRows s₀ trace ++ (insertedRow e.op e.ret).toList := by
  cases h : insertedRow e.op e.ret <;> simp [recordedRows, h]

/-- What has been sound so far was sound before. -/
theorem Sound.of_past {trace' : List (Machine.Event ServiceOp.Ret)}
    (hsound : Sound svc pub s₀ trace) (h : trace' <+: trace) : Sound svc pub s₀ trace' where
  encode := hsound.encode
  decode := hsound.decode
  rejectsEmpty := hsound.rejectsEmpty
  signs e he := hsound.signs e (h.subset he)
  distinct := ((recordedRows_past h).map _).sublist.nodup hsound.distinct

/-- A UUID belongs to one row. -/
theorem Sound.eq_of_id_eq (hsound : Sound svc pub s₀ trace) {row row' : FirmwareRow}
    (hrow : row ∈ recordedRows s₀ trace) (hrow' : row' ∈ recordedRows s₀ trace)
    (h : row.id = row'.id) : row = row' :=
  List.inj_on_of_nodup_map hsound.distinct hrow hrow' h

/-- A row is inserted under an id that no row has had. -/
theorem Sound.fresh {i : Nat} {op : ServiceOp} {r : op.Ret}
    (hsound : Sound svc pub s₀ (trace ++ [⟨i, op, r⟩])) {row row' : FirmwareRow}
    (hinserted : insertedRow op r = some row') (hrow : row ∈ recordedRows s₀ trace) :
    row.id ≠ row'.id := by
  have hdistinct := hsound.distinct
  rw [recordedRows_append, List.map_append, List.nodup_append] at hdistinct
  have hmem : row'.id ∈ ((insertedRow op r).toList).map fun row => row.id := by
    rw [hinserted]
    exact List.mem_singleton_self _
  exact hdistinct.2.2 _ (List.mem_map_of_mem hrow) _ hmem

/-- A text that encodes an accepted signature verifies, and is not empty. -/
theorem Sound.verifies_encode (hsound : Sound svc pub s₀ trace) {sum : String}
    {digest sig : Bytes} (hsum : hexDecode sum = some digest)
    (hsig : svc.crypto.verifyASN1 pub digest sig = true) :
    svc.encodeBase64 sig ≠ "" ∧
      BackendCrypto.verifySignature svc.crypto pub sum (svc.encodeBase64 sig) = true := by
  constructor
  · intro hempty
    rw [hsound.encode] at hempty
    rw [Base64.eq_nil_of_encode_eq_empty hempty, hsound.rejectsEmpty] at hsig
    cases hsig
  · unfold BackendCrypto.verifySignature
    rw [hsum, hsound.decode, hsound.encode, Base64.decode_encode]
    exact hsig

end

/-! ## What a call reads and writes -/

/-- A row that was read is a recorded one, but for signature, notes and activity. -/
def Known (s₀ : ReleaseStore) (trace : List (Machine.Event ServiceOp.Ret)) (row : FirmwareRow) :
    Prop :=
  ∃ recorded ∈ recordedRows s₀ trace, row.identity = recorded.identity

/-- What an answer is worth: the rows of the table are known, and signatures verify. -/
def Tells (svc : ReleaseService) (pub : PublicKey) (s₀ : ReleaseStore)
    (trace : List (Machine.Event ServiceOp.Ret)) : (op : ServiceOp) → op.Ret → Prop
  | .resign .listFirmwareVersions, r =>
      ∀ fws : List FirmwareRow, r = some fws → ∀ fw ∈ fws, Known s₀ trace fw
  | op, r => Signs svc pub op r

/-- A signature is written beside the checksum it is for. -/
def Passes (svc : ReleaseService) (pub : PublicKey) (s₀ : ReleaseStore)
    (trace : List (Machine.Event ServiceOp.Ret)) : ServiceOp → Prop
  | .release (.createFirmwareVersion p) => ∀ id, (p.row id).Verifies svc pub
  | .resign (.setSignature id text) => text ≠ "" ∧ ∀ row ∈ recordedRows s₀ trace, row.id = id →
      BackendCrypto.verifySignature svc.crypto pub row.sha256Checksum text = true
  | _ => True

section

variable {svc : ReleaseService} {pub : PublicKey} {s₀ : ReleaseStore}
  {trace : List (Machine.Event ServiceOp.Ret)}

/-- The call writes no signature but for the checksum beside it. -/
abbrev Honest (svc : ReleaseService) (pub : PublicKey) (s₀ : ReleaseStore)
    (trace : List (Machine.Event ServiceOp.Ret)) {α : Type} (p : Serving α) : Prop :=
  Always (Tells svc pub s₀ trace) (Passes svc pub s₀ trace) p

/-- A release writes a signature it was given for its digest. -/
theorem release_honest (hsound : Sound svc pub s₀ trace) (params : ReleaseParams) :
    Honest svc pub s₀ trace (ofRelease (release svc params)) := by
  apply (release_records params).embed
  · intro op r hr
    exact hr
  · intro op hop
    cases op with
    | createFirmwareVersion p =>
        obtain ⟨-, hsigned⟩ := hop
        obtain ⟨sig, htext, hverify⟩ := hsigned.signature
        intro id text hsignature hne
        have hrow : (p.row id).ecdsaSignature = p.ecdsaSignature := rfl
        rw [hrow, htext] at hsignature
        have hencoded : svc.encodeBase64 sig = text := by
          unfold textOf at hsignature
          split at hsignature
          · cases hsignature
          · exact Option.some.inj hsignature
        have hsum : hexDecode p.sha256Checksum = some (svc.crypto.sum256 params.data) := by
          rw [hsigned.checksum, checksum, Agent.hexDecode_hexEncode]
        rw [← hencoded]
        exact (hsound.verifies_encode hsum hverify).2
    | _ => trivial

/-- The loop signs the checksums of the listing. -/
theorem resignLoop_honest (hsound : Sound svc pub s₀ trace) {fws : List FirmwareRow}
    (hfws : ∀ fw ∈ fws, Known s₀ trace fw) (signedCount : Nat) :
    Honest svc pub s₀ trace (ofResign (resignLoop svc fws signedCount)) := by
  induction fws generalizing signedCount with
  | nil => trivial
  | cons fw fws ih =>
      have hrest := ih fun fw' hfw' => hfws fw' (List.mem_cons_of_mem fw hfw')
      unfold resignLoop
      split
      · unfold signChecksum
        cases hsum : hexDecode fw.sha256Checksum with
        | none => exact hrest signedCount
        | some digest =>
            refine ⟨trivial, fun (r : Option Bytes) hr => ?_⟩
            cases r with
            | none => exact hrest signedCount
            | some sig =>
                obtain ⟨hne, hverify⟩ := hsound.verifies_encode hsum (hr sig rfl)
                refine ⟨⟨hne, fun row hrow hid => ?_⟩, fun _ _ => hrest (signedCount + 1)⟩
                obtain ⟨recorded, hrecorded, hidentity⟩ := hfws fw List.mem_cons_self
                have hsame : row = recorded :=
                  hsound.eq_of_id_eq hrow hrecorded (hid.trans (FirmwareRow.id_eq hidentity))
                rw [hsame, ← FirmwareRow.sha256Checksum_eq hidentity]
                exact hverify
      · exact hrest signedCount

/-- One procedure after the other. -/
theorem ofResign_bind {α β : Type} (p : Resigning α) (f : α → Resigning β) :
    ofResign (p >>= f) = ofResign p >>= fun a => ofResign (f a) :=
  embed_bind p f

/-- {lit}`ResignAll` writes signatures it was given for the digests of their rows. -/
theorem resignAll_honest (hsound : Sound svc pub s₀ trace) :
    Honest svc pub s₀ trace (ofResign (resignAll svc)) := by
  unfold resignAll
  split
  · refine ⟨trivial, fun (r : Option (List FirmwareRow)) hr => ?_⟩
    cases r with
    | none => trivial
    | some fws =>
        have hloop := resignLoop_honest hsound (hr fws rfl) 0
        show Honest svc pub s₀ trace (ofResign (resignLoop svc fws 0 >>= fun signedCount =>
          (pure (Except.ok signedCount) : Resigning (Except String Nat))))
        rw [ofResign_bind]
        exact hloop.bind fun _ => trivial
  · trivial

/-- Every call is honest. -/
theorem serve_honest (hsound : Sound svc pub s₀ trace) (call : ServiceCall) :
    Honest svc pub s₀ trace (serve svc call) := by
  have hreply : ∀ r, Honest svc pub s₀ trace (Serving.reply r) := fun _ => ⟨trivial, fun _ _ => trivial⟩
  cases call with
  | release params => exact release_honest hsound params
  | resignAll => exact (resignAll_honest hsound).bind fun _ => hreply _
  | list => exact ⟨trivial, fun _ _ => hreply _⟩
  | getDownloadURL id =>
      exact (always_embed (fun _ => trivial) _).bind fun _ => hreply _
  | delete id =>
      exact (always_embed (fun _ => trivial) _).bind fun _ => hreply _
  | update id notes status =>
      exact (always_embed (fun _ => trivial) _).bind fun _ => hreply _

/-! ## The invariant -/

variable {c c' : Config} {l : Label}

/-- A known row stays known. -/
theorem Known.of_past {trace' : List (Machine.Event ServiceOp.Ret)} {row : FirmwareRow}
    (h : Known s₀ trace' row) (hpast : trace' <+: trace) : Known s₀ trace row := by
  obtain ⟨recorded, hrecorded, hidentity⟩ := h
  exact ⟨recorded, (recordedRows_past hpast).subset hrecorded, hidentity⟩

/-- A row keeps its identity. -/
theorem Becomes.identity_eq {row row' : FirmwareRow} {op : ServiceOp} (h : Becomes row op row') :
    row'.identity = row.identity := by
  cases h <;> rfl

/-- The rows of the table are recorded ones. -/
theorem known_step (hc : ∀ row ∈ c.store.versions.rows, Known s₀ c.trace row)
    (h : step svc c l = some c') : ∀ row ∈ c'.store.versions.rows, Known s₀ c'.trace row := by
  intro row' hrow'
  obtain ⟨i, call, -, hs⟩ | ⟨i, x, call, op, k, r, -, hs⟩ := Machine.step_cases h
  · have hstore : c.store = c'.store := Option.some.inj hs.accepted
    rw [← hstore] at hrow'
    exact (hc row' hrow').of_past (Machine.step_trace h)
  · have hexec : c.store.execService op x = (r, c'.store) := hs.effect
    have hrows := @exec_row c.store op x row'
    rw [hexec] at hrows
    rcases hrows hrow' with ⟨row, hrow, hbecomes⟩ | hinserted
    · obtain ⟨recorded, hrecorded, hidentity⟩ :=
        (hc row hrow).of_past (Machine.step_trace h)
      exact ⟨recorded, hrecorded, hbecomes.identity_eq.trans hidentity⟩
    · refine ⟨row', ?_, rfl⟩
      rw [hs.trace, recordedRows_append, hinserted]
      exact List.mem_append_right _ (List.mem_singleton_self _)

/-- Every row of the table is known in every state of a run. -/
theorem known_run {ls : List Label} (h : run (step svc) (start s₀) ls = some c) :
    ∀ row ∈ c.store.versions.rows, Known s₀ c.trace row := by
  refine run_invariant (I := fun m => ∀ row ∈ m.store.versions.rows, Known s₀ m.trace row)
    (fun _ _ _ hm hl => known_step hm hl) ?_ h
  intro row hrow
  exact ⟨row, List.mem_append_left _ hrow, rfl⟩

/-- The table holds recorded rows, and the calls are honest. -/
structure CatalogueInvariant (svc : ReleaseService) (pub : PublicKey) (s₀ : ReleaseStore)
    (trace : List (Machine.Event ServiceOp.Ret)) (c : Config) : Prop where
  threads : c.AllThreads fun _ p => Honest svc pub s₀ trace p
  known : ∀ row ∈ c.store.versions.rows, Known s₀ c.trace row

/-- Nothing has happened at the start. -/
theorem catalogueInvariant_start : CatalogueInvariant svc pub s₀ trace (start s₀) where
  threads := Machine.allThreads_initial _ _
  known row hrow := ⟨row, List.mem_append_left _ hrow, rfl⟩

/-- What is read is known. -/
theorem tells_exec (svc : ReleaseService) (pub : PublicKey) {s : ReleaseStore} (op : ServiceOp)
    (x : ServiceChoice) (hknown : ∀ row ∈ s.versions.rows, Known s₀ trace row)
    (hsigns : Signs svc pub op (s.execService op x).1) :
    Tells svc pub s₀ trace op (s.execService op x).1 := by
  cases op with
  | resign op =>
      cases op with
      | listFirmwareVersions =>
          intro fws hfws fw hfw
          have hanswer : (if x.fault then none
              else some (s.versions.rows.filter fun row => row.isActive).reverse) = some fws := hfws
          split at hanswer
          · cases hanswer
          · obtain rfl := Option.some.inj hanswer
            exact hknown fw (List.mem_filter.mp (List.mem_reverse.mp hfw)).1
      | _ => exact hsigns
  | _ => exact hsigns

/-- What a step keeps. -/
theorem catalogueInvariant_step (hc : CatalogueInvariant svc pub s₀ trace c)
    (hsound : Sound svc pub s₀ trace) (h : step svc c l = some c') (hpast : c'.trace <+: trace) :
    CatalogueInvariant svc pub s₀ trace c' := by
  have hbefore : c.trace <+: trace := (Machine.step_trace h).trans hpast
  constructor
  · apply Machine.step_allThreads h hc.threads
    · intro i call _ _
      exact serve_honest hsound call
    · intro i x call op k r _ hs hcall
      apply hcall.2
      have hexec : c.store.execService op x = (r, c'.store) := hs.effect
      have htells := tells_exec svc pub op x
        fun row hrow => (hc.known row hrow).of_past hbefore
      rw [hexec] at htells
      apply htells
      apply hsound.signs ⟨i, op, r⟩
      apply hpast.subset
      rw [hs.trace]
      exact List.mem_append_right _ (List.mem_singleton_self _)
  · exact known_step hc.known h

/-- The invariant holds after a run from any state in which it holds. -/
theorem catalogueInvariant_run {ls : List Label} (hsound : Sound svc pub s₀ trace)
    (hc : CatalogueInvariant svc pub s₀ trace c) (h : run (step svc) c ls = some c')
    (hpast : c'.trace <+: trace) : CatalogueInvariant svc pub s₀ trace c' := by
  refine run_invariant (I := fun m => m.trace <+: trace → CatalogueInvariant svc pub s₀ trace m)
    ?_ (fun _ => hc) h hpast
  intro m l m' hm hl hm'
  exact catalogueInvariant_step (hm ((Machine.step_trace hl).trans hm')) hsound hl hm'

/-- Honest calls keep the signatures genuine. -/
theorem genuine_step (hc : CatalogueInvariant svc pub s₀ trace c)
    (hgenuine : Genuine svc pub c.store) (h : step svc c l = some c')
    (hpast : c'.trace <+: trace) : Genuine svc pub c'.store := by
  have hbefore : c.trace <+: trace := (Machine.step_trace h).trans hpast
  intro row' hrow'
  obtain ⟨i, call, -, hs⟩ | ⟨i, x, call, op, k, r, -, hs⟩ := Machine.step_cases h
  · have hstore : c.store = c'.store := Option.some.inj hs.accepted
    rw [← hstore] at hrow'
    exact hgenuine row' hrow'
  · have hexec : c.store.execService op x = (r, c'.store) := hs.effect
    have hpasses : Passes svc pub s₀ trace op := (hc.threads i call _ hs.before).1
    have hrows := @exec_row c.store op x row'
    have hinsertion := @exec_insertedRow c.store op x row'
    rw [hexec] at hrows hinsertion
    rcases hrows hrow' with ⟨row, hrow, hbecomes⟩ | hinserted
    · cases hbecomes with
      | same => exact hgenuine _ hrow
      | changed => exact hgenuine row hrow
      | signed text =>
          obtain ⟨recorded, hrecorded, hidentity⟩ := (hc.known row hrow).of_past hbefore
          intro text' htext _
          obtain rfl : text = text' := Option.some.inj htext
          show BackendCrypto.verifySignature svc.crypto pub row.sha256Checksum text = true
          rw [FirmwareRow.sha256Checksum_eq hidentity]
          exact hpasses.2 recorded hrecorded (FirmwareRow.id_eq hidentity).symm
    · obtain ⟨p, rfl, rfl⟩ := hinsertion hinserted
      exact hpasses _

/-- A table of genuine signatures stays one. -/
theorem genuine_run {ls : List Label} (hsound : Sound svc pub s₀ trace)
    (hc : CatalogueInvariant svc pub s₀ trace c) (hgenuine : Genuine svc pub c.store)
    (h : run (step svc) c ls = some c') (hpast : c'.trace <+: trace) :
    Genuine svc pub c'.store := by
  refine (run_invariant (I := fun m => m.trace <+: trace →
    CatalogueInvariant svc pub s₀ trace m ∧ Genuine svc pub m.store) ?_
    (fun _ => ⟨hc, hgenuine⟩) h hpast).2
  intro m l m' hm hl hm'
  obtain ⟨hinvariant, hgenuine⟩ := hm ((Machine.step_trace hl).trans hm')
  exact ⟨catalogueInvariant_step hinvariant hsound hl hm', genuine_step hinvariant hgenuine hl hm'⟩

/-- Whatever calls the service answers at the same time and whatever fails in them, every signature
in the table is one for the checksum beside it, if it was so at the start. -/
theorem signatures_verify {ls : List Label} (h : run (step svc) (start s₀) ls = some c)
    (hsound : Sound svc pub s₀ c.trace) (hgenuine : Genuine svc pub s₀) :
    ∀ row ∈ c.store.versions.rows, ∀ text, row.ecdsaSignature = some text → text ≠ "" →
      BackendCrypto.verifySignature svc.crypto pub row.sha256Checksum text = true :=
  genuine_run hsound catalogueInvariant_start hgenuine h List.prefix_rfl

/-! ## What stays, and what is gone -/

/-- The later row has the identity of the earlier one, and is signed if that was. -/
structure Continues (row row' : FirmwareRow) : Prop where
  identity : row'.identity = row.identity
  signed : row.isUnsigned = false → row'.isUnsigned = false

theorem Continues.refl (row : FirmwareRow) : Continues row row :=
  ⟨rfl, id⟩

/-- A row that continues one continues what that one has continued. -/
theorem Continues.trans {row row' row'' : FirmwareRow} (h : Continues row row')
    (h' : Continues row' row'') : Continues row row'' :=
  ⟨h'.identity.trans h.identity, fun hsigned => h'.signed (h.signed hsigned)⟩

/-- An operation that writes no empty signature continues the row. -/
theorem Becomes.continues {row row' : FirmwareRow} {op : ServiceOp} (h : Becomes row op row')
    (hpasses : Passes svc pub s₀ trace op) : Continues row row' := by
  refine ⟨h.identity_eq, ?_⟩
  cases h with
  | same => exact id
  | changed => exact id
  | signed text =>
      intro _
      have hne : text ≠ "" := hpasses.1
      simp [FirmwareRow.isUnsigned, FirmwareRow.withSignature, hne]

/-- A row after a step continues one before it, or has an id that no row has had. -/
theorem row_step (hc : CatalogueInvariant svc pub s₀ trace c) (hsound : Sound svc pub s₀ trace)
    (h : step svc c l = some c') (hpast : c'.trace <+: trace) {row' : FirmwareRow}
    (hrow' : row' ∈ c'.store.versions.rows) :
    (∃ row ∈ c.store.versions.rows, Continues row row') ∨
      ∀ row ∈ recordedRows s₀ c.trace, row.id ≠ row'.id := by
  obtain ⟨i, call, -, hs⟩ | ⟨i, x, call, op, k, r, -, hs⟩ := Machine.step_cases h
  · have hstore : c.store = c'.store := Option.some.inj hs.accepted
    rw [← hstore] at hrow'
    exact Or.inl ⟨row', hrow', .refl _⟩
  · have hexec : c.store.execService op x = (r, c'.store) := hs.effect
    have hrows := @exec_row c.store op x row'
    rw [hexec] at hrows
    rcases hrows hrow' with ⟨row, hrow, hbecomes⟩ | hinserted
    · exact Or.inl ⟨row, hrow, hbecomes.continues (hc.threads i call _ hs.before).1⟩
    · right
      have hsound' := hsound.of_past hpast
      rw [hs.trace] at hsound'
      intro row hrow
      exact hsound'.fresh hinserted hrow

/-- What holds of the rows with an id that was recorded, and is continued, holds from then on. -/
theorem rows_run {Q : FirmwareRow → Prop} (hQ : ∀ row row', Continues row row' → Q row → Q row')
    {m t : Config} {ls : List Label} (hsound : Sound svc pub s₀ t.trace)
    (hm : CatalogueInvariant svc pub s₀ t.trace m) (h : run (step svc) m ls = some t)
    {recorded : FirmwareRow} (hrecorded : recorded ∈ recordedRows s₀ m.trace)
    (hrows : ∀ row ∈ m.store.versions.rows, row.id = recorded.id → Q row) :
    ∀ row ∈ t.store.versions.rows, row.id = recorded.id → Q row := by
  have hkept := run_invariant (I := fun n => n.trace <+: t.trace →
    CatalogueInvariant svc pub s₀ t.trace n ∧ recorded ∈ recordedRows s₀ n.trace ∧
      ∀ row ∈ n.store.versions.rows, row.id = recorded.id → Q row) ?_
    (fun _ => ⟨hm, hrecorded, hrows⟩) h List.prefix_rfl
  · exact hkept.2.2
  · intro n l n' hn hl hpast
    obtain ⟨hinvariant, hold, hall⟩ := hn ((Machine.step_trace hl).trans hpast)
    refine ⟨catalogueInvariant_step hinvariant hsound hl hpast,
      (recordedRows_past (Machine.step_trace hl)).subset hold, ?_⟩
    intro row' hrow' hid
    rcases row_step hinvariant hsound hl hpast hrow' with ⟨row, hrow, hcontinues⟩ | hfresh
    · refine hQ row row' hcontinues (hall row hrow ?_)
      rw [← hid]
      exact (FirmwareRow.id_eq hcontinues.identity).symm
    · exact absurd hid.symm (hfresh recorded hold)

/-- Two rows of the table with one id are one row. -/
theorem CatalogueInvariant.eq_of_id_eq (hc : CatalogueInvariant svc pub s₀ trace c)
    (hsound : Sound svc pub s₀ trace) (hpast : c.trace <+: trace) {row row' : FirmwareRow}
    (hrow : row ∈ c.store.versions.rows) (hrow' : row' ∈ c.store.versions.rows)
    (hid : row.id = row'.id) : row = row' := by
  obtain ⟨recorded, hrecorded, hidentity⟩ := (hc.known row hrow).of_past hpast
  obtain ⟨recorded', hrecorded', hidentity'⟩ := (hc.known row' hrow').of_past hpast
  have hsame : recorded = recorded' := by
    apply hsound.eq_of_id_eq hrecorded hrecorded'
    rw [← FirmwareRow.id_eq hidentity, hid, FirmwareRow.id_eq hidentity']
  have hversion : row.version = row'.version := by
    apply FirmwareRow.column_eq (fun row => row.version) (fun _ => rfl)
    rw [hidentity, hsame, hidentity']
  exact Table.eq_of_key_eq hrow hrow' hversion

/-- Between any two states of a run, a row keeps the columns its release has written and does not
lose its signature, and an id that has been recorded and is gone does not come back. -/
theorem catalogue_kept {m t : Config} {ls ls' : List Label}
    (hm : run (step svc) (start s₀) ls = some m) (ht : run (step svc) m ls' = some t)
    (hsound : Sound svc pub s₀ t.trace) :
    (∀ row ∈ m.store.versions.rows, ∀ row' ∈ t.store.versions.rows, row'.id = row.id →
      row'.identity = row.identity ∧ (row.isUnsigned = false → row'.isUnsigned = false)) ∧
      ∀ recorded ∈ recordedRows s₀ m.trace,
        (∀ row ∈ m.store.versions.rows, row.id ≠ recorded.id) →
          ∀ row ∈ t.store.versions.rows, row.id ≠ recorded.id := by
  have hpast : m.trace <+: t.trace := Machine.run_trace ht
  have hinvariant := catalogueInvariant_run hsound catalogueInvariant_start hm hpast
  constructor
  · intro row hrow row' hrow' hid
    obtain ⟨recorded, hrecorded, hidentity⟩ := hinvariant.known row hrow
    have hrecordedID : row.id = recorded.id := FirmwareRow.id_eq hidentity
    have hcontinues := rows_run (Q := Continues row) (fun _ _ h hrow => hrow.trans h) hsound
      hinvariant ht hrecorded ?_ row' hrow' (hid.trans hrecordedID)
    · exact ⟨hcontinues.identity, hcontinues.signed⟩
    · intro other hother hotherID
      obtain rfl := hinvariant.eq_of_id_eq hsound hpast hother hrow (hotherID.trans hrecordedID.symm)
      exact .refl _
  · intro recorded hrecorded hgone
    exact rows_run (Q := fun _ => False) (fun _ _ _ h => h) hsound hinvariant ht hrecorded hgone

end

/-! ## A service that finds an unsigned version -/

/-- A version that an older service has released without a signature, and its object. -/
def legacyRow : FirmwareRow where
  id := 7
  version := "0.9.0"
  storageKey := "firmware/0.9.0/robot.bin"
  sha256Checksum := checksum standardService [1, 2, 3, 4]
  fileSize := 4

/-- A table with a row without signature, and its object. -/
def legacyStore : ReleaseStore where
  versions := Table.single legacyRow
  objects := fun key => if key = legacyRow.storageKey then some [1, 2, 3, 4] else none

/-- Thread {lit}`i` executes its next operation. -/
def serveNext (i : Nat) (signature : Bytes) : Label :=
  .step i { uuid := i, signature, url := "http://minio/object" }

/-- While the old version is signed, a new one is released and deleted. -/
def signingWhileDeleting : List Label :=
  [.spawn 0 .resignAll, serveNext 0 oldSignature,
    .spawn 1 (.release (uploadOf "2.0.0" [5, 6, 7, 8]))] ++
    List.replicate 5 (serveNext 1 newSignature) ++
    [.spawn 2 (.delete 1), serveNext 2 [], serveNext 2 []] ++
    List.replicate 2 (serveNext 0 oldSignature) ++ List.replicate 2 (serveNext 2 [])

/-- Then the old version is deprecated, and its link is asked for. -/
def deprecating : List Label :=
  [.spawn 3 (.update 7 "do not use" "deprecated")] ++ List.replicate 3 (serveNext 3 []) ++
    [.spawn 4 (.getDownloadURL 7)] ++ List.replicate 3 (serveNext 4 [])

/-- A test for {lean}`Signs` on one operation of a run. -/
def signsByKey (e : Machine.Event ServiceOp.Ret) : Bool :=
  match e with
  | ⟨i, .release op, r⟩ => signedByKey ⟨i, op, r⟩
  | ⟨_, .resign (.signASN1 digest), r⟩ =>
      (r : Option Bytes).all fun sig => standardService.crypto.verifyASN1 signingKey digest sig
  | _ => true

theorem signsByKey_spec {e : Machine.Event ServiceOp.Ret} (h : signsByKey e = true) :
    Signs standardService signingKey e.op e.ret := by
  obtain ⟨i, op, r⟩ := e
  cases op with
  | release op => exact signedByKey_spec (e := ⟨i, op, r⟩) h
  | resign op =>
      cases op with
      | signASN1 digest =>
          intro sig hsig
          have hr : r = (some sig : Option Bytes) := hsig
          subst hr
          exact h
      | _ => trivial
  | _ => trivial

/-- A test for {lean}`Sound` on a run from the old version. -/
def soundTest (c : Config) : Bool :=
  c.trace.all signsByKey &&
    decide (((recordedRows legacyStore c.trace).map fun row => row.id).Nodup)

theorem sound_of_test {c : Config} (h : soundTest c = true) :
    Sound standardService signingKey legacyStore c.trace := by
  rw [soundTest, Bool.and_eq_true, List.all_eq_true, decide_eq_true_eq] at h
  exact ⟨rfl, rfl, standard_rejectsEmpty signingKey, fun e he => signsByKey_spec (h.1 e he), h.2⟩

/-- There is no signature in this table. -/
theorem legacyStore_genuine : Genuine standardService signingKey legacyStore := by
  intro row hrow text htext
  obtain rfl : row = legacyRow := List.mem_singleton.mp hrow
  cases htext

/-- {lit}`ResignAll` signs the row, and the signature verifies. -/
theorem signatures_verify_legacy :
    ∃ c row text, run (step standardService) (start legacyStore) signingWhileDeleting = some c ∧
      row ∈ c.store.versions.rows ∧ row.id = 7 ∧ row.ecdsaSignature = some text ∧
      BackendCrypto.verifySignature standardService.crypto signingKey row.sha256Checksum text =
        true := by
  have hend : endsWith (step standardService) (start legacyStore) signingWhileDeleting (fun c =>
      soundTest c && c.store.versions.rows.any fun row =>
        row.id = 7 && row.ecdsaSignature.any fun text => text ≠ "") = true := by
    decide +kernel
  obtain ⟨c, hrun, htest⟩ := endsWith_eq_true hend
  rw [Bool.and_eq_true, List.any_eq_true] at htest
  obtain ⟨hsound, row, hrow, hsigned⟩ := htest
  rw [Bool.and_eq_true, decide_eq_true_eq, Option.any_eq_true] at hsigned
  obtain ⟨hid, text, htext, hne⟩ := hsigned
  exact ⟨c, row, text, hrun, hrow, hid, htext,
    signatures_verify hrun (sound_of_test hsound) legacyStore_genuine row hrow text htext
      (by simpa using hne)⟩

/-- The row is signed and keeps everything else. -/
theorem catalogue_kept_legacy :
    ∃ m t row row', run (step standardService) (start legacyStore) signingWhileDeleting = some m ∧
      run (step standardService) m deprecating = some t ∧ row ∈ m.store.versions.rows ∧
      row' ∈ t.store.versions.rows ∧ row'.isActive = false ∧ row'.identity = row.identity ∧
      row'.isUnsigned = false ∧ ∀ row ∈ t.store.versions.rows, row.id ≠ 1 := by
  have hend : endsWith (step standardService) (start legacyStore) signingWhileDeleting (fun m =>
      endsWith (step standardService) m deprecating (fun t => soundTest t &&
        t.store.versions.rows.any fun row' => row'.id = 7 && !row'.isActive) &&
      (m.store.versions.rows.any fun row => row.id = 7 && !row.isUnsigned) &&
      (m.store.versions.rows.all fun row => row.id ≠ 1) &&
      (recordedRows legacyStore m.trace).any fun row => row.id = 1) = true := by
    decide +kernel
  obtain ⟨m, hm, htest⟩ := endsWith_eq_true hend
  simp only [Bool.and_eq_true, List.any_eq_true, List.all_eq_true, decide_eq_true_eq,
    Bool.not_eq_true'] at htest
  obtain ⟨⟨⟨hlater, row, hrow, hid, hsigned⟩, hgone⟩, recorded, hrecorded, hone⟩ := htest
  obtain ⟨t, ht, htest⟩ := endsWith_eq_true hlater
  simp only [Bool.and_eq_true, List.any_eq_true, decide_eq_true_eq, Bool.not_eq_true'] at htest
  obtain ⟨hsound, row', hrow', hid', hinactive⟩ := htest
  obtain ⟨hkept, habsent⟩ := catalogue_kept hm ht (sound_of_test hsound)
  obtain ⟨hidentity, hstays⟩ := hkept row hrow row' hrow' (hid'.trans hid.symm)
  refine ⟨m, t, row, row', hm, ht, hrow, hrow', hinactive, hidentity, hstays hsigned, ?_⟩
  intro other hother hotherID
  exact habsent recorded hrecorded (fun row hrow hrowID => hgone row hrow (hrowID.trans hone))
    other hother (hotherID.trans hone.symm)

end Service

end OtaRobot.Firmware
