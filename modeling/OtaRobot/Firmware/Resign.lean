import OtaRobot.Firmware.Metadata
import OtaRobot.Firmware.Signing

/-!
# Signing what is unsigned

{lit}`ResignAll` of {lit}`internal/firmware/service.go`.  It signs what the listing of the firmware
versions shows, which are the active ones, and counts what it has tried to write.

Main results:

- Theorem {lit}`resignLoop_signs`: what the loop over the listing leaves behind.
- Theorem {lit}`resignAll_complete`: when everything unsigned is signed and counted.
-/

namespace OtaRobot.Firmware

open Agent (Bytes PublicKey hexDecode)
open Prog

/-! ## Operations -/

/-- What {lit}`ResignAll` asks of the table and the signer. -/
inductive ResignOp where
  | listFirmwareVersions
  | signASN1 (digest : Bytes)
  | setSignature (id : FirmwareID) (ecdsaSignature : String)
deriving DecidableEq, Repr

/-- Answers: {lean}`none` and {lean}`false` are errors. -/
def ResignOp.Ret : ResignOp → Type
  | .listFirmwareVersions => Option (List FirmwareRow)
  | .signASN1 _ => Option Bytes
  | .setSignature _ _ => Bool

/-- {lit}`ResignAll`, as a program over these operations. -/
abbrev Resigning := Prog ResignOp.Ret

/-- One operation. -/
def Resigning.ask (op : ResignOp) : Resigning op.Ret :=
  perform op

/-- A row without a signature, or with the empty one. -/
def FirmwareRow.isUnsigned (fw : FirmwareRow) : Bool :=
  fw.ecdsaSignature = none || fw.ecdsaSignature = some ""

/-- {lit}`SignSHA256`. -/
def signChecksum (svc : ReleaseService) (sha256Hex : String) : Resigning (Option String) :=
  match hexDecode sha256Hex with
  | none => return none
  | some hashBytes => do
      let some sig ← Resigning.ask (.signASN1 hashBytes)
        | return none
      return some (svc.encodeBase64 sig)

/-- The loop over the listing.  The answer to the {lit}`UPDATE` is not looked at. -/
def resignLoop (svc : ReleaseService) : List FirmwareRow → Nat → Resigning Nat
  | [], signedCount => return signedCount
  | fw :: fws, signedCount =>
      if fw.isUnsigned then do
        match ← signChecksum svc fw.sha256Checksum with
        | none => resignLoop svc fws signedCount
        | some sigStr =>
            let _ ← Resigning.ask (.setSignature fw.id sigStr)
            resignLoop svc fws (signedCount + 1)
      else resignLoop svc fws signedCount

/-- {lit}`ResignAll`: the number of rows it has signed. -/
def resignAll (svc : ReleaseService) : Resigning (Except String Nat) :=
  if svc.privKey then do
    let some fws ← Resigning.ask .listFirmwareVersions
      | return .error "failed to list firmware versions"
    let signedCount ← resignLoop svc fws 0
    return .ok signedCount
  else return .error "private key not available for signing"

/-! ## The table -/

/-- The environment: which statements fail, and what the signer answers. -/
structure ResignFaults where
  list : Bool := false
  update : FirmwareID → Bool := fun _ => false
  signature : Nat → Bytes → Bytes

/-- The table, how often the signer was called, and how many {lit}`UPDATE`s have failed. -/
structure ResignState where
  table : FirmwareTable
  signatures : Nat := 0
  failures : Nat := 0

/-- The row with another signature. -/
def FirmwareRow.withSignature (fw : FirmwareRow) (ecdsaSignature : String) : FirmwareRow :=
  { fw with ecdsaSignature := some ecdsaSignature }

@[simp]
theorem FirmwareRow.id_withSignature (fw : FirmwareRow) (text : String) :
    (fw.withSignature text).id = fw.id :=
  rfl

/-- {lit}`UPDATE firmware_versions SET ecdsa_signature = $1 WHERE id = $2`. -/
def ResignState.setSignature (s : ResignState) (id : FirmwareID) (text : String) : ResignState :=
  let table := s.table.modify id (fun fw => fw.withSignature text)
    fun fw => fw.id_withSignature text
  { s with table }

/-- {lit}`ListFirmwareVersions`: the active versions, the newest first. -/
def listFirmwareVersions (t : FirmwareTable) : List FirmwareRow :=
  (t.rows.filter fun fw => fw.isActive).reverse

/-- One operation. -/
def execResign (faults : ResignFaults) (s : ResignState) : (op : ResignOp) → op.Ret × ResignState
  | .listFirmwareVersions => (if faults.list then none else some (listFirmwareVersions s.table), s)
  | .signASN1 digest =>
      (some (faults.signature s.signatures digest), { s with signatures := s.signatures + 1 })
  | .setSignature id text =>
      if faults.update id then (false, { s with failures := s.failures + 1 })
      else (true, s.setSignature id text)

/-- What a call on a table returns and leaves behind. -/
def resigned (svc : ReleaseService) (faults : ResignFaults) (t : FirmwareTable) :
    Except String Nat × ResignState :=
  (resignAll svc).run (execResign faults) { table := t }

/-! ## What the loop leaves behind -/

/-- The signature verifies for the checksum, and is one. -/
def Fits (svc : ReleaseService) (pub : PublicKey) (sha256Checksum text : String) : Prop :=
  text ≠ "" ∧ BackendCrypto.verifySignature svc.crypto pub sha256Checksum text = true

/-- The library is the standard one, and what is signed verifies under the public key. -/
structure SigningKey (svc : ReleaseService) (pub : PublicKey) (faults : ResignFaults) : Prop where
  encode : svc.encodeBase64 = Base64.encode
  decode : svc.crypto.decodeBase64 = Base64.decode
  accepts : ∀ n digest, svc.crypto.verifyASN1 pub digest (faults.signature n digest) = true
  rejectsEmpty : ∀ digest, svc.crypto.verifyASN1 pub digest [] = false

/-- The rows of the list that are unsigned are signed, but for those whose {lit}`UPDATE` fails. -/
structure Signs (svc : ReleaseService) (pub : PublicKey) (faults : ResignFaults)
    (fws : List FirmwareRow) (s s' : ResignState) : Prop where
  untouched : ∀ id, (∀ fw ∈ fws, fw.id = id → fw.isUnsigned = true → faults.update id = true) →
    s'.table.find? id = s.table.find? id
  signed : ∀ fw ∈ fws, fw.isUnsigned = true → faults.update fw.id = false →
    ∃ text, Fits svc pub fw.sha256Checksum text ∧
      s'.table.find? fw.id = (s.table.find? fw.id).map fun row => row.withSignature text
  failures : s'.failures =
    s.failures + fws.countP fun fw => fw.isUnsigned && faults.update fw.id

section

variable {svc : ReleaseService} {pub : PublicKey} {faults : ResignFaults}

/-- A checksum that is hexadecimal is signed. -/
theorem run_signChecksum (hkey : SigningKey svc pub faults) (s : ResignState) {sum : String}
    {digest : Bytes} (hsum : hexDecode sum = some digest) :
    ∃ text, Fits svc pub sum text ∧ (signChecksum svc sum).run (execResign faults) s =
      (some text, { s with signatures := s.signatures + 1 }) := by
  have hverify := hkey.accepts s.signatures digest
  refine ⟨svc.encodeBase64 (faults.signature s.signatures digest), ⟨?_, ?_⟩, ?_⟩
  · intro hempty
    rw [hkey.encode] at hempty
    rw [Base64.eq_nil_of_encode_eq_empty hempty, hkey.rejectsEmpty] at hverify
    cases hverify
  · unfold BackendCrypto.verifySignature
    rw [hsum, hkey.decode, hkey.encode, Base64.decode_encode]
    exact hverify
  · unfold signChecksum
    rw [hsum]
    rfl

/-- What a lookup sees after a signature was written. -/
theorem ResignState.find?_setSignature (s : ResignState) (id id' : FirmwareID) (text : String) :
    (s.setSignature id text).table.find? id' =
      if id' = id then (s.table.find? id').map fun row => row.withSignature text
      else s.table.find? id' :=
  Table.find?_modify s.table id id' _ fun fw => fw.id_withSignature text

/-- A row at the head of the list that the loop has no reason or no luck to sign. -/
theorem Signs.cons_skip {fw : FirmwareRow} {fws : List FirmwareRow} {s s₁ s' : ResignState}
    (hrest : Signs svc pub faults fws s₁ s') (htable : s₁.table = s.table)
    (hskip : fw.isUnsigned = true → faults.update fw.id = true)
    (hfailures : s₁.failures = s.failures + if fw.isUnsigned then 1 else 0) :
    Signs svc pub faults (fw :: fws) s s' where
  untouched := by
    intro id hid
    rw [← htable]
    exact hrest.untouched id fun fw' hfw' => hid fw' (List.mem_cons_of_mem fw hfw')
  signed := by
    intro fw' hfw' hunsigned hupdate
    rcases List.mem_cons.mp hfw' with rfl | hmem
    · rw [hskip hunsigned] at hupdate
      cases hupdate
    · rw [← htable]
      exact hrest.signed fw' hmem hunsigned hupdate
  failures := by
    rw [hrest.failures, hfailures, List.countP_cons]
    cases hunsigned : fw.isUnsigned with
    | false => simp
    | true =>
        simp only [hskip hunsigned, Bool.and_self, if_true]
        omega

/-- A row at the head of the list that is signed. -/
theorem Signs.cons_sign {fw : FirmwareRow} {fws : List FirmwareRow} {s s₁ s' : ResignState}
    {text : String} (hrest : Signs svc pub faults fws (s₁.setSignature fw.id text) s')
    (htable : s₁.table = s.table) (hfailures : s₁.failures = s.failures)
    (hfresh : ∀ fw' ∈ fws, fw'.id ≠ fw.id) (hfits : Fits svc pub fw.sha256Checksum text)
    (hunsigned : fw.isUnsigned = true) (hupdate : faults.update fw.id = false) :
    Signs svc pub faults (fw :: fws) s s' where
  untouched := by
    intro id hid
    have hne : id ≠ fw.id := by
      rintro rfl
      rw [hid fw List.mem_cons_self rfl hunsigned] at hupdate
      cases hupdate
    rw [hrest.untouched id fun fw' hfw' => hid fw' (List.mem_cons_of_mem fw hfw'),
      ResignState.find?_setSignature, if_neg hne, htable]
  signed := by
    intro fw' hfw' hunsigned' hupdate'
    rcases List.mem_cons.mp hfw' with rfl | hmem
    · refine ⟨text, hfits, ?_⟩
      rw [hrest.untouched fw'.id fun fw hfw hid => absurd hid (hfresh fw hfw),
        ResignState.find?_setSignature, if_pos rfl, htable]
    · obtain ⟨text', hfits', hfind⟩ := hrest.signed fw' hmem hunsigned' hupdate'
      refine ⟨text', hfits', ?_⟩
      rw [hfind, ResignState.find?_setSignature, if_neg (hfresh fw' hmem), htable]
  failures := by
    rw [hrest.failures, List.countP_cons, hupdate]
    simp [ResignState.setSignature, hfailures]

/-- The loop signs what it can, and counts what it has tried to. -/
theorem resignLoop_signs (hkey : SigningKey svc pub faults) {fws : List FirmwareRow}
    (hvalid : ∀ fw ∈ fws, ∃ digest, hexDecode fw.sha256Checksum = some digest)
    (hnodup : (fws.map fun fw => fw.id).Nodup) (signedCount : Nat) (s : ResignState) :
    ((resignLoop svc fws signedCount).run (execResign faults) s).1 =
        signedCount + fws.countP (fun fw => fw.isUnsigned) ∧
      Signs svc pub faults fws s ((resignLoop svc fws signedCount).run (execResign faults) s).2 := by
  induction fws generalizing signedCount s with
  | nil =>
      refine ⟨rfl, fun id _ => rfl, ?_, rfl⟩
      intro fw hfw
      cases hfw
  | cons fw fws ih =>
      rw [List.map_cons, List.nodup_cons] at hnodup
      have hfresh : ∀ fw' ∈ fws, fw'.id ≠ fw.id := fun fw' hfw' heq =>
        hnodup.1 (List.mem_map.mpr ⟨fw', hfw', heq⟩)
      have hrest := ih (fun fw' hfw' => hvalid fw' (List.mem_cons_of_mem fw hfw')) hnodup.2
      rw [resignLoop, List.countP_cons]
      cases hunsigned : fw.isUnsigned with
      | false =>
          obtain ⟨hcount, hsigns⟩ := hrest signedCount s
          refine ⟨hcount, hsigns.cons_skip rfl ?_ ?_⟩
          · intro h
            rw [hunsigned] at h
            cases h
          · rw [hunsigned]
            rfl
      | true =>
          obtain ⟨digest, hsum⟩ := hvalid fw List.mem_cons_self
          obtain ⟨text, hfits, hsign⟩ := run_signChecksum hkey s hsum
          obtain ⟨hcount, hsigns⟩ := hrest (signedCount + 1)
            (execResign faults { s with signatures := s.signatures + 1 }
              (.setSignature fw.id text)).2
          rw [if_pos rfl, run_bind, hsign]
          refine ⟨hcount.trans ?_, ?_⟩
          · rw [if_pos rfl]
            omega
          · show Signs svc pub faults (fw :: fws) s ((resignLoop svc fws (signedCount + 1)).run
              (execResign faults) (execResign faults { s with signatures := s.signatures + 1 }
                (.setSignature fw.id text)).2).2
            cases hupdate : faults.update fw.id with
            | true =>
                have hexec : (execResign faults { s with signatures := s.signatures + 1 }
                    (.setSignature fw.id text)).2 =
                      { s with signatures := s.signatures + 1, failures := s.failures + 1 } := by
                  rw [execResign, if_pos hupdate]
                rw [hexec] at hsigns ⊢
                refine hsigns.cons_skip (s := s) rfl (fun _ => hupdate) ?_
                rw [hunsigned]
                rfl
            | false =>
                have hexec : (execResign faults { s with signatures := s.signatures + 1 }
                    (.setSignature fw.id text)).2 =
                      ResignState.setSignature { s with signatures := s.signatures + 1 } fw.id text := by
                  rw [execResign, if_neg (by simp [hupdate])]
                rw [hexec] at hsigns ⊢
                exact hsigns.cons_sign (s := s) rfl rfl hfresh hfits hunsigned hupdate

/-! ## The whole call -/

/-- The list has the active rows. -/
theorem mem_listFirmwareVersions {t : FirmwareTable} {row : FirmwareRow} :
    row ∈ listFirmwareVersions t ↔ row ∈ t.rows ∧ row.isActive = true := by
  simp [listFirmwareVersions, List.mem_filter]

/-- Every row is listed once. -/
theorem nodup_listFirmwareVersions (t : FirmwareTable) :
    ((listFirmwareVersions t).map fun fw => fw.id).Nodup := by
  unfold listFirmwareVersions
  rw [List.map_reverse, List.nodup_reverse]
  exact (t.filter fun fw => fw.isActive).nodup

/-- Counting in the list is counting among the active rows. -/
theorem countP_listFirmwareVersions (t : FirmwareTable) (p : FirmwareRow → Bool) :
    (listFirmwareVersions t).countP p = t.rows.countP fun row => row.isActive && p row := by
  unfold listFirmwareVersions
  rw [List.countP_reverse, List.countP_filter]
  exact List.countP_congr fun row _ => by simp [and_comm]

/-- A count is that of the elements with another property and of those without it. -/
theorem countP_eq_add {ρ : Type} (l : List ρ) (p q : ρ → Bool) :
    l.countP p = l.countP (fun x => p x && !q x) + l.countP fun x => p x && q x := by
  induction l with
  | nil => rfl
  | cons x l ih =>
      simp only [List.countP_cons, ih]
      cases p x <;> cases q x <;> simp <;> omega

/-- A call that returns no error has run the loop over the active versions. -/
theorem resigned_ok (hkey : SigningKey svc pub faults) {t : FirmwareTable}
    (hvalid : ∀ row ∈ t.rows, ∃ digest, hexDecode row.sha256Checksum = some digest) {k : Nat}
    (h : (resigned svc faults t).1 = .ok k) :
    k = (t.rows.countP fun row => row.isActive && row.isUnsigned) ∧
      Signs svc pub faults (listFirmwareVersions t) { table := t } (resigned svc faults t).2 := by
  obtain ⟨hcount, hsigns⟩ := resignLoop_signs hkey
    (fun fw hfw => hvalid fw (mem_listFirmwareVersions.mp hfw).1) (nodup_listFirmwareVersions t) 0
    { table := t }
  cases hpriv : svc.privKey with
  | false => simp [resigned, resignAll, hpriv] at h
  | true =>
      unfold resigned resignAll at h ⊢
      simp only [hpriv, if_true, Resigning.ask, perform_bind] at h ⊢
      cases hlist : faults.list with
      | true =>
          have hanswer : (execResign faults { table := t } .listFirmwareVersions).1 =
              (none : Option (List FirmwareRow)) :=
            if_pos hlist
          rw [run_call_of_answer hanswer] at h
          cases h
      | false =>
          have hanswer : (execResign faults { table := t } .listFirmwareVersions).1 =
              some (listFirmwareVersions t) :=
            if_neg (by simp [hlist])
          rw [run_call_of_answer hanswer] at h ⊢
          simp only [run_bind] at h ⊢
          refine ⟨?_, hsigns⟩
          have hk : ((resignLoop svc (listFirmwareVersions t) 0).run (execResign faults)
              { table := t }).1 = k := Except.ok.inj h
          rw [← hk, hcount, countP_listFirmwareVersions, Nat.zero_add]

/-- What a call promises of a table and of the number it returns. -/
structure Resigned (svc : ReleaseService) (pub : PublicKey) (t : FirmwareTable) (k : Nat)
    (s : ResignState) : Prop where
  kept : ∀ row ∈ t.rows, row.isUnsigned = false → s.table.find? row.id = some row
  counted : k = t.rows.countP fun row =>
    row.isUnsigned && (s.table.find? row.id).any fun row' => !row'.isUnsigned
  verified : ∀ row ∈ t.rows, row.isUnsigned = true → ∀ row', s.table.find? row.id = some row' →
    row'.isUnsigned = false → BackendCrypto.verifySignature svc.crypto pub row'.sha256Checksum
      (Option.getD row'.ecdsaSignature "") = true
  complete : s.failures = 0 → ∀ id row, s.table.find? id = some row → row.isUnsigned = false

/-- The row after the call. -/
theorem find?_resigned {t : FirmwareTable} {s : ResignState}
    (hsigns : Signs svc pub faults (listFirmwareVersions t) { table := t } s) {row : FirmwareRow}
    (hrow : row ∈ t.rows) :
    (row.isActive = true ∧ row.isUnsigned = true ∧ faults.update row.id = false ∧
      ∃ text, Fits svc pub row.sha256Checksum text ∧
        s.table.find? row.id = some (row.withSignature text)) ∨
      (¬ (row.isActive = true ∧ row.isUnsigned = true ∧ faults.update row.id = false) ∧
        s.table.find? row.id = some row) := by
  have hfind : t.find? row.id = some row := Table.find?_some_iff.mpr ⟨hrow, rfl⟩
  by_cases hsigned : row.isActive = true ∧ row.isUnsigned = true ∧ faults.update row.id = false
  · obtain ⟨hactive, hunsigned, hupdate⟩ := hsigned
    obtain ⟨text, hfits, hafter⟩ :=
      hsigns.signed row (mem_listFirmwareVersions.mpr ⟨hrow, hactive⟩) hunsigned hupdate
    refine Or.inl ⟨hactive, hunsigned, hupdate, text, hfits, ?_⟩
    rw [hafter, hfind]
    rfl
  · refine Or.inr ⟨hsigned, ?_⟩
    rw [← hfind]
    apply hsigns.untouched
    intro fw hfw hid hunsigned
    obtain ⟨hmem, hactive⟩ := mem_listFirmwareVersions.mp hfw
    obtain rfl : fw = row := Table.eq_of_key_eq hmem hrow hid
    by_contra hupdate
    exact hsigned ⟨hactive, hunsigned, by simpa using hupdate⟩

/-- A row after the call was there before it. -/
theorem mem_of_find?_resigned {t : FirmwareTable} {s : ResignState}
    (hsigns : Signs svc pub faults (listFirmwareVersions t) { table := t } s) {id : FirmwareID}
    {row' : FirmwareRow} (h : s.table.find? id = some row') : ∃ row ∈ t.rows, row.id = id := by
  by_contra hnone
  have huntouched : s.table.find? id = t.find? id := by
    apply hsigns.untouched
    intro fw hfw hid
    exact absurd ⟨fw, (mem_listFirmwareVersions.mp hfw).1, hid⟩ hnone
  rw [h] at huntouched
  obtain ⟨hmem, hid⟩ := Table.find?_some_iff.mp huntouched.symm
  exact hnone ⟨row', hmem, hid⟩

/-- A row with a signature is not unsigned. -/
theorem FirmwareRow.isUnsigned_withSignature (fw : FirmwareRow) {text : String} (h : text ≠ "") :
    (fw.withSignature text).isUnsigned = false := by
  simp [FirmwareRow.isUnsigned, FirmwareRow.withSignature, h]

/-- The rows that went from unsigned to signed are the listed ones whose statement did not fail. -/
theorem countP_resigned {t : FirmwareTable} {s : ResignState}
    (hsigns : Signs svc pub faults (listFirmwareVersions t) { table := t } s) :
    (t.rows.countP fun row =>
        row.isUnsigned && (s.table.find? row.id).any fun row' => !row'.isUnsigned) =
      t.rows.countP fun row => row.isActive && row.isUnsigned && !faults.update row.id := by
  apply List.countP_congr
  intro row hrow
  rcases find?_resigned hsigns hrow with
    ⟨hactive, hunsigned, hupdate, text, hfits, hafter⟩ | ⟨hnot, hafter⟩
  · rw [hafter, hactive, hunsigned, hupdate]
    simp [row.isUnsigned_withSignature hfits.1]
  · rw [hafter]
    cases hunsigned : row.isUnsigned with
    | false => simp
    | true => simp_all

/-- The statements that failed are those for listed rows. -/
theorem failures_resigned {t : FirmwareTable} {s : ResignState}
    (hsigns : Signs svc pub faults (listFirmwareVersions t) { table := t } s) :
    s.failures =
      t.rows.countP fun row => row.isActive && row.isUnsigned && faults.update row.id := by
  rw [hsigns.failures, countP_listFirmwareVersions, Nat.zero_add]
  simp only [Bool.and_assoc]

/-- A call that returns without an error has signed and counted everything unsigned, and nothing
else, exactly when every unsigned version is active and no {lit}`UPDATE` of one fails. -/
theorem resignAll_complete (svc : ReleaseService) (pub : PublicKey) (faults : ResignFaults)
    (t : FirmwareTable) (hkey : SigningKey svc pub faults)
    (hvalid : ∀ row ∈ t.rows, ∃ digest, hexDecode row.sha256Checksum = some digest) (k : Nat)
    (h : (resigned svc faults t).1 = .ok k) :
    Resigned svc pub t k (resigned svc faults t).2 ↔
      ∀ row ∈ t.rows, row.isUnsigned = true →
        row.isActive = true ∧ faults.update row.id = false := by
  obtain ⟨hk, hsigns⟩ := resigned_ok hkey hvalid h
  constructor
  · intro hresigned row hrow hunsigned
    have hfailures : (resigned svc faults t).2.failures = 0 := by
      have hcounted := hresigned.counted
      rw [countP_resigned hsigns, hk, countP_eq_add _ _ fun row => faults.update row.id] at hcounted
      rw [failures_resigned hsigns]
      omega
    rcases find?_resigned hsigns hrow with ⟨hactive, -, hupdate, -⟩ | ⟨-, hafter⟩
    · exact ⟨hactive, hupdate⟩
    · rw [hresigned.complete hfailures row.id row hafter] at hunsigned
      cases hunsigned
  · intro hall
    refine ⟨?_, ?_, ?_, ?_⟩
    · intro row hrow hsigned
      rcases find?_resigned hsigns hrow with ⟨-, hunsigned, -⟩ | ⟨-, hafter⟩
      · rw [hsigned] at hunsigned
        cases hunsigned
      · exact hafter
    · rw [countP_resigned hsigns, hk]
      apply List.countP_congr
      intro row hrow
      cases hunsigned : row.isUnsigned with
      | false => simp
      | true => simp [hall row hrow hunsigned]
    · intro row hrow hunsigned row' hrow' _
      obtain ⟨hactive, hupdate⟩ := hall row hrow hunsigned
      rcases find?_resigned hsigns hrow with ⟨-, -, -, text, hfits, hafter⟩ | ⟨hnot, -⟩
      · obtain rfl := Option.some.inj (hafter.symm.trans hrow')
        exact hfits.2
      · exact absurd ⟨hactive, hunsigned, hupdate⟩ hnot
    · rintro - id row' hrow'
      obtain ⟨row, hrow, rfl⟩ := mem_of_find?_resigned hsigns hrow'
      rcases find?_resigned hsigns hrow with ⟨-, -, -, text, hfits, hafter⟩ | ⟨hnot, hafter⟩
      · obtain rfl := Option.some.inj (hafter.symm.trans hrow')
        exact row.isUnsigned_withSignature hfits.1
      · obtain rfl := Option.some.inj (hafter.symm.trans hrow')
        by_contra hunsigned
        have hunsigned' : row.isUnsigned = true := by simpa using hunsigned
        obtain ⟨hactive, hupdate⟩ := hall row hrow hunsigned'
        exact hnot ⟨hactive, hunsigned', hupdate⟩

end

/-! ## Two tables -/

/-- A service whose signatures repeat the digest. -/
def repeatingService : ReleaseService where
  crypto :=
    { sum256 := id
      decodeBase64 := Base64.decode
      verifyASN1 := fun _ digest sig => decide (sig = 1 :: digest) }
  encodeBase64 := Base64.encode

/-- A signer that repeats the digest. -/
def repeatingSigner : ResignFaults where
  signature := fun _ digest => 1 :: digest

theorem repeatingSigner_key (pub : PublicKey) :
    SigningKey repeatingService pub repeatingSigner where
  encode := rfl
  decode := rfl
  accepts := fun _ _ => decide_eq_true rfl
  rejectsEmpty := fun _ => rfl

/-- A row without a signature. -/
def unsignedRow : FirmwareRow where
  id := 0
  version := "1.0.0"
  storageKey := "firmware/1.0.0/a.bin"
  sha256Checksum := "0a"
  fileSize := 4

/-- The checksum of the row decodes. -/
theorem unsignedRow_checksum : hexDecode unsignedRow.sha256Checksum = some [10] := by
  decide +kernel

/-- The only version is signed. -/
theorem resignAll_complete_unsigned :
    Resigned repeatingService signingKey (Table.single unsignedRow) 1
      (resigned repeatingService repeatingSigner (Table.single unsignedRow)).2 := by
  apply (resignAll_complete repeatingService signingKey repeatingSigner (Table.single unsignedRow)
    (repeatingSigner_key signingKey) ?_ 1 (by rfl)).mpr
  · intro row hrow _
    obtain rfl := List.mem_singleton.mp hrow
    exact ⟨rfl, rfl⟩
  · intro row hrow
    obtain rfl := List.mem_singleton.mp hrow
    exact ⟨_, unsignedRow_checksum⟩

/-- A deprecated version stays unsigned, without an error. -/
theorem resignAll_incomplete :
    ¬ ∀ (svc : ReleaseService) (pub : PublicKey) (faults : ResignFaults) (t : FirmwareTable),
      SigningKey svc pub faults →
        (∀ row ∈ t.rows, ∃ digest, hexDecode row.sha256Checksum = some digest) →
          ∀ k, (resigned svc faults t).1 = .ok k →
            Resigned svc pub t k (resigned svc faults t).2 := by
  intro h
  have hvalid : ∀ row ∈ (Table.single { unsignedRow with isActive := false } : FirmwareTable).rows,
      ∃ digest, hexDecode row.sha256Checksum = some digest := by
    intro row hrow
    obtain rfl := List.mem_singleton.mp hrow
    exact ⟨_, unsignedRow_checksum⟩
  have hresigned := h repeatingService signingKey repeatingSigner _ (repeatingSigner_key signingKey) hvalid 0 rfl
  have hsigned := hresigned.complete rfl 0 { unsignedRow with isActive := false } rfl
  cases hsigned

end OtaRobot.Firmware
