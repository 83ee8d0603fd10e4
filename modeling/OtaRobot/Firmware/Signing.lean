import OtaRobot.Firmware.Authenticity
import OtaRobot.Library.Base64

/-!
# Signatures from the release to the robot

{lit}`Release` hashes an image, writes the digest in hexadecimal digits, signs the bytes it reads
back from them and writes the signature in base64.  Both texts are stored, sent in an update
command, and read by functions of another program: {lit}`internal/crypto/ecdsa.go` of the
backend, {lit}`internal/crypto/verify.go` and {lit}`main.go` of the agent.

Main results:

- Theorem {lit}`recorded_signed`: what the texts of a recorded release stand for.
- Theorem {lit}`validity_agrees`: the four verifiers agree.
- Theorem {lit}`sign_verify_agree`: what was released verifies, and nothing else.
-/

namespace OtaRobot

open Agent (Bytes Crypto PublicKey hexDecode hexEncode)

namespace BackendCrypto

/-- {lit}`VerifySignature` of the backend. -/
def verifySignature (crypto : Crypto) (pub : PublicKey) (sha256Hex signatureB64 : String) : Bool :=
  match hexDecode sha256Hex with
  | none => false
  | some hashBytes =>
      match crypto.decodeBase64 signatureB64 with
      | none => false
      | some sigBytes => crypto.verifyASN1 pub hashBytes sigBytes

end BackendCrypto

namespace AgentCrypto

/-- {lit}`VerificationResult`. -/
structure VerificationResult where
  valid : Bool
  overheadMs : Nat
  detectionStage : String
deriving DecidableEq, Repr

/-- The result of a verification that took {lit}`overheadMs`. -/
def verified (valid : Bool) (overheadMs : Nat) : VerificationResult where
  valid := valid
  overheadMs := overheadMs
  detectionStage := if valid then "ok" else "key_forgery"

/-- {lit}`VerifySignature` of the agent; {lit}`elapsedMs` is what the clock answers. -/
def verifySignature (crypto : Crypto) (elapsedMs : Nat) (pub : Option PublicKey) (data : Bytes)
    (signatureB64 : String) : VerificationResult :=
  match pub with
  | none => ⟨false, 0, "missing_public_key"⟩
  | some pub =>
      if signatureB64 = "" then ⟨false, 0, "missing_signature"⟩
      else
        let hash := crypto.sum256 data
        match crypto.decodeBase64 signatureB64 with
        | none => ⟨false, elapsedMs, "invalid_signature_encoding"⟩
        | some sigBytes => verified (crypto.verifyASN1 pub hash sigBytes) elapsedMs

/-- {lit}`VerifySignatureFromHex`. -/
def verifySignatureFromHex (crypto : Crypto) (elapsedMs : Nat) (pub : Option PublicKey)
    (sha256Hex signatureB64 : String) : VerificationResult :=
  match pub with
  | none => ⟨false, 0, "missing_public_key"⟩
  | some pub =>
      if signatureB64 = "" then ⟨false, 0, "missing_signature"⟩
      else
        match hexDecode sha256Hex with
        | none => ⟨false, elapsedMs, "invalid_hash_hex"⟩
        | some hashBytes =>
            match crypto.decodeBase64 signatureB64 with
            | none => ⟨false, elapsedMs, "invalid_signature_encoding"⟩
            | some sigBytes => verified (crypto.verifyASN1 pub hashBytes sigBytes) elapsedMs

end AgentCrypto

/-! ## Agreement of the verifiers -/

section

variable {crypto : Crypto} (hdecode : crypto.decodeBase64 = Base64.decode)
  (hempty : ∀ pub digest, crypto.verifyASN1 pub digest [] = false)
  (pub : PublicKey) (data : Bytes) (signatureB64 : String) (elapsedMs : Nat)

/-- What all verifiers compute for a digest that is there. -/
theorem verifyECDSASignature_hexEncode :
    Agent.verifyECDSASignature crypto pub (hexEncode data) signatureB64 =
      (crypto.decodeBase64 signatureB64).any fun sig => crypto.verifyASN1 pub data sig := by
  unfold Agent.verifyECDSASignature
  rw [Agent.hexDecode_hexEncode]
  dsimp only
  cases crypto.decodeBase64 signatureB64 with
  | none => rfl
  | some sig => rfl

/-- The backend verifies as the agent does. -/
theorem backend_agrees (sha256Hex : String) :
    BackendCrypto.verifySignature crypto pub sha256Hex signatureB64 =
      Agent.verifyECDSASignature crypto pub sha256Hex signatureB64 :=
  rfl

include hdecode hempty

/-- The empty text is the empty signature, so an early exit for it changes nothing. -/
theorem empty_rejected (digest : Bytes) :
    ((crypto.decodeBase64 "").any fun sig => crypto.verifyASN1 pub digest sig) = false := by
  have hnil : Base64.decode "" = some [] := Base64.decode_encode []
  rw [hdecode, hnil]
  exact hempty pub digest

/-- The agent's other function for digests verifies alike. -/
theorem fromHex_agrees :
    (AgentCrypto.verifySignatureFromHex crypto elapsedMs (some pub) (hexEncode data)
      signatureB64).valid = Agent.verifyECDSASignature crypto pub (hexEncode data) signatureB64 := by
  rw [verifyECDSASignature_hexEncode]
  unfold AgentCrypto.verifySignatureFromHex
  dsimp only
  split
  · rename_i hsig
    rw [hsig, empty_rejected hdecode hempty]
  · rw [Agent.hexDecode_hexEncode]
    dsimp only
    cases crypto.decodeBase64 signatureB64 with
    | none => rfl
    | some sig => rfl

/-- The agent's function for images verifies alike. -/
theorem fromData_agrees :
    (AgentCrypto.verifySignature crypto elapsedMs (some pub) data signatureB64).valid =
      Agent.verifyECDSASignature crypto pub (hexEncode (crypto.sum256 data)) signatureB64 := by
  rw [verifyECDSASignature_hexEncode]
  unfold AgentCrypto.verifySignature
  dsimp only
  split
  · rename_i hsig
    rw [hsig, empty_rejected hdecode hempty]
  · cases crypto.decodeBase64 signatureB64 with
    | none => rfl
    | some sig => rfl

end

/-! ## What a release records -/

namespace Firmware

open Prog Transition

/-- The answers of a signer whose signatures verify under the public key. -/
def SignedBy (svc : ReleaseService) (pub : PublicKey) : (op : ReleaseOp) → op.Ret → Prop
  | .signASN1 digest, r =>
      ∀ sig, (r : Option Bytes) = some sig → svc.crypto.verifyASN1 pub digest sig = true
  | _, _ => True

/-- Checksum and signature text belong to the bytes. -/
structure SignedText (svc : ReleaseService) (pub : PublicKey) (data : Bytes)
    (sha256Checksum : String) (ecdsaSignature : Option String) : Prop where
  checksum : sha256Checksum = checksum svc data
  signature : ∃ sig, ecdsaSignature = textOf (svc.encodeBase64 sig) ∧
    svc.crypto.verifyASN1 pub (svc.crypto.sum256 data) sig = true

/-- A release records its version and the texts of its image. -/
def ReleaseOp.Records (svc : ReleaseService) (pub : PublicKey) (params : ReleaseParams) :
    ReleaseOp → Prop
  | .createFirmwareVersion q =>
      q.version = trimSpace params.version ∧
        SignedText svc pub params.data q.sha256Checksum q.ecdsaSignature
  | _ => True

section

variable {svc : ReleaseService} {pub : PublicKey}

theorem finish_records (params : ReleaseParams) (result : Except String FirmwareRow) :
    Always (SignedBy svc pub) (ReleaseOp.Records svc pub params) (finish result) :=
  ⟨trivial, fun _ _ => trivial⟩

/-- The signature that is recorded is the one of the image. -/
theorem storeFirmware_records (params : ReleaseParams) {sig : Bytes}
    (hsig : svc.crypto.verifyASN1 pub (svc.crypto.sum256 params.data) sig = true) :
    Always (SignedBy svc pub) (ReleaseOp.Records svc pub params)
      (storeFirmware svc params (svc.encodeBase64 sig)) := by
  refine ⟨trivial, fun (uploaded : Bool) _ => ?_⟩
  cases uploaded with
  | false => exact finish_records _ _
  | true =>
      refine ⟨⟨rfl, rfl, sig, rfl, hsig⟩, fun (r : Option FirmwareRow) _ => ?_⟩
      cases r with
      | some fw => exact finish_records _ _
      | none => exact ⟨trivial, fun _ _ => finish_records _ _⟩

/-- The signer is asked for the digest, since the digits read back as its bytes. -/
theorem signFirmware_records (params : ReleaseParams) :
    Always (SignedBy svc pub) (ReleaseOp.Records svc pub params) (signFirmware svc params) := by
  unfold signFirmware
  split
  · unfold signSHA256 checksum
    rw [Agent.hexDecode_hexEncode]
    refine ⟨trivial, fun (r : Option Bytes) hsigned => ?_⟩
    cases r with
    | none => exact finish_records _ _
    | some sig => exact storeFirmware_records params (hsigned sig rfl)
  · exact finish_records _ _

/-- A release records the signature of its image. -/
theorem release_records (params : ReleaseParams) :
    Always (SignedBy svc pub) (ReleaseOp.Records svc pub params) (release svc params) := by
  unfold release
  split
  · exact finish_records _ _
  · split
    · exact finish_records _ _
    · refine ⟨trivial, fun (r : Option FirmwareRow) _ => ?_⟩
      cases r with
      | some fw => exact finish_records _ _
      | none => exact signFirmware_records _

/-- The signatures of the run were made with the private key of {lit}`pub`, and an empty one is
never accepted. -/
structure KeyPair (svc : ReleaseService) (pub : PublicKey) (rc : Releases.Config) : Prop where
  accepts : ∀ e ∈ rc.trace, SignedBy svc pub e.op e.ret
  rejectsEmpty : ∀ key digest, svc.crypto.verifyASN1 key digest [] = false

/-- Service and agent call one library, whose base64 is the standard one. -/
structure StandardLibrary (svc : ReleaseService) (p : Agent.Process) : Prop where
  same : p.crypto = svc.crypto
  decode : svc.crypto.decodeBase64 = Base64.decode
  encode : svc.encodeBase64 = Base64.encode

variable {rls : List Releases.Label} {rc : Releases.Config}

/-- The texts of a recorded release are those of its image. -/
theorem recorded_signed (h : run (Releases.step svc) Releases.start rls = some rc)
    (hkeys : KeyPair svc pub rc) {row : FirmwareRow} (hrow : row ∈ rc.store.versions.rows) :
    ∃ i params q, rc.thread i = some (params, q) ∧ trimSpace params.version = row.version ∧
      SignedText svc pub params.data row.sha256Checksum row.ecdsaSignature := by
  obtain ⟨e, he, q, uuid, hop, rfl⟩ := row_recorded h row hrow
  have hbody : ∀ params, Always (SignedBy svc pub) (ReleaseOp.Records svc pub params)
      ((releaseMachine svc).body params) := by
    rw [releaseMachine_body]
    exact @release_records svc pub
  obtain ⟨params, p, hthread, hrecords⟩ :=
    Machine.run_allOps_of_answers hbody h hkeys.accepts e he
  rw [hop] at hrecords
  exact ⟨e.thread, params, p, hthread, hrecords.1.symm, hrecords.2⟩

/-! ## From the record to the robot -/

/-- An update command carries the texts of the record; a missing signature is sent as the empty
text. -/
structure Carries (cmd : Agent.Command) (row : FirmwareRow) : Prop where
  checksum : cmd.sha256Checksum = row.sha256Checksum
  signature : cmd.signature = Option.getD row.ecdsaSignature ""

/-- A signature that verifies is not empty, so its text is stored. -/
theorem SignedText.getD_signature {data : Bytes} {sum : String} {text : Option String}
    (hencode : svc.encodeBase64 = Base64.encode)
    (hempty : ∀ key digest, svc.crypto.verifyASN1 key digest [] = false)
    (h : SignedText svc pub data sum text) :
    ∃ sig, Option.getD text "" = Base64.encode sig ∧ Base64.encode sig ≠ "" ∧
      svc.crypto.verifyASN1 pub (svc.crypto.sum256 data) sig = true := by
  obtain ⟨sig, htext, hverify⟩ := h.signature
  have hne : Base64.encode sig ≠ "" := by
    intro hnone
    rw [Base64.eq_nil_of_encode_eq_empty hnone, hempty] at hverify
    cases hverify
  refine ⟨sig, ?_, hne, hverify⟩
  rw [htext, hencode, textOf, if_neg hne]
  rfl

/-- Two digests written in digits are compared as the digests. -/
theorem hexEncode_inj {digest digest' : Bytes} :
    hexEncode digest = hexEncode digest' ↔ digest = digest' := by
  constructor
  · intro h
    have hdecode := congrArg hexDecode h
    rw [Agent.hexDecode_hexEncode, Agent.hexDecode_hexEncode] at hdecode
    exact Option.some.inj hdecode
  · intro h
    rw [h]

/-- The signature of a row verifies for the image of the row. -/
theorem SignedText.verified {p : Agent.Process} {data : Bytes} {row : FirmwareRow}
    {cmd : Agent.Command} (hlib : StandardLibrary svc p) (hpub : p.ecdsaPubKey = some pub)
    (hempty : ∀ key digest, svc.crypto.verifyASN1 key digest [] = false)
    (h : SignedText svc pub data row.sha256Checksum row.ecdsaSignature) (hcmd : Carries cmd row) :
    cmd.signature ≠ "" ∧ Agent.Verified p cmd data := by
  obtain ⟨sig, htext, hne, hverify⟩ := h.getD_signature hlib.encode hempty
  have hsignature : cmd.signature = Base64.encode sig := hcmd.signature.trans htext
  refine ⟨hsignature ▸ hne, ?_, pub, hpub, ?_⟩
  · rw [hcmd.checksum, h.checksum, hlib.same, Firmware.checksum]
  · rw [verifyECDSASignature_hexEncode, hsignature, hlib.same, hlib.decode, Base64.decode_encode]
    exact hverify

/-- What {lit}`Release` records, carried unchanged in an update command, makes the agent accept
the released bytes, and reject at the checksum all bytes that do not collide with them.  The
verifiers of both programs agree on every key, all data and every signature text. -/
theorem sign_verify_agree {p : Agent.Process}
    (h : run (Releases.step svc) Releases.start rls = some rc) (hkeys : KeyPair svc pub rc)
    (hlib : StandardLibrary svc p) (hpub : p.ecdsaPubKey = some pub) :
    (∀ row ∈ rc.store.versions.rows, ∃ i params q, rc.thread i = some (params, q) ∧
      trimSpace params.version = row.version ∧ ∀ cmd, Carries cmd row →
        cmd.signature ≠ "" ∧ Agent.Verified p cmd params.data ∧
          ∀ data, (svc.crypto.sum256 data = svc.crypto.sum256 params.data → data = params.data) →
            (hexEncode (p.crypto.sum256 data) = cmd.sha256Checksum ↔ data = params.data)) ∧
      ∀ (key : PublicKey) (data : Bytes) (signatureB64 : String) (elapsedMs elapsedMs' : Nat),
        let hex := hexEncode (p.crypto.sum256 data)
        let valid := Agent.verifyECDSASignature p.crypto key hex signatureB64
        BackendCrypto.verifySignature p.crypto key hex signatureB64 = valid ∧
          (AgentCrypto.verifySignatureFromHex p.crypto elapsedMs (some key) hex
            signatureB64).valid = valid ∧
            (AgentCrypto.verifySignature p.crypto elapsedMs' (some key) data
              signatureB64).valid = valid := by
  have hdecode : p.crypto.decodeBase64 = Base64.decode := hlib.same ▸ hlib.decode
  have hempty : ∀ key digest, p.crypto.verifyASN1 key digest [] = false :=
    hlib.same ▸ hkeys.rejectsEmpty
  constructor
  · intro row hrow
    obtain ⟨i, params, q, hthread, hversion, hsigned⟩ := recorded_signed h hkeys hrow
    refine ⟨i, params, q, hthread, hversion, ?_⟩
    intro cmd hcmd
    obtain ⟨hne, hverified⟩ := hsigned.verified hlib hpub hkeys.rejectsEmpty hcmd
    refine ⟨hne, hverified, ?_⟩
    intro data hcollision
    rw [← hverified.checksum, hexEncode_inj, hlib.same]
    constructor
    · exact hcollision
    · intro hsame
      rw [hsame]
  · intro key data signatureB64 elapsedMs elapsedMs'
    exact ⟨backend_agrees key signatureB64 _,
      fromHex_agrees hdecode hempty key _ signatureB64 elapsedMs,
      fromData_agrees hdecode hempty key data signatureB64 elapsedMs'⟩

end

/-! ## A release and a robot -/

/-- The service of the two images, with the base64 of the library. -/
def standardService : ReleaseService where
  crypto := { signingService.crypto with decodeBase64 := Base64.decode }
  encodeBase64 := Base64.encode

/-- A robot with the key. -/
def standardProcess : Agent.Process where
  deviceID := "r1"
  ecdsaPubKey := some signingKey
  crypto := standardService.crypto

/-- An update command for a record. -/
def updateFor (row : FirmwareRow) : Agent.Command where
  action := "update"
  version := row.version
  sha256Checksum := row.sha256Checksum
  signature := Option.getD row.ecdsaSignature ""

/-- A test for {lean}`SignedBy` on one operation of a run. -/
def signedByKey (e : Machine.Event ReleaseOp.Ret) : Bool :=
  match e with
  | ⟨_, .signASN1 digest, r⟩ =>
      (r : Option Bytes).all fun sig => standardService.crypto.verifyASN1 signingKey digest sig
  | _ => true

theorem signedByKey_spec {e : Machine.Event ReleaseOp.Ret} (h : signedByKey e = true) :
    SignedBy standardService signingKey e.op e.ret := by
  obtain ⟨i, op, r⟩ := e
  cases op with
  | signASN1 digest =>
      intro sig hsig
      have hr : r = (some sig : Option Bytes) := hsig
      subst hr
      exact h
  | _ => trivial

theorem standard_rejectsEmpty (key : PublicKey) (digest : Bytes) :
    standardService.crypto.verifyASN1 key digest [] = false := by
  simp [standardService, signingService, oldSignature, newSignature]

/-- The old image, released as 1.0.0, is accepted by the robot. -/
theorem sign_verify_agree_of_releases :
    ∃ rc row, run (Releases.step standardService) Releases.start twoReleases = some rc ∧
      row ∈ rc.store.versions.rows ∧ row.version = "1.0.0" ∧
      ∃ data, Agent.Verified standardProcess (updateFor row) data ∧
        ∀ data', data' ≠ data →
          hexEncode (standardProcess.crypto.sum256 data') ≠ (updateFor row).sha256Checksum := by
  have hend : endsWith (Releases.step standardService) Releases.start twoReleases (fun rc =>
      rc.trace.all signedByKey && (rc.store.versions.find? "1.0.0").isSome) = true := by
    decide +kernel
  obtain ⟨rc, hrun, htest⟩ := endsWith_eq_true hend
  simp only [Bool.and_eq_true, List.all_eq_true, Option.isSome_iff_exists] at htest
  obtain ⟨hsigned, row, hfind⟩ := htest
  obtain ⟨hrow, hversion⟩ := Table.find?_some_iff.mp hfind
  have hkeys : KeyPair standardService signingKey rc :=
    ⟨fun e he => signedByKey_spec (hsigned e he), standard_rejectsEmpty⟩
  obtain ⟨-, params, -, -, -, hcmd⟩ :=
    (sign_verify_agree hrun hkeys (p := standardProcess) ⟨rfl, rfl, rfl⟩ rfl).1 row hrow
  obtain ⟨-, hverified, hother⟩ := hcmd (updateFor row) ⟨rfl, rfl⟩
  refine ⟨rc, row, hrun, hrow, hversion, params.data, hverified, ?_⟩
  intro data' hne hsame
  exact hne ((hother data' fun hsum => sumOf_injective hsum).mp hsame)

end Firmware

end OtaRobot
