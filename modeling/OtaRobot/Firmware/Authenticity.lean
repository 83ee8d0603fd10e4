import OtaRobot.Agent.Verification
import OtaRobot.Firmware.Published

/-!
# Which images an agent installs

A release signs the digest of its image, and nothing else.  An agent is sent commands and answers
to its downloads by anyone: it accepts an image whose digest was signed, and takes the version
from the command.  So what it installs is always the image of some release, and it is the image
of the version it switches to exactly for the commands that carry the version and the checksum of
one release.

Main results:

- Theorem {lit}`release_signs`: what a release signs and records.
- Theorem {lit}`recorded_genuine`: the rows of the release service are genuine.
- Theorem {lit}`installed_iff_genuine`: when an installed image is one of its version.
- Theorem {lit}`installed_not_released`: an old image is installed under a new version.
-/

namespace OtaRobot.Firmware

open Agent (Bytes Command PublicKey)
open Prog Transition

/-! ## Releases and commands -/

/-- {lit}`Release` was called for this version and these bytes.  It trims the version. -/
def Released (rc : Releases.Config) (version : String) (data : Bytes) : Prop :=
  ∃ i params q, rc.thread i = some (params, q) ∧ trimSpace params.version = version ∧
    params.data = data

/-- Version and checksum belong to one release. -/
def Genuine (svc : ReleaseService) (rc : Releases.Config) (version sha256Checksum : String) :
    Prop :=
  ∃ data, Released rc version data ∧ checksum svc data = sha256Checksum

/-- The digest was signed by the release service. -/
def Signed (rc : Releases.Config) (digest : Bytes) : Prop :=
  ∃ e ∈ rc.trace, e.op = .signASN1 digest

/-- The images that are released or downloaded. -/
inductive Hashed (rc : Releases.Config) (c : Agent.Config) : Bytes → Prop where
  | released {i : Nat} {params : ReleaseParams} {q : Releasing Unit}
      (h : rc.thread i = some (params, q)) : Hashed rc c params.data
  | downloaded {i : Nat} {data : Bytes} (h : some data ∈ Agent.downloads i c) : Hashed rc c data

/-- Service and agent call one library; the agent's public key belongs to the signing key, whose
signatures are not forged; no two images have one digest. -/
structure Trusted (svc : ReleaseService) (rc : Releases.Config) (p : Agent.Process)
    (c : Agent.Config) : Prop where
  library : p.crypto = svc.crypto
  unforgeable : ∀ pub digest sig, p.ecdsaPubKey = some pub →
    svc.crypto.verifyASN1 pub digest sig = true → Signed rc digest
  collisionFree : ∀ data data', Hashed rc c data → Hashed rc c data' →
    svc.crypto.sum256 data = svc.crypto.sum256 data' → data = data'

/-- Goroutine {lit}`i` handles an update, and has switched to {lit}`version`. -/
structure Installed (c : Agent.Config) (i : Nat) (cmd : Command) (version : String) : Prop where
  handles : ∃ q, c.thread i = some (.command cmd, q)
  update : cmd.action = "update"
  switched : ∃ e ∈ c.trace, e.thread = i ∧ e.op = .setCurrentVersion version

/-! ## What a release signs and records -/

/-- A release signs the digest of its image, and records it with its version. -/
def ReleaseOp.Concerns (svc : ReleaseService) (params : ReleaseParams) : ReleaseOp → Prop
  | .signASN1 digest => digest = svc.crypto.sum256 params.data
  | .createFirmwareVersion q =>
      q.version = trimSpace params.version ∧ q.sha256Checksum = checksum svc params.data
  | _ => True

section

variable {svc : ReleaseService}

theorem finish_signs (params : ReleaseParams) (result : Except String FirmwareRow) :
    Always (fun _ _ => True) (ReleaseOp.Concerns svc params) (finish result) :=
  ⟨trivial, fun _ _ => trivial⟩

theorem storeFirmware_signs (params : ReleaseParams) (sigStr : String) :
    Always (fun _ _ => True) (ReleaseOp.Concerns svc params)
      (storeFirmware svc params sigStr) := by
  refine ⟨trivial, fun (uploaded : Bool) _ => ?_⟩
  cases uploaded with
  | false => exact finish_signs _ _
  | true =>
      refine ⟨⟨rfl, rfl⟩, fun (r : Option FirmwareRow) _ => ?_⟩
      cases r with
      | some fw => exact finish_signs _ _
      | none => exact ⟨trivial, fun _ _ => finish_signs _ _⟩

/-- A release signs the digest of its image. -/
theorem signFirmware_signs (params : ReleaseParams) :
    Always (fun _ _ => True) (ReleaseOp.Concerns svc params) (signFirmware svc params) := by
  unfold signFirmware
  split
  · unfold signSHA256 checksum
    rw [Agent.hexDecode_hexEncode]
    refine ⟨rfl, fun (r : Option Bytes) _ => ?_⟩
    cases r with
    | none => exact finish_signs _ _
    | some sig => exact storeFirmware_signs _ _
  · exact finish_signs _ _

/-- What a release signs and records. -/
theorem release_signs (params : ReleaseParams) :
    Always (fun _ _ => True) (ReleaseOp.Concerns svc params) (release svc params) := by
  unfold release
  split
  · exact finish_signs _ _
  · split
    · exact finish_signs _ _
    · refine ⟨trivial, fun (r : Option FirmwareRow) _ => ?_⟩
      cases r with
      | some fw => exact finish_signs _ _
      | none => exact signFirmware_signs _

variable {rls : List Releases.Label} {rc : Releases.Config}

/-- The operations of a run are those of its releases. -/
theorem run_concerns (h : run (Releases.step svc) Releases.start rls = some rc) :
    rc.AllOps (ReleaseOp.Concerns svc) := by
  have hbody : ∀ params, Always (fun _ _ => True) (ReleaseOp.Concerns svc params)
      ((releaseMachine svc).body params) := by
    rw [releaseMachine_body]
    exact @release_signs svc
  exact Machine.run_allOps hbody h

/-- A signed digest is the one of a released image. -/
theorem Signed.released (h : run (Releases.step svc) Releases.start rls = some rc)
    {digest : Bytes} (hsigned : Signed rc digest) :
    ∃ i params q, rc.thread i = some (params, q) ∧ digest = svc.crypto.sum256 params.data := by
  obtain ⟨e, he, hop⟩ := hsigned
  obtain ⟨params, q, hthread, hconcerns⟩ := run_concerns h e he
  rw [hop] at hconcerns
  exact ⟨e.thread, params, q, hthread, hconcerns⟩

/-- A row was inserted by an operation of the history. -/
theorem row_recorded (h : run (Releases.step svc) Releases.start rls = some rc) :
    ∀ row ∈ rc.store.versions.rows, ∃ e ∈ rc.trace, ∃ q uuid,
      e.op = .createFirmwareVersion q ∧ row = q.row uuid := by
  refine run_invariant (I := fun m => ∀ row ∈ m.store.versions.rows, ∃ e ∈ m.trace,
    ∃ q uuid, e.op = .createFirmwareVersion q ∧ row = q.row uuid) ?_ ?_ h
  · intro m l m' hm hl row hrow
    obtain ⟨i, params, -, hs⟩ | ⟨i, x, tag, op, k, r, -, hs⟩ := Machine.step_cases hl
    · have hstore : m.store = m'.store := Option.some.inj hs.accepted
      rw [← hstore] at hrow
      rw [hs.trace]
      exact hm row hrow
    · have hexec : m.store.exec op x = (r, m'.store) := hs.effect
      have heffect := exec_effect m.store op x .idle
      rw [hexec] at heffect
      rw [hs.trace]
      rcases heffect.row hrow with hold | ⟨q, uuid, rfl, hnew, -⟩
      · obtain ⟨e, he, hcreated⟩ := hm row hold
        exact ⟨e, List.mem_append_left _ he, hcreated⟩
      · exact ⟨_, List.mem_append_right _ (List.mem_singleton_self _), q, uuid, rfl, hnew⟩
  · intro row hrow
    simp [Releases.start, Machine.initial, ReleaseStore.empty, Table.empty] at hrow

/-- The rows that update commands are made from are genuine. -/
theorem recorded_genuine (h : run (Releases.step svc) Releases.start rls = some rc)
    {row : FirmwareRow} (hrow : row ∈ rc.store.versions.rows) :
    Genuine svc rc row.version row.sha256Checksum := by
  obtain ⟨e, he, q, uuid, hop, rfl⟩ := row_recorded h row hrow
  obtain ⟨params, p, hthread, hconcerns⟩ := run_concerns h e he
  rw [hop] at hconcerns
  obtain ⟨hversion, hsum⟩ := hconcerns
  exact ⟨params.data, ⟨e.thread, params, p, hthread, hversion.symm, rfl⟩, hsum.symm⟩

/-! ## What an agent installs -/

variable {p : Agent.Process} {r : Agent.Robot} {als : List Agent.Label} {c : Agent.Config}

/-- An image an agent has verified is the image of a release. -/
theorem Trusted.released (ht : Trusted svc rc p c)
    (h : run (Releases.step svc) Releases.start rls = some rc) {i : Nat} {cmd : Command}
    {data : Bytes} (hdata : some data ∈ Agent.downloads i c)
    (hverified : Agent.Verified p cmd data) : ∃ version, Released rc version data := by
  obtain ⟨pub, sig, hpub, hverifies⟩ := hverified.verifies
  rw [ht.library] at hverifies
  have hsigned : Signed rc (svc.crypto.sum256 data) := ht.unforgeable pub _ sig hpub hverifies
  obtain ⟨j, params, q, hthread, hdigest⟩ := hsigned.released h
  have hsame : data = params.data :=
    ht.collisionFree _ _ (.downloaded hdata) (.released hthread) hdigest
  exact ⟨trimSpace params.version, j, params, q, hthread, rfl, hsame.symm⟩

/-- A verified image is one of the command's version exactly if the command is genuine. -/
theorem Trusted.released_iff (ht : Trusted svc rc p c) {i : Nat} {cmd : Command} {data : Bytes}
    (hdata : some data ∈ Agent.downloads i c) (hverified : Agent.Verified p cmd data) :
    Released rc cmd.version data ↔ Genuine svc rc cmd.version cmd.sha256Checksum := by
  have hsum : checksum svc data = cmd.sha256Checksum := by
    rw [checksum, ← ht.library]
    exact hverified.checksum
  constructor
  · intro hreleased
    exact ⟨data, hreleased, hsum⟩
  · intro hgenuine
    obtain ⟨data', hreleased, hsum'⟩ := hgenuine
    obtain ⟨j, params, q, hthread, hversion, rfl⟩ := hreleased
    have hdigest : svc.crypto.sum256 params.data = svc.crypto.sum256 data := by
      have htexts : Agent.hexDecode (checksum svc params.data) =
          Agent.hexDecode (checksum svc data) := by
        rw [hsum', hsum]
      rw [checksum, checksum, Agent.hexDecode_hexEncode, Agent.hexDecode_hexEncode] at htexts
      exact Option.some.inj htexts
    have hsame : params.data = data :=
      ht.collisionFree _ _ (.released hthread) (.downloaded hdata) hdigest
    exact ⟨j, params, q, hthread, hversion, hsame⟩

/-- An agent that has finished an update has switched to the version of its command and has
downloaded one image, the image of a release.  It is one of that version exactly if the version
and the checksum of the command are those of one release. -/
theorem installed_iff_genuine (hrelease : run (Releases.step svc) Releases.start rls = some rc)
    (hagent : run (Agent.step p) (Agent.start p r) als = some c) (ht : Trusted svc rc p c)
    {i : Nat} {cmd : Command} {version : String} (h : Installed c i cmd version) :
    version = cmd.version ∧ ∃ data, Agent.downloads i c = [some data] ∧
      (∃ released, Released rc released data) ∧
        (Released rc cmd.version data ↔ Genuine svc rc cmd.version cmd.sha256Checksum) := by
  obtain ⟨q, hi⟩ := h.handles
  obtain ⟨e, he, hthread, hswitch⟩ := h.switched
  obtain ⟨hversion, data, hdownloads, hverified⟩ :=
    Agent.switched_verified hagent hi h.update he hthread hswitch
  have hdata : some data ∈ Agent.downloads i c := by simp [hdownloads]
  exact ⟨hversion, data, hdownloads, ht.released hrelease hdata hverified,
    ht.released_iff hdata hverified⟩

end

/-! ## Concrete runs -/

/-- The digest of {lit}`[1, 2, 3, 4]`, and its signature with the private key 1. -/
def oldDigest : Bytes :=
  [159, 100, 167, 71, 225, 185, 127, 19, 31, 171, 182, 180, 71, 41, 108, 155, 111, 2, 1, 231,
    159, 179, 197, 53, 110, 108, 119, 232, 155, 106, 128, 106]

/-- The signature of the first image. -/
def oldSignature : Bytes :=
  [48, 68, 2, 32, 107, 23, 209, 242, 225, 44, 66, 71, 248, 188, 230, 229, 99, 164, 64, 242, 119,
    3, 125, 129, 45, 235, 51, 160, 244, 161, 57, 69, 216, 152, 194, 150, 2, 32, 10, 124, 121, 59,
    194, 229, 193, 90, 24, 104, 157, 153, 170, 205, 173, 142, 41, 30, 132, 187, 38, 135, 90, 81,
    111, 83, 230, 107, 119, 160, 29, 175]

/-- The signature of the first image in base64. -/
def oldSignatureText : String :=
  "MEQCIGsX0fLhLEJH+Lzm5WOkQPJ3A32BLeszoPShOUXYmMKWAiAKfHk7wuXBWhhonZmqza2OKR6EuyaHWlFvU+Zrd6Adrw=="

/-- The digest of {lit}`[5, 6, 7, 8]`, and its signature. -/
def newDigest : Bytes :=
  [85, 229, 80, 159, 128, 82, 153, 130, 148, 38, 110, 229, 181, 12, 181, 146, 147, 129, 145, 251,
    93, 103, 247, 60, 172, 46, 96, 176, 39, 107, 27, 221]

/-- The signature of the second image. -/
def newSignature : Bytes :=
  [48, 69, 2, 32, 107, 23, 209, 242, 225, 44, 66, 71, 248, 188, 230, 229, 99, 164, 64, 242, 119,
    3, 125, 129, 45, 235, 51, 160, 244, 161, 57, 69, 216, 152, 194, 150, 2, 33, 0, 192, 253, 34,
    146, 97, 126, 219, 202, 140, 227, 85, 203, 24, 176, 246, 133, 10, 133, 15, 124, 139, 83, 42,
    221, 160, 207, 153, 246, 0, 3, 222, 115]

/-- The signature of the second image in base64. -/
def newSignatureText : String :=
  "MEUCIGsX0fLhLEJH+Lzm5WOkQPJ3A32BLeszoPShOUXYmMKWAiEAwP0ikmF+28qM41XLGLD2hQqFD3yLUyrdoM+Z9gAD3nM="

/-- The public key of the private key 1: the base point. -/
def signingKey : PublicKey where
  x := 0x6b17d1f2e12c4247f8bce6e563a440f277037d812deb33a0f4a13945d898c296
  y := 0x4fe342e2fe1a7f9b8ee7eb4a7c0f9e162bce33576b315ececbb6406837bf51f5

/-- The digests of the two images; any other image is its own digest behind a mark. -/
def sumOf (data : Bytes) : Bytes :=
  if data = [1, 2, 3, 4] then oldDigest
  else if data = [5, 6, 7, 8] then newDigest
  else 0 :: data

/-- Different images have different digests here. -/
theorem sumOf_injective : Function.Injective sumOf := by
  intro data data' h
  by_cases hold : data = [1, 2, 3, 4] <;> by_cases hnew : data = [5, 6, 7, 8] <;>
    by_cases hold' : data' = [1, 2, 3, 4] <;> by_cases hnew' : data' = [5, 6, 7, 8] <;>
      simp_all [sumOf, oldDigest, newDigest]

/-- A service that has signed the two images. -/
def signingService : ReleaseService where
  crypto :=
    { sum256 := sumOf
      decodeBase64 := fun text =>
        if text = oldSignatureText then some oldSignature
        else if text = newSignatureText then some newSignature
        else none
      verifyASN1 := fun pub digest sig => pub = signingKey &&
        ((digest = oldDigest && sig = oldSignature) || (digest = newDigest && sig = newSignature)) }
  encodeBase64 := fun sig => if sig = oldSignature then oldSignatureText else newSignatureText

/-- A release of an image, signed with {lit}`signature`, from its start to its end. -/
def releaseAll (i : Nat) (params : ReleaseParams) (signature : Bytes) : List Releases.Label :=
  .spawn i params :: List.replicate 5 (.step i { uuid := i, signature })

/-- The old image is released as 1.0.0 and the new one as 2.0.0. -/
def twoReleases : List Releases.Label :=
  releaseAll 0 (uploadOf "1.0.0" [1, 2, 3, 4]) oldSignature ++
    releaseAll 1 (uploadOf "2.0.0" [5, 6, 7, 8]) newSignature

/-- A robot with the key. -/
def signedProcess : Agent.Process where
  deviceID := "r1"
  ecdsaPubKey := some signingKey
  crypto := signingService.crypto

/-- An update command with checksum and signature of the old image. -/
def oldImageAs (version : String) : Command where
  action := "update"
  version := version
  sha256Checksum := checksum signingService [1, 2, 3, 4]
  signature := oldSignatureText

/-- The agent receives the command, downloads the old image and runs to its end. -/
def installAll (cmd : Command) : List Agent.Label :=
  .spawn 0 (.command cmd) :: List.replicate 27 (.step 0 { response := some ⟨200, some [1, 2, 3, 4]⟩ })

/-- What the two libraries are assumed to do holds here. -/
theorem signing_trusted {rc : Releases.Config} (c : Agent.Config) (hold : Signed rc oldDigest)
    (hnew : Signed rc newDigest) : Trusted signingService rc signedProcess c where
  library := rfl
  unforgeable := by
    intro pub digest sig _ hverify
    have hdigest : digest = oldDigest ∨ digest = newDigest := by
      simp only [signingService, Bool.and_eq_true, Bool.or_eq_true, decide_eq_true_eq] at hverify
      exact hverify.2.imp And.left And.left
    rcases hdigest with rfl | rfl
    · exact hold
    · exact hnew
  collisionFree := fun _ _ _ _ h => sumOf_injective h

/-- The executable form of {lit}`Released`. -/
def released (rc : Releases.Config) (version : String) (data : Bytes) : Bool :=
  rc.threads.rows.any fun t => trimSpace t.tag.version = version && t.tag.data = data

theorem released_iff {rc : Releases.Config} {version : String} {data : Bytes} :
    released rc version data = true ↔ Released rc version data := by
  simp only [released, List.any_eq_true, Bool.and_eq_true, decide_eq_true_eq]
  constructor
  · intro h
    obtain ⟨t, ht, hversion, hdata⟩ := h
    have hfind : rc.threads.find? t.id = some t := Table.find?_some_iff.mpr ⟨ht, rfl⟩
    exact ⟨t.id, t.tag, t.prog, congrArg _ hfind, hversion, hdata⟩
  · intro h
    obtain ⟨i, params, q, hthread, hversion, hdata⟩ := h
    obtain ⟨t, ht, heq⟩ := Option.map_eq_some_iff.mp hthread
    have htag : t.tag = params := congrArg Prod.fst heq
    exact ⟨t, Table.mem_of_find? ht, htag ▸ hversion, htag ▸ hdata⟩

/-- The executable form of {lit}`Signed`. -/
def signed (rc : Releases.Config) (digest : Bytes) : Bool :=
  rc.trace.any fun e => e.op = .signASN1 digest

theorem signed_spec {rc : Releases.Config} {digest : Bytes} (h : signed rc digest = true) :
    Signed rc digest := by
  obtain ⟨e, he, hop⟩ := List.any_eq_true.mp h
  exact ⟨e, he, of_decide_eq_true hop⟩

/-- Goroutine {lit}`i` has finished an update for {lit}`cmd` with a switch to its version and one
download. -/
def finished (c : Agent.Config) (i : Nat) (cmd : Command) (data : Bytes) : Bool :=
  match c.thread i with
  | some (.command cmd', .done ()) => cmd' = cmd && cmd.action = "update" &&
      (c.trace.any fun e => e.thread = i && e.op = .setCurrentVersion cmd.version) &&
        Agent.downloads i c = [some data]
  | _ => false

theorem finished_spec {c : Agent.Config} {i : Nat} {cmd : Command} {data : Bytes}
    (h : finished c i cmd data = true) : c.thread i = some (.command cmd, .done ()) ∧
      Installed c i cmd cmd.version ∧ Agent.downloads i c = [some data] := by
  unfold finished at h
  split at h
  · rename_i cmd' hthread
    simp only [Bool.and_eq_true, List.any_eq_true, decide_eq_true_eq] at h
    obtain ⟨⟨⟨rfl, hupdate⟩, e, he, hswitch⟩, hdownloads⟩ := h
    exact ⟨hthread, ⟨⟨_, hthread⟩, hupdate, e, he, hswitch⟩, hdownloads⟩
  · cases h

/-- Both images have been signed, and they are all that was released. -/
theorem twoReleases_run : ∃ rc, run (Releases.step signingService) Releases.start twoReleases =
    some rc ∧ (∀ c, Trusted signingService rc signedProcess c) ∧
      Released rc "1.0.0" [1, 2, 3, 4] ∧ ¬ Released rc "2.0.0" [1, 2, 3, 4] := by
  have hend : endsWith (Releases.step signingService) Releases.start twoReleases (fun rc =>
      signed rc oldDigest && signed rc newDigest && released rc "1.0.0" [1, 2, 3, 4] &&
        !released rc "2.0.0" [1, 2, 3, 4]) = true := by
    decide +kernel
  obtain ⟨rc, hrun, htest⟩ := endsWith_eq_true hend
  simp only [Bool.and_eq_true, Bool.not_eq_true'] at htest
  obtain ⟨⟨⟨hold, hnew⟩, hreleased⟩, hother⟩ := htest
  refine ⟨rc, hrun, fun c => signing_trusted c (signed_spec hold) (signed_spec hnew),
    released_iff.mp hreleased, fun h => ?_⟩
  rw [released_iff.mpr h] at hother
  cases hother

/-- The old image is installed under the version it was released as. -/
theorem installed_genuine_image :
    ∃ rc c, run (Releases.step signingService) Releases.start twoReleases = some rc ∧
      run (Agent.step signedProcess) (Agent.start signedProcess (Agent.robot "r1"))
        (installAll (oldImageAs "1.0.0")) = some c ∧
        Installed c 0 (oldImageAs "1.0.0") "1.0.0" ∧
          ∃ data, Agent.downloads 0 c = [some data] ∧ Released rc "1.0.0" data := by
  obtain ⟨rc, hrelease, htrusted, hreleased, -⟩ := twoReleases_run
  have hend : endsWith (Agent.step signedProcess)
      (Agent.start signedProcess (Agent.robot "r1")) (installAll (oldImageAs "1.0.0"))
      (fun c => finished c 0 (oldImageAs "1.0.0") [1, 2, 3, 4]) = true := by
    decide +kernel
  obtain ⟨c, hagent, htest⟩ := endsWith_eq_true hend
  have hinstalled := (finished_spec htest).2.1
  obtain ⟨-, data, hdownloads, -, hiff⟩ :=
    installed_iff_genuine hrelease hagent (htrusted c) hinstalled
  exact ⟨rc, c, hrelease, hagent, hinstalled, data, hdownloads,
    hiff.mpr ⟨[1, 2, 3, 4], hreleased, rfl⟩⟩

/-- A command with the version of one release and the checksum and the signature of an older one
is accepted: the agent installs the old image as the new version. -/
theorem installed_not_released :
    ¬ ∀ (svc : ReleaseService) (rls : List Releases.Label) (rc : Releases.Config)
      (p : Agent.Process) (r : Agent.Robot) (als : List Agent.Label) (c : Agent.Config),
      run (Releases.step svc) Releases.start rls = some rc →
        run (Agent.step p) (Agent.start p r) als = some c → Trusted svc rc p c →
          ∀ i cmd data, c.thread i = some (.command cmd, .done ()) →
            Installed c i cmd cmd.version → Agent.downloads i c = [some data] →
              Released rc cmd.version data := by
  intro h
  obtain ⟨rc, hrelease, htrusted, -, hother⟩ := twoReleases_run
  have hend : endsWith (Agent.step signedProcess)
      (Agent.start signedProcess (Agent.robot "r1")) (installAll (oldImageAs "2.0.0"))
      (fun c => finished c 0 (oldImageAs "2.0.0") [1, 2, 3, 4]) = true := by
    decide +kernel
  obtain ⟨c, hagent, htest⟩ := endsWith_eq_true hend
  obtain ⟨hdone, hinstalled, hdownloads⟩ := finished_spec htest
  exact hother (h _ _ rc _ _ _ c hrelease hagent (htrusted c) 0 _ _ hdone hinstalled hdownloads)

end OtaRobot.Firmware
