import OtaRobot.Agent.Pipeline
import OtaRobot.Keys.Keypair

/-!
# The key a robot trusts

Two functions look for the public key of a robot: {lit}`loadPublicKey` of
{lit}`simulator/main.go`, whose answer {lit}`handleUpdate` uses, and {lit}`LoadPublicKey` of
{lit}`internal/crypto/verify.go`, which promises to reject firmware when there is no key.  They go
through the same four files.

Main results:

- Theorem {lit}`rejectsUpdates_of_none`: without a key no update command gets further than an
  error report.
- Theorem {lit}`trustAnchor_failsClosed`: when the robot has the key of the second function, and
  none if there is none.
-/

namespace OtaRobot

open Agent (Bytes PublicKey)
open Keys (Disk KeyLibrary parsePublicKeyFromPEM textBytes)

/-! ## The search -/

/-- {lit}`paths` of both functions. -/
def candidatePaths (getenv : String → String) : List String :=
  [getenv "ECDSA_PUBLIC_KEY_PATH", "/app/keys/public.pem", "./keys/public.pem",
    "../../keys/public.pem"]

/-- The loop of both functions: the first file that can be read and is not empty. -/
def firstContent (disk : Disk) : List String → Bytes
  | [] => []
  | p :: paths =>
      if p = "" then firstContent disk paths
      else
        match disk.read p with
        | some b => if b.length > 0 then b else firstContent disk paths
        | none => firstContent disk paths

namespace AgentCrypto

/-- {lit}`LoadPublicKey`. -/
def loadPublicKey (lib : KeyLibrary) (getenv : String → String) (disk : Disk) :
    Option PublicKey :=
  let data := firstContent disk (candidatePaths getenv)
  if data.length = 0 then none else parsePublicKeyFromPEM lib data

end AgentCrypto

namespace Agent

/-- {lit}`defaultPublicKeyPEM`. -/
def defaultPublicKeyPEM : String :=
  "-----BEGIN PUBLIC KEY-----\n" ++
    "MFkwEwYHKoZIzj0CAQYIKoZIzj0DAQcDQgAElEKlesPvGKyGFI2RwpJsfqXxqKBA\n" ++
    "hkeZCoqleIU8Ix6uE5NVhG7KAtIVTcO3ylWXNO4qxiTJvhyMEA73jEgheg==\n" ++
    "-----END PUBLIC KEY-----"

/-- {lit}`loadPublicKey`: without a file it takes the key that is embedded in the program. -/
def loadPublicKey (lib : KeyLibrary) (getenv : String → String) (disk : Disk) :
    Option PublicKey :=
  let data := firstContent disk (candidatePaths getenv)
  let data := if data.length = 0 then textBytes defaultPublicKeyPEM else data
  parsePublicKeyFromPEM lib data

end Agent

/-- A candidate that can be read and is not empty. -/
def Provides (disk : Disk) (path : String) : Prop :=
  ∃ b, disk.read path = some b ∧ b ≠ []

/-- There is a content if some file provides one. -/
theorem firstContent_ne_nil_iff {disk : Disk} {paths : List String} :
    firstContent disk paths ≠ [] ↔ ∃ path ∈ paths, Provides disk path := by
  induction paths with
  | nil => simp [firstContent]
  | cons p paths ih =>
      rw [firstContent]
      by_cases hp : p = ""
      · rw [if_pos hp, ih]
        simp [hp, Provides, Disk.read_empty]
      · rw [if_neg hp]
        cases hread : disk.read p with
        | none => simpa [Provides, hread] using ih
        | some b =>
            by_cases hb : b = []
            · simpa [Provides, hread, hb] using ih
            · simp [Provides, hread, hb, List.length_pos_iff]

/-! ## Refusals -/

namespace Agent

open Prog Transition

/-- What a refused update does: it asks for the state, leaves the pipeline, and reports. -/
def Op.isRefusal : Op → Bool
  | .trigger .updateCommand | .trigger .verifyFail | .trigger .reset => true
  | .getState | .readActivity | .readIsAGV | .readBattery => true
  | .publishError _ => true
  | .setStatus status => status = "online"
  | _ => false

/-- The operation reports an error. -/
def Op.isErrorReport : Op → Bool
  | .publishError _ => true
  | _ => false

/-- The goroutine of an update command only refuses; the number counts its error reports. -/
def refusals (t : Routine) : Discipline Op.Ret Nat where
  allowed _ op := t.isUpdate = true → op.isRefusal = true
  rely _ _ _ := True
  next n op _ := if op.isErrorReport then n + 1 else n

/-- A refused update has reported one error. -/
def ReportedOnce (t : Routine) (n : Nat) : Prop :=
  t.isUpdate = true → n = 1

/-- The procedure refuses without a report. -/
abbrev Refusing {α : Type} (m : Handler α) : Prop :=
  Always (fun _ _ => True) (fun op => op.isRefusal = true ∧ op.isErrorReport = false) m

section

variable {t : Routine}

/-- What refuses may stand before. -/
theorem Refusing.obeys_bind {α β : Type} {m : Handler α} {f : α → Handler β}
    {post : Nat → β → Prop} {n : Nat} (hm : Refusing m)
    (hf : ∀ a, Obeys (refusals t) post n (f a)) : Obeys (refusals t) post n (m >>= f) := by
  apply Always.obeys_bind hm
  · exact fun _ _ _ => trivial
  · exact fun op hop _ => hop.1
  · intro op r hop
    show (if op.isErrorReport = true then n + 1 else n) = n
    rw [hop.2]
    rfl
  · exact hf

/-- An operation that refuses by itself. -/
theorem perform_refusing {op : Op} (hrefusal : op.isRefusal = true)
    (hreport : op.isErrorReport = false) : Refusing (perform op) :=
  perform_always ⟨hrefusal, hreport⟩

theorem publishError_refuses {β : Type} {f : Unit → Handler β} {post : Nat → β → Prop} {n : Nat}
    (text : String) (hf : ∀ a, Obeys (refusals t) post (n + 1) (f a)) :
    Obeys (refusals t) post n (publishError text >>= f) :=
  ⟨fun _ => rfl, fun r _ => hf r⟩

/-- An aborted update reports one error. -/
theorem abortUpdate_refuses {text : Handler String} (htext : Refusing text) :
    Obeys (refusals t) (fun n _ => n = 1) 0 (abortUpdate .verifyFail text) := by
  apply Refusing.obeys_bind (perform_refusing rfl rfl)
  intro _
  apply Refusing.obeys_bind htext
  intro message
  apply publishError_refuses message
  intro _
  apply Refusing.obeys_bind (perform_refusing rfl rfl)
  intro _
  exact ⟨fun _ => rfl, fun _ _ => rfl⟩

variable {p : Process}

/-- Without a key the key check refuses. -/
theorem checkCompatible_refuses (hkey : p.ecdsaPubKey = none) (cmd : Command) :
    Obeys (refusals t) (fun n _ => n = 1) 0 (checkCompatible p cmd) := by
  unfold checkCompatible
  split
  · exact abortUpdate_refuses trivial
  · rw [hkey]
    exact abortUpdate_refuses trivial

/-- Without a key the interlocks or the key check refuse. -/
theorem checkInterlocks_refuses (hkey : p.ecdsaPubKey = none) (cmd : Command) :
    Obeys (refusals t) (fun n _ => n = 1) 0 (checkInterlocks p cmd) := by
  apply Refusing.obeys_bind (perform_refusing rfl rfl)
  intro activity
  split
  · exact abortUpdate_refuses (busyText_always ⟨rfl, rfl⟩)
  · apply Refusing.obeys_bind (lowBattery_always ⟨rfl, rfl⟩ ⟨rfl, rfl⟩)
    intro low
    split
    · exact abortUpdate_refuses (lowBatteryText_always ⟨rfl, rfl⟩)
    · exact checkCompatible_refuses hkey cmd

/-- Without a key every path of {lit}`handleUpdate` is a refusal. -/
theorem handleUpdate_refuses (hkey : p.ecdsaPubKey = none) (cmd : Command) :
    Obeys (refusals t) (fun n _ => n = 1) 0 (handleUpdate p cmd) := by
  apply Refusing.obeys_bind (perform_refusing rfl rfl)
  rintro (error | change)
  · apply Refusing.obeys_bind (perform_refusing rfl rfl)
    intro s
    exact ⟨fun _ => rfl, fun _ _ => rfl⟩
  · exact checkInterlocks_refuses hkey cmd

/-- Without a key every update is refused with one error. -/
theorem body_refuses (hkey : p.ecdsaPubKey = none) (t : Routine) :
    Obeys (refusals t) (fun n _ => ReportedOnce t n) 0 (body p t) := by
  cases hupdate : t.isUpdate with
  | false =>
      apply obeys_of_forall
      · intro n op h
        rw [hupdate] at h
        cases h
      · intro n _ h
        rw [hupdate] at h
        cases h
  | true =>
      cases t with
      | heartbeat => cases hupdate
      | command cmd =>
          have haction : cmd.action = "update" := of_decide_eq_true hupdate
          simp only [body, messagePubHandler, if_pos haction]
          exact (handleUpdate_refuses hkey cmd).mono fun n _ hn _ => hn

end

/-! ## Runs -/

/-- An update command is refused: its goroutine installs nothing, and has reported one error when
it ends. -/
def Refused (c : Config) (i : Nat) (q : Handler Unit) : Prop :=
  (∀ e ∈ Machine.eventsOf i c.trace, e.op.isRefusal = true) ∧
    (q = .done () → (Machine.eventsOf i c.trace).countP (fun e => e.op.isErrorReport) = 1)

/-- In every run every update command is refused. -/
def RejectsUpdates (p : Process) : Prop :=
  ∀ (r : Robot) (ls : List Label) (c : Config), run (step p) (start p r) ls = some c →
    ∀ i cmd q, cmd.action = "update" → c.thread i = some (.command cmd, q) → Refused c i q

/-- What the goroutines have done so far. -/
def OnlyRefused (t : Routine) (n : Nat) (events : List Record) : Prop :=
  (t.isUpdate = true → ∀ e ∈ events, e.op.isRefusal = true) ∧
    n = events.countP fun e => e.op.isErrorReport

theorem onlyRefused_next {t : Routine} {n : Nat} {events : List Record} {e : Record}
    (h : OnlyRefused t n events) (hallowed : (refusals t).allowed n e.op) :
    OnlyRefused t ((refusals t).next n e.op e.ret) (events ++ [e]) := by
  constructor
  · intro hupdate e' he'
    rcases List.mem_append.mp he' with hold | hnew
    · exact h.1 hupdate e' hold
    · obtain rfl := List.mem_singleton.mp hnew
      exact hallowed hupdate
  · show (if e.op.isErrorReport = true then n + 1 else n) = _
    rw [List.countP_append, List.countP_singleton, h.2]
    split <;> rfl

/-- Without a key every update command is refused. -/
theorem rejectsUpdates_of_none {p : Process} (hkey : p.ecdsaPubKey = none) : RejectsUpdates p := by
  intro r ls c hrun i cmd q haction hthread
  have hinvariant : Machine.Disciplined refusals ReportedOnce (fun _ => 0) c ∧
      c.AllGhosts refusals (fun _ => 0) OnlyRefused := by
    refine run_invariant (I := fun c => Machine.Disciplined refusals ReportedOnce (fun _ => 0) c ∧
      c.AllGhosts refusals (fun _ => 0) OnlyRefused) ?_ ?_ hrun
    · intro m l m' hm hstep
      refine ⟨Machine.step_disciplined hstep hm.1 (body_refuses hkey) ?_, ?_⟩
      · exact fun _ _ _ _ _ _ _ => trivial
      · exact Machine.step_allGhosts hstep hm.1 hm.2 (fun t => ⟨by simp, rfl⟩)
          fun t n events e h hallowed => onlyRefused_next h hallowed
    · exact ⟨Machine.disciplined_initial _ _ _ _, Machine.allGhosts_initial _ _ _ _⟩
  have hupdate : Routine.isUpdate (.command cmd) = true := decide_eq_true haction
  obtain ⟨hops, hcount⟩ := hinvariant.2 i _ _ hthread
  refine ⟨hops hupdate, ?_⟩
  rintro rfl
  rw [← hcount]
  exact hinvariant.1.obeys i _ _ hthread hupdate

end Agent

/-! ## The trust anchor -/

/-- What a robot promises of its key. -/
structure FailsClosed (lib : KeyLibrary) (getenv : String → String) (disk : Disk) : Prop where
  same : Agent.loadPublicKey lib getenv disk = AgentCrypto.loadPublicKey lib getenv disk
  rejects : AgentCrypto.loadPublicKey lib getenv disk = none →
    ∀ p : Agent.Process, p.ecdsaPubKey = Agent.loadPublicKey lib getenv disk →
      Agent.RejectsUpdates p

/-- Both searches read the same file, where there is one. -/
theorem loadPublicKey_of_provides (lib : KeyLibrary) {getenv : String → String} {disk : Disk}
    (h : ∃ path ∈ candidatePaths getenv, Provides disk path) :
    Agent.loadPublicKey lib getenv disk = AgentCrypto.loadPublicKey lib getenv disk := by
  have hlength : (firstContent disk (candidatePaths getenv)).length ≠ 0 := by
    rw [ne_eq, List.length_eq_zero_iff]
    exact firstContent_ne_nil_iff.mpr h
  unfold Agent.loadPublicKey AgentCrypto.loadPublicKey
  dsimp only
  rw [if_neg hlength, if_neg hlength]

/-- Without a file they differ in the key that is embedded. -/
theorem loadPublicKey_of_not_provides (lib : KeyLibrary) {getenv : String → String} {disk : Disk}
    (h : ¬ ∃ path ∈ candidatePaths getenv, Provides disk path) :
    Agent.loadPublicKey lib getenv disk =
        parsePublicKeyFromPEM lib (textBytes Agent.defaultPublicKeyPEM) ∧
      AgentCrypto.loadPublicKey lib getenv disk = none := by
  have hlength : (firstContent disk (candidatePaths getenv)).length = 0 := by
    rw [List.length_eq_zero_iff]
    by_contra hne
    exact h (firstContent_ne_nil_iff.mp hne)
  unfold Agent.loadPublicKey AgentCrypto.loadPublicKey
  dsimp only
  rw [if_pos hlength, if_pos hlength]
  exact ⟨rfl, rfl⟩

/-- A robot has the key it is told to have, and refuses every update when there is none, if one of
the four files can be read and is not empty, and otherwise only if the embedded key is no key. -/
theorem trustAnchor_failsClosed (lib : KeyLibrary) (getenv : String → String) (disk : Disk) :
    FailsClosed lib getenv disk ↔
      (∃ path ∈ candidatePaths getenv, Provides disk path) ∨
        parsePublicKeyFromPEM lib (textBytes Agent.defaultPublicKeyPEM) = none := by
  have hrejects : ∀ p : Agent.Process,
      Agent.loadPublicKey lib getenv disk = AgentCrypto.loadPublicKey lib getenv disk →
        AgentCrypto.loadPublicKey lib getenv disk = none →
          p.ecdsaPubKey = Agent.loadPublicKey lib getenv disk → Agent.RejectsUpdates p := by
    intro p hsame hnone hkey
    exact Agent.rejectsUpdates_of_none (hkey.trans (hsame.trans hnone))
  by_cases hfile : ∃ path ∈ candidatePaths getenv, Provides disk path
  · have hsame := loadPublicKey_of_provides lib hfile
    exact iff_of_true ⟨hsame, fun hnone p => hrejects p hsame hnone⟩ (Or.inl hfile)
  · obtain ⟨hembedded, hnone⟩ := loadPublicKey_of_not_provides lib hfile
    constructor
    · intro hcloses
      right
      rw [← hembedded, hcloses.same, hnone]
    · rintro (hprovides | hparse)
      · exact absurd hprovides hfile
      · have hsame : Agent.loadPublicKey lib getenv disk =
            AgentCrypto.loadPublicKey lib getenv disk := by
          rw [hembedded, hparse, hnone]
        exact ⟨hsame, fun hnone p => hrejects p hsame hnone⟩

/-- The key that is embedded in the program. -/
def embeddedKey : Agent.PublicKey where
  x := 0x9442a57ac3ef18ac86148d91c2926c7ea5f1a8a0408647990a8aa578853c231e
  y := 0xae139355846eca02d2154dc3b7ca559734ee2ac624c9be1c8c100ef78c48217a

/-- The embedded text is the block of a key. -/
theorem decodeBlock_defaultPublicKeyPEM :
    Keys.decodeBlock (textBytes Agent.defaultPublicKeyPEM) =
      some (Keys.curveLibrary.marshalPKIXPublicKey embeddedKey) := by
  rw [Keys.decodeBlock_eq]
  decide +kernel

/-- The embedded text is parsed as this key. -/
theorem defaultPublicKeyPEM_parses :
    parsePublicKeyFromPEM Keys.curveLibrary (textBytes Agent.defaultPublicKeyPEM) =
      some embeddedKey :=
  Keys.parsePublicKeyFromPEM_curveLibrary decodeBlock_defaultPublicKeyPEM
    (Keys.parsePoint_marshal (by decide +kernel))

/-- A robot that was never provisioned trusts the embedded key. -/
theorem trustAnchor_failsOpen :
    ¬ ∀ (lib : KeyLibrary) (getenv : String → String) (disk : Disk),
      FailsClosed lib getenv disk := by
  intro h
  have hsame := (h Keys.curveLibrary Keys.unset (fun _ => none)).same
  have hparses := defaultPublicKeyPEM_parses
  have hfile : ¬ ∃ path ∈ candidatePaths Keys.unset, Provides (fun _ => none) path := by
    rintro ⟨path, -, b, hread, -⟩
    cases hread
  obtain ⟨hembedded, hnone⟩ := loadPublicKey_of_not_provides Keys.curveLibrary hfile
  rw [← hembedded, hsame, hnone] at hparses
  cases hparses

end OtaRobot
