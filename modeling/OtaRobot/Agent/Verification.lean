import OtaRobot.Agent.Pipeline

/-!
# What an update has verified before it switches

An update handler downloads at most one image.  It hashes the bytes it has downloaded, compares
the digest with the checksum of its command, and verifies the signature of the command over that
checksum with the public key of the robot.

Main results:

- Theorem {lit}`body_images`: what a goroutine downloads and switches to, and when.
- Theorem {lit}`switched_verified`: whoever has switched has downloaded one image and verified
  it.
-/

namespace OtaRobot.Agent

open Prog Transition

/-! ## Downloads -/

/-- The image an answered download has brought. -/
def imageOf (response : Option Response) : Option Bytes :=
  response.bind Response.body

/-- The image an operation has downloaded, if it does. -/
def downloadOf : Record → Option (Option Bytes)
  | ⟨_, .httpGet _, response⟩ => some (imageOf response)
  | _ => none

/-- What the downloads of goroutine {lit}`i` have brought, in order. -/
def downloads (i : Nat) (c : Config) : List (Option Bytes) :=
  (Machine.eventsOf i c.trace).filterMap downloadOf

/-- The image is the one the command names, and the signature of the command is one the robot
accepts for it. -/
structure Verified (p : Process) (cmd : Command) (data : Bytes) : Prop where
  checksum : hexEncode (p.crypto.sum256 data) = cmd.sha256Checksum
  signature : ∃ pub, p.ecdsaPubKey = some pub ∧
    verifyECDSASignature p.crypto pub (hexEncode (p.crypto.sum256 data)) cmd.signature = true

/-- An accepted signature is one of the digest itself. -/
theorem Verified.verifies {p : Process} {cmd : Command} {data : Bytes}
    (h : Verified p cmd data) : ∃ pub sig, p.ecdsaPubKey = some pub ∧
      p.crypto.verifyASN1 pub (p.crypto.sum256 data) sig = true := by
  obtain ⟨pub, hpub, hverify⟩ := h.signature
  unfold verifyECDSASignature at hverify
  rw [hexDecode_hexEncode] at hverify
  cases hdecode : p.crypto.decodeBase64 cmd.signature with
  | none => simp [hdecode] at hverify
  | some sig =>
      rw [hdecode] at hverify
      exact ⟨pub, sig, hpub, hverify⟩

/-! ## The discipline -/

/-- An update downloads once, and switches to its own version when it has verified the image. -/
def ImageAllowed (p : Process) (cmd : Command) (images : List (Option Bytes)) : Op → Prop
  | .httpGet _ => images = []
  | .setCurrentVersion v =>
      v = cmd.version ∧ ∃ data, images = [some data] ∧ Verified p cmd data
  | _ => True

/-- The images after an operation. -/
def imageNext (images : List (Option Bytes)) (op : Op) (r : op.Ret) : List (Option Bytes) :=
  images ++ (downloadOf ⟨0, op, r⟩).toList

/-- Commands other than updates may do anything. -/
def imageDiscipline (p : Process) (cmd : Command) :
    Discipline Op.Ret (List (Option Bytes)) where
  allowed images op := cmd.action = "update" → ImageAllowed p cmd images op
  rely _ _ _ := True
  next := imageNext

/-- The operation neither downloads nor switches. -/
def Op.isPlain : Op → Bool
  | .httpGet _ | .setCurrentVersion _ => false
  | _ => true

/-- The procedure neither downloads nor switches. -/
abbrev Plain {α : Type} (m : Handler α) : Prop :=
  Always (fun _ _ => True) (fun op => op.isPlain = true) m

/-- An operation that is plain by itself. -/
theorem perform_plain {op : Op} (h : op.isPlain = true) : Plain (perform op) :=
  ⟨h, fun _ _ => trivial⟩

theorem pure_plain {α : Type} (a : α) : Plain (pure a : Handler α) :=
  trivial

theorem trigger_plain (event : Event) : Plain (trigger event) :=
  perform_plain rfl

theorem publishProgress_plain (progress : Nat) (status : String)
    (ecdsaMs sha256Ms : Option Nat) :
    Plain (publishProgressWithMeta progress status ecdsaMs sha256Ms) :=
  publishProgress_always rfl fun _ => rfl

/-- The text of the activity interlock is plain. -/
theorem busyText_plain : Plain busyText :=
  busyText_always rfl

/-- The text of the battery interlock is plain. -/
theorem lowBatteryText_plain : Plain lowBatteryText :=
  lowBatteryText_always rfl

/-- The battery interlock is plain. -/
theorem lowBattery_plain : Plain lowBattery :=
  lowBattery_always rfl rfl

/-- An aborted update is plain. -/
theorem abortUpdate_plain (event : Event) {text : Handler String} (htext : Plain text) :
    Plain (abortUpdate event text) :=
  abortUpdate_always rfl htext (fun _ => rfl) rfl rfl

/-- A failed installation is plain. -/
theorem failInstall_plain (text : String) : Plain (failInstall text) :=
  failInstall_always rfl rfl rfl

/-! ## The handlers -/

section

variable (p : Process) (cmd : Command) {images : List (Option Bytes)}

/-- A plain procedure may stand in front. -/
theorem Plain.obeys_bind {α β : Type} {m : Handler α} {f : α → Handler β}
    {post : List (Option Bytes) → β → Prop} (hm : Plain m)
    (hf : ∀ a, Obeys (imageDiscipline p cmd) post images (f a)) :
    Obeys (imageDiscipline p cmd) post images (m >>= f) := by
  apply Always.obeys_bind hm
  · exact fun _ _ _ => trivial
  · intro op hop _
    cases op with
    | httpGet url => cases hop
    | setCurrentVersion v => cases hop
    | _ => trivial
  · intro op r hop
    cases op with
    | httpGet url => cases hop
    | setCurrentVersion v => cases hop
    | _ => exact List.append_nil images
  · exact hf

/-- At the end of a handler nothing is promised. -/
theorem Plain.obeys_end {α : Type} {m : Handler α} (hm : Plain m) :
    Obeys (imageDiscipline p cmd) (fun _ _ => True) images m := by
  rw [← bind_done m]
  exact hm.obeys_bind p cmd fun _ => trivial

/-- The version is switched after the image was verified. -/
theorem completeUpdate_images {data : Bytes} (h : Verified p cmd data) :
    Obeys (imageDiscipline p cmd) (fun _ _ => True) [some data] (completeUpdate cmd) := by
  apply Plain.obeys_bind _ _ (publishProgress_plain _ _ _ _)
  intro _
  apply Plain.obeys_bind _ _ (trigger_plain .installOK)
  intro _
  apply Plain.obeys_bind _ _ (trigger_plain .rebootOK)
  intro _
  refine ⟨fun _ => ⟨rfl, data, rfl, h⟩, fun _ _ => ?_⟩
  apply Plain.obeys_bind _ _ (m := setStatus "online") (perform_plain rfl)
  intro _
  exact (publishProgress_plain _ _ _ _).obeys_end p cmd

/-- A verified image is installed. -/
theorem installFirmware_images (ecdsaMs : Nat) {data : Bytes} (h : Verified p cmd data) :
    Obeys (imageDiscipline p cmd) (fun _ _ => True) [some data]
      (installFirmware p cmd ecdsaMs) := by
  apply Plain.obeys_bind _ _ (trigger_plain .verifyOK)
  intro _
  apply Plain.obeys_bind _ _ (m := elapsedMs) (perform_plain rfl)
  intro sha256Ms
  apply Plain.obeys_bind _ _ (publishProgress_plain _ _ _ _)
  intro _
  apply Plain.obeys_bind _ _ (publishProgress_plain _ _ _ _)
  intro _
  apply Plain.obeys_bind _ _ (publishProgress_plain _ _ _ _)
  intro _
  apply Plain.obeys_bind _ _ (publishProgress_plain _ _ _ _)
  intro _
  dsimp only
  split
  · exact (failInstall_plain _).obeys_end p cmd
  · split
    · apply Plain.obeys_bind _ _ (perform_plain rfl)
      intro random
      split
      · exact (failInstall_plain _).obeys_end p cmd
      · exact completeUpdate_images p cmd h
    · exact completeUpdate_images p cmd h

/-- The three checks: the digest, the presence of a signature, and the signature. -/
theorem verifyFirmware_images {pub : PublicKey} (hpub : p.ecdsaPubKey = some pub) (data : Bytes) :
    Obeys (imageDiscipline p cmd) (fun _ _ => True) [some data]
      (verifyFirmware p cmd pub data) := by
  have habort : ∀ text : String, Obeys (imageDiscipline p cmd) (fun _ _ => True) [some data]
      (abortUpdate .verifyFail (pure text)) :=
    fun text => (abortUpdate_plain .verifyFail (pure_plain text)).obeys_end p cmd
  apply Plain.obeys_bind _ _ (trigger_plain .downloadOK)
  intro _
  dsimp only
  split
  · exact habort _
  · rename_i hsum
    split
    · exact habort _
    · apply Plain.obeys_bind _ _ (m := elapsedMs) (perform_plain rfl)
      intro ecdsaMs
      split
      · rename_i hverify
        have hverified : Verified p cmd data := ⟨not_not.mp hsum, pub, hpub, hverify⟩
        exact installFirmware_images p cmd ecdsaMs hverified
      · exact habort _

theorem downloadFirmware_images {pub : PublicKey} (hpub : p.ecdsaPubKey = some pub) :
    Obeys (imageDiscipline p cmd) (fun _ _ => True) [] (downloadFirmware p cmd pub) := by
  apply Plain.obeys_bind _ _ (m := setStatus "updating") (perform_plain rfl)
  intro _
  apply Plain.obeys_bind _ _ (publishProgress_plain _ _ _ _)
  intro _
  refine ⟨fun _ => rfl, fun (response : Option Response) _ => ?_⟩
  have habort : ∀ (images : List (Option Bytes)) (text : String),
      Obeys (imageDiscipline p cmd) (fun _ _ => True) images
        (abortUpdate .downloadFail (pure text)) :=
    fun images text => (abortUpdate_plain .downloadFail (pure_plain text)).obeys_end p cmd
  cases response with
  | none => exact habort _ _
  | some response =>
      obtain ⟨statusCode, body⟩ := response
      simp only [Prog.bind]
      split
      · exact habort _ _
      · cases body with
        | none => exact habort _ _
        | some data => exact verifyFirmware_images p cmd hpub data

/-- The download comes after the checks. -/
theorem checkCompatible_images :
    Obeys (imageDiscipline p cmd) (fun _ _ => True) [] (checkCompatible p cmd) := by
  unfold checkCompatible
  split
  · exact (abortUpdate_plain _ (pure_plain _)).obeys_end p cmd
  · split
    · exact (abortUpdate_plain _ (pure_plain _)).obeys_end p cmd
    · rename_i pub hpub
      exact downloadFirmware_images p cmd hpub

/-- An update switches to a verified image. -/
theorem handleUpdate_images :
    Obeys (imageDiscipline p cmd) (fun _ _ => True) [] (handleUpdate p cmd) := by
  apply Plain.obeys_bind _ _ (trigger_plain .updateCommand)
  intro r
  split
  · apply Plain.obeys_bind _ _ (m := getState) (perform_plain rfl)
    intro s
    exact Plain.obeys_end _ _ (m := publishError _) (perform_plain rfl)
  · apply Plain.obeys_bind _ _ (m := readActivity) (perform_plain rfl)
    intro activity
    split
    · exact (abortUpdate_plain _ busyText_plain).obeys_end p cmd
    · apply Plain.obeys_bind _ _ lowBattery_plain
      intro low
      split
      · exact (abortUpdate_plain _ lowBatteryText_plain).obeys_end p cmd
      · exact checkCompatible_images p cmd

end

/-! ## Goroutines along a run -/

/-- The command a goroutine handles. -/
def Routine.cmd : Routine → Command
  | .command cmd => cmd
  | .heartbeat => { action := "" }

/-- What a goroutine downloads and switches to. -/
theorem body_images (p : Process) (t : Routine) :
    Obeys (imageDiscipline p t.cmd) (fun _ _ => True) [] (body p t) := by
  by_cases hupdate : t.cmd.action = "update"
  · cases t with
    | heartbeat => exact absurd hupdate (by decide)
    | command cmd =>
        have hbody : body p (.command cmd) = handleUpdate p cmd := if_pos hupdate
        rw [hbody]
        exact handleUpdate_images p cmd
  · exact obeys_of_forall (fun _ _ h => absurd h hupdate) (fun _ _ => trivial) _ _

/-- A download is the same whoever makes it. -/
theorem downloadOf_thread (i : Nat) (op : Op) (r : op.Ret) :
    downloadOf ⟨i, op, r⟩ = downloadOf ⟨0, op, r⟩ := by
  cases op <;> rfl

/-- The automaton state of a goroutine is the list of its downloads. -/
theorem ghost_eq_downloads (p : Process) (cmd : Command) (i : Nat) (c : Config) :
    Machine.ghost (imageDiscipline p cmd) [] i c.trace = downloads i c := by
  have hfold : ∀ (events : List Record) (images : List (Option Bytes)),
      events.foldl (fun images e => imageNext images e.op e.ret) images =
        images ++ events.filterMap downloadOf := by
    intro events
    induction events with
    | nil => simp
    | cons e events ih =>
        intro images
        obtain ⟨i, op, r⟩ := e
        have hnext : imageNext images op r = images ++ (downloadOf ⟨i, op, r⟩).toList := by
          rw [downloadOf_thread i op r]
          rfl
        rw [List.foldl_cons, ih, hnext, List.append_assoc]
        cases hdownload : downloadOf ⟨i, op, r⟩ <;> simp [hdownload]
  exact hfold (Machine.eventsOf i c.trace) []

/-- Every switch of an update among its operations was to its own version and came after a
verified download. -/
def SwitchesVerified (p : Process) (cmd : Command) (images : List (Option Bytes))
    (events : List Record) : Prop :=
  ∀ e ∈ events, ∀ v, e.op = .setCurrentVersion v →
    v = cmd.version ∧ ∃ data, images = [some data] ∧ Verified p cmd data

theorem switchesVerified_next {p : Process} {cmd : Command} {images : List (Option Bytes)}
    {events : List Record} {e : Record} (h : SwitchesVerified p cmd images events)
    (hallowed : ImageAllowed p cmd images e.op) :
    SwitchesVerified p cmd (imageNext images e.op e.ret) (events ++ [e]) := by
  obtain ⟨i, op, r⟩ := e
  intro e' he' v hv
  rw [List.mem_append, List.mem_singleton] at he'
  cases op with
  | httpGet url =>
      rcases he' with he' | rfl
      · obtain ⟨-, data, hdata, -⟩ := h e' he' v hv
        -- A second download is not allowed.
        have hnone : images = [] := hallowed
        simp [hnone] at hdata
      · cases hv
  | setCurrentVersion w =>
      have hsame : imageNext images (.setCurrentVersion w) r = images := List.append_nil images
      rw [hsame]
      rcases he' with he' | rfl
      · exact h e' he' v hv
      · obtain rfl := Op.setCurrentVersion.inj hv
        exact hallowed
  | _ =>
      rcases he' with he' | rfl
      · have hsame := h e' he' v hv
        rwa [← List.append_nil images] at hsame
      · cases hv

/-- Every goroutine keeps to its discipline, and every update has switched as its discipline
says. -/
structure ImageInvariant (p : Process) (c : Config) : Prop where
  disciplined : Machine.Disciplined (fun t => imageDiscipline p t.cmd) (fun _ _ => True)
    (fun _ => []) c
  verified : c.AllGhosts (fun t => imageDiscipline p t.cmd) (fun _ => [])
    fun t images events => t.cmd.action = "update" → SwitchesVerified p t.cmd images events

/-- Nothing is downloaded at the start. -/
theorem imageInvariant_start (p : Process) (r : Robot) : ImageInvariant p (start p r) where
  disciplined := Machine.disciplined_initial _ _ _ _
  verified := Machine.allGhosts_initial _ _ _ _

/-- A step keeps every switch to a verified image. -/
theorem imageInvariant_step {p : Process} {c c' : Config} {l : Label}
    (hc : ImageInvariant p c) (h : step p c l = some c') : ImageInvariant p c' := by
  constructor
  · exact Machine.step_disciplined h hc.disciplined (body_images p) fun _ _ _ _ _ _ _ => trivial
  · apply Machine.step_allGhosts h hc.disciplined hc.verified
    · intro t _ e he
      simp at he
    · intro t images events e hswitches hallowed hupdate
      exact switchesVerified_next (hswitches hupdate) (hallowed hupdate)

/-- Whoever has switched in an update has downloaded one image, and verified it. -/
theorem switched_verified {p : Process} {r : Robot} {ls : List Label} {c : Config}
    (h : run (step p) (start p r) ls = some c) {i : Nat} {cmd : Command} {q : Handler Unit}
    (hi : c.thread i = some (.command cmd, q)) (hupdate : cmd.action = "update") {e : Record}
    (he : e ∈ c.trace) (hthread : e.thread = i) {v : String}
    (hswitch : e.op = .setCurrentVersion v) :
    v = cmd.version ∧ ∃ data, downloads i c = [some data] ∧ Verified p cmd data := by
  have hc : ImageInvariant p c :=
    run_invariant (fun _ _ _ hc hstep => imageInvariant_step hc hstep)
      (imageInvariant_start p r) h
  have hall := hc.verified i _ q hi hupdate
  have hghost := ghost_eq_downloads p cmd i c
  simp only [Routine.cmd, hghost] at hall
  have hmem : e ∈ Machine.eventsOf i c.trace :=
    List.mem_filter.mpr ⟨he, decide_eq_true hthread⟩
  exact hall e hmem v hswitch

end OtaRobot.Agent
