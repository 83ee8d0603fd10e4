import OtaRobot.Agent.Pipeline

/-!
# Switching the version and reporting success

A handler of an update and a handler of a rollback end in the same two messages.
Both switch the version before they report success, and to the version of their own
command.

Main results:

- Theorem {lit}`body_switches`: what a goroutine may switch and report, and when.
- Theorem {lit}`handleRollback_switches`: a rollback switches before it returns.
- Theorem {lit}`switched_of_success`: whoever reports success has switched.
-/

namespace OtaRobot.Agent

open Prog Transition

/-! ## The discipline -/

/-- The operation sets the version. -/
def Op.isSwitch : Op → Bool
  | .setCurrentVersion _ => true
  | _ => false

/-- The report of a success; every handler reports it with progress 100. -/
def Op.isSuccess : Op → Bool
  | .publishProgress update => update.status = "success"
  | _ => false

/-- The version is switched once, to {lit}`version`, and before success is reported. -/
def switchDiscipline (version : String) : Discipline Op.Ret Bool where
  allowed switched op :=
    (∀ v, op = .setCurrentVersion v → v = version ∧ switched = false) ∧
      (op.isSuccess = true → switched = true)
  rely _ _ _ := True
  next switched op _ := switched || op.isSwitch

/-- The procedure neither switches the version nor reports success. -/
abbrev Silent {α : Type} (m : Handler α) : Prop :=
  Always (fun _ _ => True) (fun op => op.isSwitch = false ∧ op.isSuccess = false) m

/-- An operation that is silent by itself. -/
theorem perform_silent {op : Op} (hswitch : op.isSwitch = false)
    (hsuccess : op.isSuccess = false) : Silent (perform op) :=
  ⟨⟨hswitch, hsuccess⟩, fun _ _ => trivial⟩

theorem trigger_silent (event : Event) : Silent (trigger event) :=
  perform_silent rfl rfl

/-- Writing the status is silent. -/
theorem setStatus_silent (status : String) : Silent (setStatus status) :=
  perform_silent rfl rfl

/-- A progress other than the success is silent. -/
theorem publishProgress_silent (progress : Nat) {status : String} (ecdsaMs sha256Ms : Option Nat)
    (h : status ≠ "success") :
    Silent (publishProgressWithMeta progress status ecdsaMs sha256Ms) :=
  publishProgress_always ⟨rfl, rfl⟩ fun _ => ⟨rfl, decide_eq_false h⟩

section

variable {version : String} {switched : Bool}

/-- A silent procedure may stand in front. -/
theorem Silent.obeys_bind {α β : Type} {m : Handler α} {f : α → Handler β}
    {post : Bool → β → Prop} (hm : Silent m)
    (hf : ∀ a, Obeys (switchDiscipline version) post switched (f a)) :
    Obeys (switchDiscipline version) post switched (m >>= f) := by
  apply Always.obeys_bind hm
  · exact fun _ _ _ => trivial
  · intro op hop
    constructor
    · intro v hv
      have hswitch : op.isSwitch = false := hop.1
      rw [hv] at hswitch
      simp [Op.isSwitch] at hswitch
    · intro hsuccess
      rw [hop.2] at hsuccess
      simp at hsuccess
  · intro op r hop
    show (switched || op.isSwitch) = switched
    rw [hop.1, Bool.or_false]
  · exact hf

/-- At the end of a handler nothing is promised. -/
theorem Silent.obeys_end {α : Type} {m : Handler α} (hm : Silent m) :
    Obeys (switchDiscipline version) (fun _ _ => True) switched m := by
  rw [← bind_done m]
  exact hm.obeys_bind fun _ => trivial

/-- The end of both handlers: the switch, and then the report. -/
theorem switchAndReport_obeys (version : String) :
    Obeys (switchDiscipline version) (fun switched _ => switched = true) false (do
      setCurrentVersion version
      setStatus "online"
      publishProgressWithMeta 100 "success") := by
  have hswitch : ∀ v, Op.setCurrentVersion version = .setCurrentVersion v →
      v = version ∧ false = false :=
    fun v hv => ⟨(Op.setCurrentVersion.inj hv).symm, rfl⟩
  refine ⟨⟨hswitch, by simp [Op.isSuccess]⟩, fun _ _ => ?_⟩
  apply Silent.obeys_bind (setStatus_silent "online")
  intro _
  apply Silent.obeys_bind (m := getState) (perform_silent rfl rfl)
  intro fsmState
  exact ⟨⟨fun v hv => Op.noConfusion hv, fun _ => rfl⟩, fun _ _ => rfl⟩

end

/-! ## The handlers -/

/-- A rollback handler switches before it reports success and returns. -/
theorem handleRollback_switches (cmd : Command) :
    Obeys (switchDiscipline cmd.version) (fun switched _ => switched = true) false
      (handleRollback cmd) := by
  apply Silent.obeys_bind (setStatus_silent "updating")
  intro _
  apply Silent.obeys_bind (trigger_silent .rollbackCommand)
  intro _
  apply Silent.obeys_bind (publishProgress_silent 50 none none (by decide))
  intro _
  apply Silent.obeys_bind (trigger_silent .rollbackComplete)
  intro _
  exact switchAndReport_obeys cmd.version

section

variable (p : Process) (cmd : Command)

/-- The version is set before the success is reported. -/
theorem completeUpdate_switches :
    Obeys (switchDiscipline cmd.version) (fun _ _ => True) false (completeUpdate cmd) := by
  apply Silent.obeys_bind (publishProgress_silent 90 none none (by decide))
  intro _
  apply Silent.obeys_bind (trigger_silent .installOK)
  intro _
  apply Silent.obeys_bind (trigger_silent .rebootOK)
  intro _
  exact (switchAndReport_obeys cmd.version).mono fun _ _ _ => trivial

/-- Reporting an error is silent. -/
theorem publishError_silent (text : String) : Silent (publishError text) :=
  perform_silent rfl rfl

/-- What is local is silent. -/
theorem Local.silent {α : Type} {m : Handler α} (h : Local m) : Silent m := by
  apply Always.mono (fun _ _ _ => trivial) ?_ h
  intro op hlocal
  cases op <;> first | exact ⟨rfl, rfl⟩ | cases hlocal

/-- An aborted update switches nothing. -/
theorem abortUpdate_switches (event : Event) {text : Handler String} (htext : Local text) :
    Obeys (switchDiscipline cmd.version) (fun _ _ => True) false (abortUpdate event text) := by
  apply Silent.obeys_bind (trigger_silent event)
  intro _
  apply Silent.obeys_bind htext.silent
  intro t
  apply Silent.obeys_bind (publishError_silent t)
  intro _
  apply Silent.obeys_bind (trigger_silent .reset)
  intro _
  exact (setStatus_silent "online").obeys_end

/-- A failed installation switches nothing. -/
theorem failInstall_switches (text : String) :
    Obeys (switchDiscipline cmd.version) (fun _ _ => True) false (failInstall text) := by
  apply Silent.obeys_bind (trigger_silent .installFail)
  intro _
  apply Silent.obeys_bind (publishError_silent text)
  intro _
  exact (setStatus_silent "error").obeys_end

/-- The installation switches to the version of the command. -/
theorem installFirmware_switches (ecdsaMs : Nat) :
    Obeys (switchDiscipline cmd.version) (fun _ _ => True) false
      (installFirmware p cmd ecdsaMs) := by
  apply Silent.obeys_bind (trigger_silent .verifyOK)
  intro _
  apply Silent.obeys_bind (m := elapsedMs) (perform_silent rfl rfl)
  intro sha256Ms
  apply Silent.obeys_bind (publishProgress_silent 20 _ _ (by decide))
  intro _
  apply Silent.obeys_bind (publishProgress_silent 25 _ _ (by decide))
  intro _
  apply Silent.obeys_bind (publishProgress_silent 50 _ _ (by decide))
  intro _
  apply Silent.obeys_bind (publishProgress_silent 75 _ _ (by decide))
  intro _
  dsimp only
  split
  · exact failInstall_switches cmd _
  · split
    · apply Silent.obeys_bind (perform_silent rfl rfl)
      intro random
      split
      · exact failInstall_switches cmd _
      · exact completeUpdate_switches cmd
    · exact completeUpdate_switches cmd

/-- The verification leads to the installation or nowhere. -/
theorem verifyFirmware_switches (pub : PublicKey) (data : Bytes) :
    Obeys (switchDiscipline cmd.version) (fun _ _ => True) false
      (verifyFirmware p cmd pub data) := by
  apply Silent.obeys_bind (trigger_silent .downloadOK)
  intro _
  dsimp only
  split
  · exact abortUpdate_switches cmd _ (pure_local _)
  · split
    · exact abortUpdate_switches cmd _ (pure_local _)
    · apply Silent.obeys_bind (m := elapsedMs) (perform_silent rfl rfl)
      intro ecdsaMs
      split
      · exact installFirmware_switches p cmd ecdsaMs
      · exact abortUpdate_switches cmd _ (pure_local _)

/-- The download leads to the verification or nowhere. -/
theorem downloadFirmware_switches (pub : PublicKey) :
    Obeys (switchDiscipline cmd.version) (fun _ _ => True) false
      (downloadFirmware p cmd pub) := by
  apply Silent.obeys_bind (setStatus_silent "updating")
  intro _
  apply Silent.obeys_bind (publishProgress_silent 0 _ _ (by decide))
  intro _
  apply Silent.obeys_bind (perform_silent rfl rfl)
  intro response
  split
  · exact abortUpdate_switches cmd _ (pure_local _)
  · split
    · exact abortUpdate_switches cmd _ (pure_local _)
    · split
      · exact abortUpdate_switches cmd _ (pure_local _)
      · exact verifyFirmware_switches p cmd pub _

/-- The hardware and the key check lead to the download or nowhere. -/
theorem checkCompatible_switches :
    Obeys (switchDiscipline cmd.version) (fun _ _ => True) false (checkCompatible p cmd) := by
  unfold checkCompatible
  split
  · exact abortUpdate_switches cmd _ (pure_local _)
  · split
    · exact abortUpdate_switches cmd _ (pure_local _)
    · exact downloadFirmware_switches p cmd _

/-- An update switches to the version of its command, and then reports it. -/
theorem handleUpdate_switches :
    Obeys (switchDiscipline cmd.version) (fun _ _ => True) false (handleUpdate p cmd) := by
  apply Silent.obeys_bind (trigger_silent .updateCommand)
  intro r
  split
  · apply Silent.obeys_bind (m := getState) (perform_silent rfl rfl)
    intro s
    exact (publishError_silent _).obeys_end
  · apply Silent.obeys_bind (m := readActivity) (perform_silent rfl rfl)
    intro activity
    split
    · exact abortUpdate_switches cmd _ busyText_local
    · apply Silent.obeys_bind lowBattery_local.silent
      intro low
      split
      · exact abortUpdate_switches cmd _ lowBatteryText_local
      · exact checkCompatible_switches p cmd

end

/-- What a goroutine may switch and report. -/
theorem body_switches (p : Process) (t : Routine) :
    Obeys (switchDiscipline t.version) (fun _ _ => True) false (body p t) := by
  cases t with
  | heartbeat => exact (heartbeat_local p).silent.obeys_end
  | command cmd =>
      show Obeys (switchDiscipline cmd.version) (fun _ _ => True) false (messagePubHandler p cmd)
      unfold messagePubHandler
      split
      · exact handleUpdate_switches p cmd
      · split
        · exact (handleRollback_switches cmd).mono fun _ _ _ => trivial
        · split
          · exact (applySettings_local cmd).silent.obeys_end
          · trivial

/-! ## Goroutines along a run -/

/-- Goroutine {lit}`i` has switched the version. -/
def Switched (i : Nat) (c : Config) : Prop :=
  ∃ e ∈ c.trace, e.thread = i ∧ e.op.isSwitch = true

/-- The automaton remembers a switch. -/
theorem foldl_switched (version : String) (events : List Record) (switched : Bool) :
    events.foldl (fun b e => (switchDiscipline version).next b e.op e.ret) switched =
      (switched || events.any fun e => e.op.isSwitch) := by
  induction events generalizing switched with
  | nil => simp
  | cons e events ih =>
      rw [List.foldl_cons, ih, List.any_cons, ← Bool.or_assoc]
      rfl

/-- What the automaton remembers is in the trace. -/
theorem switched_of_ghost {version : String} {i : Nat} {c : Config}
    (h : Machine.ghost (switchDiscipline version) false i c.trace = true) : Switched i c := by
  rw [Machine.ghost, foldl_switched, Bool.false_or, List.any_eq_true] at h
  obtain ⟨e, he, hswitch⟩ := h
  obtain ⟨hmem, hthread⟩ := List.mem_filter.mp he
  exact ⟨e, hmem, of_decide_eq_true hthread, hswitch⟩

/-- Every goroutine keeps to its discipline. -/
abbrev Switches (c : Config) : Prop :=
  Machine.Disciplined (fun t => switchDiscipline t.version) (fun _ _ => True) (fun _ => false) c

/-- Nobody has switched at the start. -/
theorem switches_start (p : Process) (r : Robot) : Switches (start p r) :=
  Machine.disciplined_initial _ _ _ _

/-- A step keeps a switch before every success. -/
theorem switches_step {p : Process} {c c' : Config} {l : Label} (hc : Switches c)
    (h : step p c l = some c') : Switches c' :=
  Machine.step_disciplined h hc (body_switches p) fun _ _ _ _ _ _ _ => trivial

/-- Whoever reports success has switched. -/
theorem switched_of_success {c : Config} {i : Nat} {t : Routine} {op : Op}
    {k : op.Ret → Handler Unit} (hc : Switches c) (hi : c.thread i = some (t, .call op k))
    (hsuccess : op.isSuccess = true) : Switched i c := by
  obtain ⟨⟨-, hallowed⟩, -⟩ := hc.obeys i t _ hi
  exact switched_of_ghost (hallowed hsuccess)

end OtaRobot.Agent
