import OtaRobot.Agent.Operations

/-!
# One update at a time on an agent

Any number of goroutines trigger the one state machine of an agent, and most of them
carry on when their event is rejected.  What a goroutine has triggered itself says
where in an update it stands; the state machine is in a state of an update exactly
when one goroutine stands there, and it is that goroutine's state.

Main results:

- Theorem {lit}`body_stages`: where {lit}`handleUpdate` triggers what.
- Theorem {lit}`pipelineInvariant_step`: no other trigger is accepted meanwhile.
- Theorem {lit}`one_pipeline`: at most one update is under way, in the state of the machine.
-/

namespace OtaRobot.Agent

open Prog Transition

/-! ## What a goroutine has triggered -/

/-- A trigger a goroutine has issued, with the change if it was accepted. -/
structure Attempt where
  event : Event
  change : Option Change
deriving DecidableEq, Repr

/-- The attempt of a trigger, if the operation is one. -/
def attemptOf : Record → Option Attempt
  | ⟨_, .trigger event, r⟩ => some ⟨event, accepted r⟩
  | _ => none

/-- The triggers of goroutine {lit}`i`, in order. -/
def attempts (i : Nat) (c : Config) : List Attempt :=
  (Machine.eventsOf i c.trace).filterMap attemptOf

/-- The point of an update a trigger leads to.  The update begins with an accepted
command; from there on the event decides, accepted or not. -/
def stageAfter (stage : Option State) (a : Attempt) : Option State :=
  match stage, a.event with
  | none, .updateCommand => if a.change = none then none else some .downloading
  | none, _ => none
  | some _, .downloadOK => some .verifying
  | some _, .verifyOK => some .installing
  | some _, .installOK => some .rebooting
  | some _, .rebootOK | some _, .downloadFail | some _, .verifyFail
  | some _, .installFail => none
  | some s, _ => some s

/-- Where in an update a goroutine stands, {lean}`none` before and after it. -/
def stage (as : List Attempt) : Option State :=
  as.foldl stageAfter none

/-- The states a goroutine has led the state machine into. -/
def path (as : List Attempt) : List State :=
  as.filterMap fun a => a.change.map fun change => change.next

/-- The path of an update. -/
def completePath : List State :=
  [.downloading, .verifying, .installing, .rebooting, .online]

theorem stage_append (as : List Attempt) (a : Attempt) :
    stage (as ++ [a]) = stageAfter (stage as) a := by
  simp [stage]

/-- An accepted attempt makes the path longer by one state. -/
theorem path_append (as : List Attempt) (event : Event) (change : Change) :
    path (as ++ [⟨event, some change⟩]) = path as ++ [change.next] := by
  simp [path]

/-- The point of an update is one of its states. -/
theorem stageAfter_isPipeline {stage : Option State} {a : Attempt} {s : State}
    (hstage : ∀ s, stage = some s → s.isPipeline = true) (h : stageAfter stage a = some s) :
    s.isPipeline = true := by
  cases stage with
  | none =>
      cases hevent : a.event <;> simp only [stageAfter, hevent] at h
      case updateCommand =>
        split at h
        · simp at h
        · obtain rfl := Option.some.inj h
          rfl
      all_goals simp at h
  | some s₀ =>
      have hs₀ : s₀.isPipeline = true := hstage s₀ rfl
      cases hevent : a.event <;> simp only [stageAfter, hevent, Option.some.injEq] at h <;>
        first | (subst h; first | rfl | exact hs₀) | simp at h

/-- A stage is one of the states of an update. -/
theorem stage_isPipeline {as : List Attempt} {s : State} (h : stage as = some s) :
    s.isPipeline = true := by
  have hfold : ∀ (as : List Attempt) (st : Option State),
      (∀ s, st = some s → s.isPipeline = true) →
        ∀ s, as.foldl stageAfter st = some s → s.isPipeline = true := by
    intro as
    induction as with
    | nil => exact fun _ hst => hst
    | cons a as ih =>
        intro st hst
        exact ih _ fun s hs => stageAfter_isPipeline hst hs
  exact hfold as none (by simp) s h

/-- A transition of the table moves the point of an update along with the state
machine, or ends the update. -/
theorem stageAfter_transition {s next : State} {event : Event} (hs : s.isPipeline = true)
    (h : transitions s event = some next) (change : Option Change) :
    stageAfter (some s) ⟨event, change⟩ = if next.isPipeline then some next else none := by
  cases s <;> cases event <;> simp_all [transitions, State.isPipeline] <;> subst next <;> rfl

/-- Before and after an update only an accepted update command matters. -/
theorem stageAfter_none (a : Attempt) :
    stageAfter none a =
      if a.event = .updateCommand ∧ a.change ≠ none then some .downloading else none := by
  obtain ⟨event, change⟩ := a
  cases event <;> simp [stageAfter]

/-! ## The discipline of the handlers -/

/-- In the middle of an update a goroutine triggers an event its state accepts;
elsewhere it triggers no event of an update, and only an update handler starts one.
An update handler switches the version at the end of a complete path. -/
def StageAllowed (update : Bool) (version : String) (as : List Attempt) : Op → Prop
  | .trigger event =>
      match stage as with
      | some s => (transitions s event).isSome = true
      | none => event.isStage = false ∧ (event = .updateCommand → update = true)
  | .setCurrentVersion v =>
      v = version ∧ (update = true → stage as = none ∧ path as = completePath)
  | _ => True

/-- An accepted trigger took a transition of the table, and the triggers of an update
are accepted in its own state. -/
def StageAnswer (as : List Attempt) : (op : Op) → op.Ret → Prop
  | .trigger event, r =>
      (∀ change, accepted r = some change →
        transitions change.prev event = some change.next) ∧
      ∀ s, stage as = some s → ∃ change, accepted r = some change ∧ change.prev = s
  | _, _ => True

/-- The attempts after an operation. -/
def stageNext (as : List Attempt) (op : Op) (r : op.Ret) : List Attempt :=
  as ++ (attemptOf ⟨0, op, r⟩).toList

/-- A handler triggers what its stage allows. -/
def stageDiscipline (update : Bool) (version : String) :
    Discipline Op.Ret (List Attempt) where
  allowed := StageAllowed update version
  rely := StageAnswer
  next := stageNext

/-! ## Quiet procedures -/

/-- The operation is neither a trigger nor a switch of the version. -/
def Op.isQuiet : Op → Bool
  | .trigger _ | .setCurrentVersion _ => false
  | _ => true

/-- The operation concerns the settings and the heartbeat only. -/
def Op.isLocal : Op → Bool
  | .trigger _ | .setStatus _ | .setCurrentVersion _ | .publishProgress _ | .publishError _ =>
      false
  | _ => true

/-- The procedure works on the settings and the heartbeat only. -/
abbrev Local {α : Type} (m : Handler α) : Prop :=
  Always (fun _ _ => True) (fun op => op.isLocal = true) m

/-- The procedure triggers nothing and does not switch the version. -/
abbrev Quiet {α : Type} (m : Handler α) : Prop :=
  Always (fun _ _ => True) (fun op => op.isQuiet = true) m

/-- An operation that is quiet by itself. -/
theorem perform_quiet {op : Op} (h : op.isQuiet = true) : Quiet (perform op) :=
  ⟨h, fun _ _ => trivial⟩

theorem pure_quiet {α : Type} (a : α) : Quiet (pure a : Handler α) :=
  trivial

/-- Writing the status triggers nothing. -/
theorem setStatus_quiet (status : String) : Quiet (setStatus status) :=
  perform_quiet rfl

/-- Reporting an error triggers nothing. -/
theorem publishError_quiet (text : String) : Quiet (publishError text) :=
  perform_quiet rfl

theorem publishProgress_quiet (progress : Nat) (status : String) (ecdsaMs sha256Ms : Option Nat) :
    Quiet (publishProgressWithMeta progress status ecdsaMs sha256Ms) :=
  publishProgress_always rfl fun _ => rfl

/-- What is local is quiet. -/
theorem Local.quiet {α : Type} {m : Handler α} (h : Local m) : Quiet m := by
  apply Always.mono (fun _ _ _ => trivial) ?_ h
  intro op hlocal
  cases op <;> first | rfl | cases hlocal

/-- An operation that is local by itself. -/
theorem perform_local {op : Op} (h : op.isLocal = true) : Local (perform op) :=
  ⟨h, fun _ _ => trivial⟩

theorem pure_local {α : Type} (a : α) : Local (pure a : Handler α) :=
  trivial

/-- The text of the activity interlock reads local variables. -/
theorem busyText_local : Local busyText :=
  busyText_always rfl

/-- The text of the battery interlock reads local variables. -/
theorem lowBatteryText_local : Local lowBatteryText :=
  lowBatteryText_always rfl

/-- The battery interlock reads local variables. -/
theorem lowBattery_local : Local lowBattery :=
  lowBattery_always rfl rfl

/-- A settings command writes local variables. -/
theorem applySettings_local (cmd : Command) : Local (applySettings cmd) := by
  have hactivity : Local (applyActivity cmd.activity) := by
    unfold applyActivity
    split
    · exact perform_local rfl
    · exact pure_local _
  have hbattery : Local (applyBattery cmd.batteryLevel) := by
    cases cmd.batteryLevel with
    | some level => exact perform_local rfl
    | none => exact pure_local _
  have hcharging : Local (applyCharging cmd.isCharging) := by
    cases cmd.isCharging with
    | some charging => exact perform_local rfl
    | none => exact pure_local _
  exact hactivity.bind fun _ => hbattery.bind fun _ => hcharging

theorem chargeBattery_local : Local chargeBattery := by
  apply Always.bind (perform_local rfl)
  intro battery
  apply Always.bind (perform_local rfl)
  intro _
  apply Always.bind (perform_local rfl)
  intro battery
  split
  · exact perform_local rfl
  · exact pure_local _

theorem drainBattery_local : Local drainBattery := by
  apply Always.bind (perform_local rfl)
  intro battery
  split
  · apply Always.bind (perform_local rfl)
    intro battery'
    exact perform_local rfl
  · exact pure_local _

theorem runBattery_local : Local runBattery := by
  apply Always.bind (perform_local rfl)
  intro charging
  split
  · exact chargeBattery_local
  · exact drainBattery_local

theorem batteryTelemetry_local : Local batteryTelemetry := by
  apply Always.bind (perform_local rfl)
  intro isAGV
  split
  · apply Always.bind runBattery_local
    intro _
    apply Always.bind (perform_local rfl)
    intro battery
    apply Always.bind (perform_local rfl)
    intro charging
    exact pure_local _
  · exact pure_local _

theorem heartbeat_local (p : Process) : Local (heartbeat p) := by
  apply Always.bind batteryTelemetry_local
  intro battery
  apply Always.bind (perform_local rfl)
  intro noise
  apply Always.bind (perform_local rfl)
  intro activity
  apply Always.bind (perform_local rfl)
  intro version
  apply Always.bind (perform_local rfl)
  intro status
  apply Always.bind (perform_local rfl)
  intro fsmState
  apply Always.bind (perform_local rfl)
  intro timestamp
  exact perform_local rfl

section

variable (update : Bool) (version : String)

/-- A quiet operation is no attempt. -/
theorem stageNext_quiet (as : List Attempt) {op : Op} (r : op.Ret) (h : op.isQuiet = true) :
    stageNext as op r = as := by
  cases op with
  | trigger event => simp [Op.isQuiet] at h
  | _ => exact List.append_nil as

/-- A quiet operation is allowed at every stage. -/
theorem stageAllowed_quiet (as : List Attempt) {op : Op} (h : op.isQuiet = true) :
    StageAllowed update version as op := by
  cases op with
  | trigger event => simp [Op.isQuiet] at h
  | setCurrentVersion v => simp [Op.isQuiet] at h
  | _ => trivial

/-- A quiet procedure may stand in front. -/
theorem Quiet.obeys_bind {α β : Type} {m : Handler α} {f : α → Handler β}
    {post : List Attempt → β → Prop} {as : List Attempt} (hm : Quiet m)
    (hf : ∀ a, Obeys (stageDiscipline update version) post as (f a)) :
    Obeys (stageDiscipline update version) post as (m >>= f) := by
  apply Always.obeys_bind hm
  · exact fun _ _ _ => trivial
  · exact fun op hquiet => stageAllowed_quiet update version as hquiet
  · exact fun op r hquiet => stageNext_quiet as r hquiet
  · exact hf

/-- At the end of a handler nothing is promised. -/
theorem Quiet.obeys_end {α : Type} {m : Handler α} (hm : Quiet m) (as : List Attempt) :
    Obeys (stageDiscipline update version) (fun _ _ => True) as m := by
  rw [← bind_done m]
  exact Quiet.obeys_bind update version hm fun _ => trivial

/-- A trigger in the middle of an update moves it on. -/
theorem trigger_stage {β : Type} {f : Except String Change → Handler β}
    {post : List Attempt → β → Prop} {as : List Attempt} {event : Event} {s next : State}
    (hs : stage as = some s) (htrans : transitions s event = some next)
    (hf : ∀ as' r, stage as' = (if next.isPipeline then some next else none) →
      path as' = path as ++ [next] → Obeys (stageDiscipline update version) post as' (f r)) :
    Obeys (stageDiscipline update version) post as (trigger event >>= f) := by
  constructor
  · show StageAllowed update version as (.trigger event)
    simp [StageAllowed, hs, htrans]
  · intro r hr
    obtain ⟨hvalid, haccepted⟩ := hr
    obtain ⟨change, hchange, hprev⟩ := haccepted s hs
    have hnext : change.next = next := by
      have htable := hvalid change hchange
      rw [hprev, htrans] at htable
      exact (Option.some.inj htable).symm
    have hattempts : (stageDiscipline update version).next as (.trigger event) r =
        as ++ [⟨event, some change⟩] := by
      show as ++ [⟨event, accepted r⟩] = _
      rw [hchange]
    refine Obeys.of_eq hattempts (hf _ r ?_ ?_)
    · rw [stage_append, hs, stageAfter_transition (stage_isPipeline hs) htrans]
    · rw [path_append, hnext]

/-- Outside an update a leftover trigger changes nothing for the goroutine. -/
theorem trigger_leftover {β : Type} {f : Except String Change → Handler β}
    {post : List Attempt → β → Prop} {as : List Attempt} {event : Event}
    (hs : stage as = none) (hevent : event.isStage = false) (hcommand : event ≠ .updateCommand)
    (hf : ∀ as' r, stage as' = none → Obeys (stageDiscipline update version) post as' (f r)) :
    Obeys (stageDiscipline update version) post as (trigger event >>= f) := by
  constructor
  · show StageAllowed update version as (.trigger event)
    simp only [StageAllowed, hs]
    exact ⟨hevent, fun h => absurd h hcommand⟩
  · intro r _
    apply hf
    show stage (as ++ [⟨event, accepted r⟩]) = none
    rw [stage_append, hs, stageAfter_none, if_neg]
    intro h
    exact hcommand h.1

/-- An aborted update leaves the pipeline. -/
theorem abortUpdate_stages {as : List Attempt} {s next : State} {event : Event}
    {text : Handler String} (hs : stage as = some s) (htrans : transitions s event = some next)
    (hnext : next.isPipeline = false) (htext : Quiet text) :
    Obeys (stageDiscipline update version) (fun _ _ => True) as (abortUpdate event text) := by
  apply trigger_stage update version hs htrans
  intro as' _ hstage _
  rw [if_neg (by simp [hnext])] at hstage
  apply Quiet.obeys_bind _ _ htext
  intro t
  apply Quiet.obeys_bind _ _ (publishError_quiet t)
  intro _
  apply trigger_leftover update version hstage rfl (by simp)
  intro as'' _ _
  exact Quiet.obeys_end _ _ (setStatus_quiet "online") as''

/-- A failed installation leaves the pipeline. -/
theorem failInstall_stages {as : List Attempt} (text : String)
    (hs : stage as = some .installing) :
    Obeys (stageDiscipline update version) (fun _ _ => True) as (failInstall text) := by
  apply trigger_stage update version hs rfl
  intro as' _ _ _
  apply Quiet.obeys_bind _ _ (publishError_quiet text)
  intro _
  exact Quiet.obeys_end _ _ (setStatus_quiet "error") as'

end

/-! ## Where an update handler stands -/

section

variable (p : Process) (cmd : Command)

/-- An update is completed after its whole path. -/
theorem completeUpdate_stages {as : List Attempt} (hs : stage as = some .installing)
    (hpath : path as = [.downloading, .verifying, .installing]) :
    Obeys (stageDiscipline true cmd.version) (fun _ _ => True) as (completeUpdate cmd) := by
  apply Quiet.obeys_bind _ _ (publishProgress_quiet _ _ _ _)
  intro _
  apply trigger_stage _ _ hs rfl
  intro as₁ _ hs₁ hpath₁
  apply trigger_stage _ _ hs₁ rfl
  intro as₂ _ hs₂ hpath₂
  have hcomplete : path as₂ = completePath := by
    rw [hpath₂, hpath₁, hpath]
    rfl
  refine ⟨⟨rfl, fun _ => ⟨hs₂, hcomplete⟩⟩, fun _ _ => ?_⟩
  apply Quiet.obeys_bind _ _ (setStatus_quiet _)
  intro _
  exact Quiet.obeys_end _ _ (publishProgress_quiet _ _ _ _) _

/-- The installation comes after the verification. -/
theorem installFirmware_stages (ecdsaMs : Nat) {as : List Attempt}
    (hs : stage as = some .verifying) (hpath : path as = [.downloading, .verifying]) :
    Obeys (stageDiscipline true cmd.version) (fun _ _ => True) as
      (installFirmware p cmd ecdsaMs) := by
  apply trigger_stage _ _ hs rfl
  intro as₁ _ hs₁ hpath₁
  rw [hpath] at hpath₁
  apply Quiet.obeys_bind _ _ (perform_quiet rfl)
  intro sha256Ms
  apply Quiet.obeys_bind _ _ (publishProgress_quiet _ _ _ _)
  intro _
  apply Quiet.obeys_bind _ _ (publishProgress_quiet _ _ _ _)
  intro _
  apply Quiet.obeys_bind _ _ (publishProgress_quiet _ _ _ _)
  intro _
  apply Quiet.obeys_bind _ _ (publishProgress_quiet _ _ _ _)
  intro _
  dsimp only
  split
  · exact failInstall_stages _ _ _ hs₁
  · split
    · apply Quiet.obeys_bind _ _ (perform_quiet rfl)
      intro random
      split
      · exact failInstall_stages _ _ _ hs₁
      · exact completeUpdate_stages cmd hs₁ hpath₁
    · exact completeUpdate_stages cmd hs₁ hpath₁

/-- The verification comes after the download. -/
theorem verifyFirmware_stages (pub : PublicKey) (data : Bytes) {as : List Attempt}
    (hs : stage as = some .downloading) (hpath : path as = [.downloading]) :
    Obeys (stageDiscipline true cmd.version) (fun _ _ => True) as
      (verifyFirmware p cmd pub data) := by
  apply trigger_stage _ _ hs rfl
  intro as₁ _ hs₁ hpath₁
  rw [hpath] at hpath₁
  dsimp only
  split
  · exact abortUpdate_stages _ _ hs₁ rfl rfl (pure_quiet _)
  · split
    · exact abortUpdate_stages _ _ hs₁ rfl rfl (pure_quiet _)
    · apply Quiet.obeys_bind _ _ (perform_quiet rfl)
      intro ecdsaMs
      split
      · exact installFirmware_stages p cmd ecdsaMs hs₁ hpath₁
      · exact abortUpdate_stages _ _ hs₁ rfl rfl (pure_quiet _)

theorem downloadFirmware_stages (pub : PublicKey) {as : List Attempt}
    (hs : stage as = some .downloading) (hpath : path as = [.downloading]) :
    Obeys (stageDiscipline true cmd.version) (fun _ _ => True) as
      (downloadFirmware p cmd pub) := by
  apply Quiet.obeys_bind _ _ (setStatus_quiet _)
  intro _
  apply Quiet.obeys_bind _ _ (publishProgress_quiet _ _ _ _)
  intro _
  apply Quiet.obeys_bind _ _ (perform_quiet rfl)
  intro response
  split
  · exact abortUpdate_stages _ _ hs rfl rfl (pure_quiet _)
  · split
    · exact abortUpdate_stages _ _ hs rfl rfl (pure_quiet _)
    · split
      · exact abortUpdate_stages _ _ hs rfl rfl (pure_quiet _)
      · exact verifyFirmware_stages p cmd pub _ hs hpath

/-- The hardware and the key check keep the stage or abort. -/
theorem checkCompatible_stages {as : List Attempt} (hs : stage as = some .downloading)
    (hpath : path as = [.downloading]) :
    Obeys (stageDiscipline true cmd.version) (fun _ _ => True) as (checkCompatible p cmd) := by
  unfold checkCompatible
  split
  · exact abortUpdate_stages _ _ hs rfl rfl (pure_quiet _)
  · split
    · exact abortUpdate_stages _ _ hs rfl rfl (pure_quiet _)
    · exact downloadFirmware_stages p cmd _ hs hpath

/-- The interlocks keep the stage or abort. -/
theorem checkInterlocks_stages {as : List Attempt} (hs : stage as = some .downloading)
    (hpath : path as = [.downloading]) :
    Obeys (stageDiscipline true cmd.version) (fun _ _ => True) as (checkInterlocks p cmd) := by
  apply Quiet.obeys_bind _ _ (perform_quiet rfl)
  intro activity
  split
  · exact abortUpdate_stages _ _ hs rfl rfl busyText_local.quiet
  · apply Quiet.obeys_bind _ _ lowBattery_local.quiet
    intro low
    split
    · exact abortUpdate_stages _ _ hs rfl rfl lowBatteryText_local.quiet
    · exact checkCompatible_stages p cmd hs hpath

/-- An update handler starts outside the pipeline and keeps to its order. -/
theorem handleUpdate_stages :
    Obeys (stageDiscipline true cmd.version) (fun _ _ => True) [] (handleUpdate p cmd) := by
  refine ⟨⟨rfl, fun _ => rfl⟩, ?_⟩
  rintro (error | change) hr
  · apply Quiet.obeys_bind _ _ (perform_quiet rfl)
    intro s
    exact Quiet.obeys_end _ _ (publishError_quiet _) _
  · have hdownloading : change.next = .downloading := by
      have htable : transitions change.prev .updateCommand = some change.next := hr.1 change rfl
      cases hprev : change.prev <;> rw [hprev] at htable <;>
        first | exact (Option.some.inj htable).symm | cases htable
    apply checkInterlocks_stages p cmd
    · show stage ([] ++ [⟨.updateCommand, some change⟩]) = _
      simp [stage, stageAfter]
    · show path ([] ++ [⟨.updateCommand, some change⟩]) = _
      rw [path_append, hdownloading]
      rfl

/-- A rollback handler enters no state of the pipeline. -/
theorem handleRollback_stages :
    Obeys (stageDiscipline false cmd.version) (fun _ _ => True) [] (handleRollback cmd) := by
  apply Quiet.obeys_bind _ _ (setStatus_quiet _)
  intro _
  apply trigger_leftover _ _ rfl rfl (by simp)
  intro as _ hs
  apply Quiet.obeys_bind _ _ (publishProgress_quiet _ _ _ _)
  intro _
  apply trigger_leftover _ _ hs rfl (by simp)
  intro as' _ _
  refine ⟨⟨rfl, by simp⟩, fun _ _ => ?_⟩
  apply Quiet.obeys_bind _ _ (setStatus_quiet _)
  intro _
  exact Quiet.obeys_end _ _ (publishProgress_quiet _ _ _ _) _

end

/-! ## The discipline of a goroutine -/

/-- The goroutine runs {lit}`handleUpdate`. -/
def Routine.isUpdate : Routine → Bool
  | .command cmd => cmd.action = "update"
  | .heartbeat => false

/-- The version a goroutine may switch to. -/
def Routine.version : Routine → String
  | .command cmd => cmd.version
  | .heartbeat => ""

/-- The discipline of a goroutine. -/
def routineDiscipline (t : Routine) : Discipline Op.Ret (List Attempt) :=
  stageDiscipline t.isUpdate t.version

/-- Every goroutine keeps to its discipline. -/
theorem body_stages (p : Process) (t : Routine) :
    Obeys (routineDiscipline t) (fun _ _ => True) [] (body p t) := by
  cases t with
  | heartbeat => exact Quiet.obeys_end _ _ (heartbeat_local p).quiet []
  | command cmd =>
      simp only [routineDiscipline, body, messagePubHandler, Routine.version]
      split
      · rename_i hupdate
        rw [show Routine.isUpdate (.command cmd) = true from decide_eq_true hupdate]
        exact handleUpdate_stages p cmd
      · rename_i hupdate
        rw [show Routine.isUpdate (.command cmd) = false from decide_eq_false hupdate]
        split
        · exact handleRollback_stages cmd
        · split
          · exact Quiet.obeys_end _ _ (applySettings_local cmd).quiet []
          · trivial

/-! ## One owner of the state machine -/

/-- The points {lit}`f` at which the goroutines stand fit the state {lit}`s` of the state
machine: it is in a state of an update exactly when one goroutine stands there. -/
structure Exclusive (s : State) (f : Nat → Option State) : Prop where
  states : ∀ i t, f i = some t → t.isPipeline = true
  matched : ∀ i t, f i = some t → s = t
  owned : s.isPipeline = true → ∃ i t, f i = some t
  alone : ∀ i j t u, f i = some t → f j = some u → i = j

/-- While the state machine is in no state of an update, no goroutine stands in one. -/
theorem Exclusive.none_of_idle {s : State} {f : Nat → Option State} (h : Exclusive s f)
    (hs : s.isPipeline = false) (j : Nat) : f j = none := by
  cases hj : f j with
  | none => rfl
  | some t =>
      have hpipeline : s.isPipeline = true := by
        rw [h.matched j t hj]
        exact h.states j t hj
      simp [hs] at hpipeline

/-- Outside the pipeline no goroutine has a stage. -/
theorem exclusive_of_none {s : State} {f : Nat → Option State} (hs : s.isPipeline = false)
    (hf : ∀ j, f j = none) : Exclusive s f where
  states i t hi := by simp [hf i] at hi
  matched i t hi := by simp [hf i] at hi
  owned hpipeline := by simp [hs] at hpipeline
  alone i j t u hi := by simp [hf i] at hi

/-- One goroutine stands where the state machine is. -/
theorem exclusive_of_owner {s : State} {f : Nat → Option State} {i : Nat}
    (hs : s.isPipeline = true) (hf : ∀ j, f j = if j = i then some s else none) :
    Exclusive s f := by
  have howner : ∀ j t, f j = some t → j = i ∧ s = t := by
    intro j t hj
    rw [hf j] at hj
    split at hj
    · rename_i hji
      exact ⟨hji, Option.some.inj hj⟩
    · simp at hj
  constructor
  · intro j t hj
    rw [← (howner j t hj).2]
    exact hs
  · intro j t hj
    exact (howner j t hj).2
  · intro _
    exact ⟨i, s, by rw [hf i, if_pos rfl]⟩
  · intro j k t u hj hk
    rw [(howner j t hj).1, (howner k u hk).1]

section

variable {s s' : State} {f f' : Nat → Option State} {i : Nat} {a : Attempt}

/-- The owner moves on, and the state machine with it. -/
theorem Exclusive.owner_step {t : State} (h : Exclusive s f)
    (hf : ∀ j, f' j = if j = i then stageAfter (f i) a else f j) (hi : f i = some t)
    (htrans : transitions s a.event = some s') : Exclusive s' f' := by
  have hs : s = t := h.matched i t hi
  have hpipeline : s.isPipeline = true := by
    rw [hs]
    exact h.states i t hi
  have hothers : ∀ j, j ≠ i → f j = none := by
    intro j hj
    cases hstand : f j with
    | none => rfl
    | some u => exact absurd (h.alone j i u t hstand hi) hj
  have hafter : ∀ j, f' j = if j = i then (if s'.isPipeline then some s' else none) else none := by
    intro j
    rw [hf j]
    by_cases hj : j = i
    · rw [if_pos hj, if_pos hj, hi, ← hs]
      exact stageAfter_transition hpipeline htrans a.change
    · rw [if_neg hj, if_neg hj]
      exact hothers j hj
  by_cases hs' : s'.isPipeline = true
  · apply exclusive_of_owner (i := i) hs'
    simpa [hs'] using hafter
  · apply exclusive_of_none (by simpa using hs')
    simpa [hs'] using hafter

/-- A trigger of another goroutine is rejected during an update; before and after it,
an accepted update command makes its goroutine the owner. -/
theorem Exclusive.other_step (h : Exclusive s f)
    (hf : ∀ j, f' j = if j = i then stageAfter (f i) a else f j) (hi : f i = none)
    (hevent : a.event.isStage = false)
    (htrigger : (a.change = none ∧ s' = s) ∨
      (a.change ≠ none ∧ transitions s a.event = some s')) : Exclusive s' f' := by
  rcases htrigger with ⟨hrejected, rfl⟩ | ⟨haccepted, htrans⟩
  · have hsame : f' = f := by
      funext j
      rw [hf j]
      split
      · rename_i hj
        rw [hj, hi, stageAfter_none, if_neg (by simp [hrejected])]
      · rfl
    rw [hsame]
    exact h
  · have hs : s.isPipeline = false := by
      cases hpipeline : s.isPipeline with
      | false => rfl
      | true => simp [transitions_leftover hpipeline hevent] at htrans
    have hnone : ∀ j, f j = none := h.none_of_idle hs
    by_cases hcommand : a.event = .updateCommand
    · have hdownloading : s' = .downloading := by
        rw [hcommand] at htrans
        cases s <;> simp_all [transitions]
      apply exclusive_of_owner (i := i)
      · rw [hdownloading]
        rfl
      · intro j
        rw [hf j, hi, stageAfter_none, hdownloading, hnone j]
        simp [hcommand, haccepted]
    · have hs' : s'.isPipeline = false := by
        cases hpipeline : s'.isPipeline with
        | false => rfl
        | true => exact absurd (transitions_of_pipeline hs hpipeline htrans).1 hcommand
      apply exclusive_of_none hs'
      intro j
      rw [hf j, hi, stageAfter_none, hnone j]
      simp [hcommand]

end

/-! ## The invariant of an agent -/

/-- Where goroutine {lit}`i` stands. -/
def standing (c : Config) (i : Nat) : Option State :=
  stage (attempts i c)

/-- An attempt is the same whoever makes it. -/
theorem attemptOf_thread (i : Nat) (op : Op) (r : op.Ret) :
    attemptOf ⟨i, op, r⟩ = attemptOf ⟨0, op, r⟩ := by
  cases op <;> rfl

/-- The automaton collects the attempts. -/
theorem foldl_attempts (t : Routine) (events : List Record) (as : List Attempt) :
    events.foldl (fun as e => (routineDiscipline t).next as e.op e.ret) as =
      as ++ events.filterMap attemptOf := by
  induction events generalizing as with
  | nil => simp
  | cons e events ih =>
      obtain ⟨i, op, r⟩ := e
      have hnext : (routineDiscipline t).next as op r = as ++ (attemptOf ⟨i, op, r⟩).toList := by
        rw [attemptOf_thread i op r]
        rfl
      rw [List.foldl_cons, ih, hnext, List.append_assoc]
      cases hattempt : attemptOf ⟨i, op, r⟩ <;> simp [hattempt]

/-- The automaton state of a goroutine is the list of its triggers. -/
theorem ghost_eq_attempts (t : Routine) (i : Nat) (c : Config) :
    Machine.ghost (routineDiscipline t) [] i c.trace = attempts i c :=
  foldl_attempts t (Machine.eventsOf i c.trace) []

/-- An operation adds to the attempts of its own goroutine. -/
theorem attempts_executed {p : Process} {c c' : Config} {i : Nat} {x : Choice} {t : Routine}
    {op : Op} {k : op.Ret → Handler Unit} {r : op.Ret}
    (hs : (machine p).Executed c c' i x t op k r) (j : Nat) :
    attempts j c' =
      if j = i then attempts i c ++ (attemptOf ⟨i, op, r⟩).toList else attempts j c := by
  rw [attempts, hs.trace, Machine.eventsOf_append]
  by_cases hj : j = i
  · subst hj
    rw [if_pos rfl, if_pos rfl, List.filterMap_append]
    cases hattempt : attemptOf ⟨j, op, r⟩ <;> simp [attempts, hattempt]
  · rw [if_neg (fun h => hj h.symm), if_neg hj]
    rfl

/-- Only a trigger moves the state machine. -/
theorem exec_fsm (r : Robot) (op : Op) (x : Choice) (h : ∀ event, op ≠ .trigger event) :
    (exec r op x).2.fsm = r.fsm := by
  cases op with
  | trigger event => exact absurd rfl (h event)
  | _ => rfl

/-- Every goroutine keeps to its discipline, and one of them at most owns the state
machine. -/
structure PipelineInvariant (c : Config) : Prop where
  disciplined : Machine.Disciplined routineDiscipline (fun _ _ => True) (fun _ => []) c
  exclusive : Exclusive c.store.fsm.current (standing c)
  updates : ∀ i t q, c.thread i = some (t, q) → standing c i ≠ none → t.isUpdate = true

/-- Nobody has attempted anything at the start. -/
theorem pipelineInvariant_start (p : Process) (r : Robot) : PipelineInvariant (start p r) where
  disciplined := Machine.disciplined_initial _ _ _ _
  exclusive := exclusive_of_none rfl fun _ => rfl
  updates i t q hi := by simp [start, Machine.initial, Machine.Config.thread] at hi

section

variable {p : Process} {c c' : Config} {i : Nat} {x : Choice} {t : Routine}

/-- What a goroutine executes is what its stage allows. -/
theorem PipelineInvariant.allowed {op : Op} {k : op.Ret → Handler Unit} {r : op.Ret}
    (hc : PipelineInvariant c) (hs : (machine p).Executed c c' i x t op k r) :
    StageAllowed t.isUpdate t.version (attempts i c) op := by
  have hallowed := hc.disciplined.allowed hs
  rwa [ghost_eq_attempts] at hallowed

/-- The answer to an operation is one the discipline of its goroutine relies on. -/
theorem PipelineInvariant.answer {op : Op} {k : op.Ret → Handler Unit} {r : op.Ret}
    (hc : PipelineInvariant c) (hs : (machine p).Executed c c' i x t op k r) :
    StageAnswer (attempts i c) op r := by
  cases op with
  | trigger event =>
      have hallowed := hc.allowed hs
      have heffect : exec c.store (.trigger event) x = (r, c'.store) := hs.effect
      have hr : r = (c.store.fsm.trigger event).1 := (congrArg Prod.fst heffect).symm
      subst hr
      constructor
      · intro change hchange
        rcases c.store.fsm.trigger_cases event with ⟨hrejected, -⟩ | ⟨next, htrans, haccepted, -⟩
        · rw [hrejected] at hchange
          simp at hchange
        · obtain rfl := Option.some.inj (haccepted.symm.trans hchange)
          exact htrans
      · intro s hstage
        have hcurrent : c.store.fsm.current = s := hc.exclusive.matched i s hstage
        simp only [StageAllowed, hstage] at hallowed
        obtain ⟨next, hnext⟩ := Option.isSome_iff_exists.mp hallowed
        rw [← hcurrent] at hnext
        exact ⟨_, (StateMachine.trigger_accepted hnext).1, hcurrent⟩
  | _ => trivial

/-- The machine stays in the state of the one goroutine that has a stage. -/
theorem PipelineInvariant.executed_exclusive {op : Op} {k : op.Ret → Handler Unit} {r : op.Ret}
    (hc : PipelineInvariant c) (hs : (machine p).Executed c c' i x t op k r) :
    Exclusive c'.store.fsm.current (standing c') := by
  have heffect : exec c.store op x = (r, c'.store) := hs.effect
  have hstore : c'.store = (exec c.store op x).2 := by rw [heffect]
  by_cases htrigger : ∃ event, op = .trigger event
  · obtain ⟨event, rfl⟩ := htrigger
    have hallowed := hc.allowed hs
    have hr : r = (c.store.fsm.trigger event).1 := (congrArg Prod.fst heffect).symm
    have hstanding : ∀ j, standing c' j =
        if j = i then stageAfter (standing c i) ⟨event, accepted r⟩ else standing c j := by
      intro j
      rw [standing, attempts_executed hs]
      split
      · exact stage_append _ _
      · rfl
    have hfsm : c'.store.fsm = (c.store.fsm.trigger event).2 := by rw [hstore]; rfl
    rw [hfsm]
    cases hstage : standing c i with
    | some s =>
        simp only [StageAllowed, show stage (attempts i c) = some s from hstage] at hallowed
        obtain ⟨next, hnext⟩ := Option.isSome_iff_exists.mp hallowed
        have hcurrent : c.store.fsm.current = s := hc.exclusive.matched i s hstage
        rw [← hcurrent] at hnext
        apply hc.exclusive.owner_step hstanding hstage
        rw [hnext, (StateMachine.trigger_accepted hnext).2]
    | none =>
        simp only [StageAllowed, show stage (attempts i c) = none from hstage] at hallowed
        apply hc.exclusive.other_step hstanding hstage hallowed.1
        rcases c.store.fsm.trigger_cases event with
          ⟨hrejected, hsame⟩ | ⟨next, htrans, haccepted, hnext⟩
        · left
          exact ⟨by rw [hr]; exact hrejected, by rw [hsame]⟩
        · right
          exact ⟨by rw [hr, haccepted]; simp, by rw [hnext]; exact htrans⟩
  · have hquiet : ∀ event, op ≠ .trigger event := fun event h => htrigger ⟨event, h⟩
    have hstanding : standing c' = standing c := by
      funext j
      rw [standing, attempts_executed hs]
      split
      · rename_i hj
        subst hj
        have hnone : attemptOf ⟨j, op, r⟩ = none := by
          cases op with
          | trigger event => exact absurd rfl (hquiet event)
          | _ => rfl
        rw [hnone]
        simp [standing]
      · rfl
    rw [hstanding, hstore, exec_fsm _ _ _ hquiet]
    exact hc.exclusive

/-- Only a goroutine that runs {lit}`handleUpdate` comes to stand in an update. -/
theorem PipelineInvariant.executed_updates {op : Op} {k : op.Ret → Handler Unit} {r : op.Ret}
    (hc : PipelineInvariant c) (hs : (machine p).Executed c c' i x t op k r)
    (hstanding : standing c' i ≠ none) : t.isUpdate = true := by
  by_cases hbefore : standing c i = none
  · have hallowed := hc.allowed hs
    rw [standing, attempts_executed hs, if_pos rfl] at hstanding
    cases op with
    | trigger event =>
        have hstage : stage (attempts i c) = none := hbefore
        have happend : stage (attempts i c ++ [⟨event, accepted r⟩]) ≠ none := hstanding
        simp only [StageAllowed, hstage] at hallowed
        rw [stage_append, hstage, stageAfter_none] at happend
        apply hallowed.2
        by_contra hcommand
        exact happend (if_neg fun h => hcommand h.1)
    | _ =>
        have hsame : stage (attempts i c) ≠ none := by simpa [attemptOf] using hstanding
        exact absurd hbefore hsame
  · exact hc.updates i t _ hs.before hbefore

/-- A step keeps the stages of all goroutines. -/
theorem pipelineInvariant_step {l : Label} (hc : PipelineInvariant c)
    (h : step p c l = some c') : PipelineInvariant c' := by
  have hdisciplined : Machine.Disciplined routineDiscipline (fun _ _ => True) (fun _ => []) c' := by
    refine Machine.step_disciplined h hc.disciplined (body_stages p) ?_
    intro i x t op k r hs
    rw [ghost_eq_attempts]
    exact hc.answer hs
  obtain ⟨i, t, -, hs⟩ | ⟨i, x, t, op, k, r, -, hs⟩ := Machine.step_cases h
  · have hstanding : standing c' = standing c := by
      funext j
      rw [standing, attempts, hs.trace]
      rfl
    have hstore : c.store = c'.store := Option.some.inj hs.accepted
    refine ⟨hdisciplined, ?_, ?_⟩
    · rw [hstanding, ← hstore]
      exact hc.exclusive
    · intro j t' q hj hstand
      rw [hstanding] at hstand
      rw [hs.threads] at hj
      split at hj
      · rename_i hji
        have hnil : attempts i c = [] := by
          rw [attempts, Machine.eventsOf_eq_nil hc.disciplined.closed hs.fresh]
          rfl
        rw [hji, standing, hnil] at hstand
        exact absurd rfl hstand
      · exact hc.updates j t' q hj hstand
  · refine ⟨hdisciplined, hc.executed_exclusive hs, ?_⟩
    intro j t' q hj hstand
    rw [hs.threads] at hj
    by_cases hji : j = i
    · rw [if_pos hji] at hj
      obtain ⟨rfl, -⟩ : t = t' ∧ k r = q := by simpa using hj
      rw [hji] at hstand
      exact hc.executed_updates hs hstand
    · rw [if_neg hji] at hj
      rw [standing, attempts_executed hs, if_neg hji] at hstand
      exact hc.updates j t' q hj hstand

theorem pipelineInvariant_run {r : Robot} {ls : List Label}
    (h : run (step p) (start p r) ls = some c) : PipelineInvariant c :=
  run_invariant (fun _ _ _ hc hstep => pipelineInvariant_step hc hstep)
    (pipelineInvariant_start p r) h

end

/-! ## One update at a time -/

/-- Invocation {lit}`i` of {lit}`handleUpdate` is between its accepted update command and
its last trigger, at the point {lit}`s`. -/
def InPipeline (c : Config) (i : Nat) (s : State) : Prop :=
  ∃ cmd q, c.thread i = some (.command cmd, q) ∧ cmd.action = "update" ∧
    stage (attempts i c) = some s

/-- A goroutine is in the pipeline exactly if it has a stage. -/
theorem PipelineInvariant.inPipeline_iff {c : Config} (hc : PipelineInvariant c) {i : Nat}
    {s : State} : InPipeline c i s ↔ standing c i = some s := by
  constructor
  · intro h
    obtain ⟨cmd, q, -, -, hstage⟩ := h
    exact hstage
  · intro h
    cases hthread : c.thread i with
    | none =>
        have hnil : attempts i c = [] := by
          rw [attempts, Machine.eventsOf_eq_nil hc.disciplined.closed hthread]
          rfl
        rw [standing, hnil] at h
        simp [stage] at h
    | some t =>
        obtain ⟨tag, q⟩ := t
        have hupdate : tag.isUpdate = true := hc.updates i tag q hthread (by simp [h])
        cases tag with
        | heartbeat => simp [Routine.isUpdate] at hupdate
        | command cmd => exact ⟨cmd, q, hthread, of_decide_eq_true hupdate, h⟩

/-- In every reachable state of an agent that has booted, the state machine is where the
one update handler stands, and in no state of an update if there is none.  The
triggers of that handler are accepted, and a handler switches the version only at the
end of its own complete path. -/
theorem one_pipeline {p : Process} {r : Robot} {ls : List Label} {c : Config}
    (h : run (step p) (start p r) ls = some c) :
    (∀ i s, InPipeline c i s → c.store.fsm.current = s) ∧
      (c.store.fsm.current.isPipeline = true ↔ ∃! i, ∃ s, InPipeline c i s) ∧
      (∀ i s, InPipeline c i s → ∀ x c' t event k answer,
        (machine p).Executed c c' i x t (.trigger event) k answer →
          accepted answer ≠ none) ∧
      ∀ i x c' cmd version k answer,
        (machine p).Executed c c' i x (.command cmd) (.setCurrentVersion version) k answer →
          cmd.action = "update" →
            version = cmd.version ∧ path (attempts i c) = completePath := by
  have hc : PipelineInvariant c := pipelineInvariant_run h
  refine ⟨?_, ?_, ?_, ?_⟩
  · intro i s hi
    exact hc.exclusive.matched i s (hc.inPipeline_iff.mp hi)
  · constructor
    · intro hpipeline
      obtain ⟨i, s, hi⟩ := hc.exclusive.owned hpipeline
      refine ⟨i, ⟨s, hc.inPipeline_iff.mpr hi⟩, ?_⟩
      intro j hj
      obtain ⟨u, hj⟩ := hj
      exact hc.exclusive.alone j i u s (hc.inPipeline_iff.mp hj) hi
    · intro hunique
      obtain ⟨i, ⟨s, hi⟩, -⟩ := hunique
      have hstanding : standing c i = some s := hc.inPipeline_iff.mp hi
      rw [hc.exclusive.matched i s hstanding]
      exact hc.exclusive.states i s hstanding
  · intro i s hi x c' t event k answer hs
    obtain ⟨-, haccepted⟩ := hc.answer hs
    obtain ⟨change, hchange, -⟩ := haccepted s (hc.inPipeline_iff.mp hi)
    rw [hchange]
    simp
  · intro i x c' cmd version k answer hs hupdate
    obtain ⟨hversion, hcomplete⟩ := hc.allowed hs
    exact ⟨hversion, (hcomplete (decide_eq_true hupdate)).2⟩

/-- A rollback command arrives while the update is installed; both its triggers are
rejected. -/
theorem one_pipeline_rejected_rollback :
    ∃ c, run (step (robotProcess "r1")) (start (robotProcess "r1") (robot "r1"))
      (receive 0 (updateTo "2.0.0") 10 ++ receive 1 (rollbackTo "1.0.0") 8) = some c ∧
      c.store.fsm.current = .installing ∧ ∃! i, ∃ s, InPipeline c i s := by
  obtain ⟨c, h, hstate⟩ := endsWith_eq_true
    (show endsWith (step (robotProcess "r1")) (start (robotProcess "r1") (robot "r1"))
      (receive 0 (updateTo "2.0.0") 10 ++ receive 1 (rollbackTo "1.0.0") 8)
      (fun c => c.store.fsm.current = .installing) = true by decide +kernel)
  have hcurrent : c.store.fsm.current = .installing := of_decide_eq_true hstate
  obtain ⟨-, hunique, -⟩ := one_pipeline h
  exact ⟨c, h, hcurrent, hunique.mp (by rw [hcurrent]; rfl)⟩

end OtaRobot.Agent
