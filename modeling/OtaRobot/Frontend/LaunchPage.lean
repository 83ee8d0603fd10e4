import OtaRobot.Handlers.Deployments
import OtaRobot.Library.Transition
import Mathlib.Data.List.Dedup

/-!
# The page that launches a rollout

{lit}`DeployForm` of {lit}`src/app/deploy/page.tsx` with its dialog
{lit}`DeployRiskModal` and the functions of {lit}`src/lib/planning.ts` it calls.  While the dialog
is open it covers the page and keeps the focus; a fetch that is under way may still complete.

Main results:

- Theorem {lit}`launch_once`: the page waits for one answer at a time, and launches once.
- Theorem {lit}`plannedInvariant_step`: what a step keeps about the plans that were sent.
- Theorem {lit}`planned_run`: every request says what was planned.
-/

namespace OtaRobot.Frontend

open Transition

/-! ## Planning -/

/-- How the devices are chosen. -/
inductive TargetScope where
  | all
  | factory
  | custom
deriving DecidableEq, Repr

/-- The factories of the devices, each once. -/
def deriveFactories (devices : List Device) : List String :=
  ((devices.map fun d => d.factoryID).filter fun f => f ≠ "").reverse.dedup.reverse

/-- The devices that are online. -/
def deriveEligibleDevices (devices : List Device) : List Device :=
  devices.filter fun d => d.status = "online"

/-- The chosen ones among the eligible devices. -/
def deriveTargetDevices (eligibleDevices : List Device) (scope : TargetScope)
    (selectedFactory : String) (selectedDeviceIDs : List DeviceID) : List Device :=
  match scope with
  | .all => eligibleDevices
  | .factory => eligibleDevices.filter fun d => d.factoryID = selectedFactory
  | .custom => eligibleDevices.filter fun d => d.id ∈ selectedDeviceIDs

/-- The strategy in the body of the request. -/
def strategyText : Strategy → String
  | .full => "full"
  | .canary => "canary"

/-- The body of the request; no firmware is selected by the empty text. -/
def prepareDeploymentPayload (selectedFwID : Option FirmwareID) (strategy : Strategy)
    (rollbackThreshold : Nat) (targetDevices : List Device) : CreateDeploymentRequest where
  firmwareID := selectedFwID
  strategy := strategyText strategy
  hwModel := "all"
  deviceIDs := targetDevices.map fun d => d.id
  rollbackThreshold := rollbackThreshold / 100

/-! ## The page -/

/-- A request that was sent, with the devices that were planned for. -/
structure Post where
  request : CreateDeploymentRequest
  firmware : FirmwareVersion
  targets : List Device
  strategy : Strategy
deriving DecidableEq, Repr

/-- The state of the page and its dialog.  The requests and their answers ({lean}`true` is a
success) are the history. -/
structure LaunchPage where
  firmwares : List FirmwareVersion := []
  devices : List Device := []
  selectedFwID : Option FirmwareID := none
  targetScope : TargetScope := .factory
  selectedFactory : String := ""
  selectedDeviceIDs : List DeviceID := []
  strategy : Strategy := .canary
  rollbackThreshold : Nat := 20
  loading : Bool := true
  isLaunching : Bool := false
  isRiskModalOpen : Bool := false
  acknowledged : Bool := false
  error : Option String := none
  posts : List Post := []
  answers : List Bool := []
deriving DecidableEq, Repr

/-- What the user does on the page, and what the page is answered. -/
inductive LaunchAction where
  | fetched (firmwares : Option (List FirmwareVersion)) (devices : Option (List Device))
      (preselectedFw : Option FirmwareID) (preselectedDevice : Option DeviceID)
  | fetchFailed
  | selectFirmware (id : FirmwareID)
  | setTargetScope (scope : TargetScope)
  | setSelectedFactory (factory : String)
  | toggleDeviceSelection (id : DeviceID)
  | selectAllCustom
  | setStrategy (strategy : Strategy)
  | setRollbackThreshold (value : Nat)
  | openRiskModal
  | closeRiskModal
  | acknowledge (checked : Bool)
  | confirm
  | answered (success : Bool) (message : String)
deriving DecidableEq, Repr

namespace LaunchPage

/-- The eligible devices of the page. -/
def eligibleDevices (s : LaunchPage) : List Device :=
  deriveEligibleDevices s.devices

/-- The devices the page is about to update. -/
def targetDevices (s : LaunchPage) : List Device :=
  deriveTargetDevices s.eligibleDevices s.targetScope s.selectedFactory s.selectedDeviceIDs

/-- The chosen firmware, if it was fetched. -/
def selectedFw (s : LaunchPage) : Option FirmwareVersion :=
  s.firmwares.find? fun fw => s.selectedFwID = some fw.id

/-- The effect that chooses a factory when none is chosen. -/
def chooseFactory (s : LaunchPage) : LaunchPage :=
  match deriveFactories s.devices with
  | factory :: _ => if s.selectedFactory = "" then { s with selectedFactory := factory } else s
  | [] => s

/-- The firmware that is selected by a fetch: the one of the address, or else the first. -/
def preselect (s : LaunchPage) (firmwares : List FirmwareVersion)
    (preselectedFw : Option FirmwareID) : Option FirmwareID :=
  match firmwares.find? fun f => preselectedFw = some f.id, firmwares with
  | some f, _ => some f.id
  | none, f :: _ => some f.id
  | none, [] => s.selectedFwID

/-- The callback of the fetch.  An empty list may come as {lit}`null`; for that of the firmwares
the callback throws. -/
def fetched (s : LaunchPage) (firmwares : Option (List FirmwareVersion))
    (devices : Option (List Device)) (preselectedFw : Option FirmwareID)
    (preselectedDevice : Option DeviceID) : LaunchPage :=
  let s := { s with
    firmwares := Option.getD firmwares []
    devices := Option.getD devices []
    loading := false }
  match firmwares with
  | none => { s with error := some "Failed to load initial configuration data." }
  | some firmwares =>
      let s := { s with selectedFwID := s.preselect firmwares preselectedFw }
      match preselectedDevice with
      | some id => { s with targetScope := .custom, selectedDeviceIDs := [id] }
      | none => s

/-- {lit}`toggleDeviceSelection`. -/
def toggleDeviceSelection (s : LaunchPage) (id : DeviceID) : LaunchPage :=
  if id ∈ s.selectedDeviceIDs then
    { s with selectedDeviceIDs := s.selectedDeviceIDs.filter fun d => d ≠ id }
  else { s with selectedDeviceIDs := s.selectedDeviceIDs ++ [id] }

/-- {lit}`selectAllCustom`: choosing all, or none when all are chosen. -/
def selectAllCustom (s : LaunchPage) : LaunchPage :=
  if s.selectedDeviceIDs.length = s.eligibleDevices.length then { s with selectedDeviceIDs := [] }
  else { s with selectedDeviceIDs := s.eligibleDevices.map fun d => d.id }

/-- The devices are of one model. -/
def singleModel (devices : List Device) : Bool :=
  (devices.map fun d => d.hwModel).dedup.length ≤ 1

/-- {lit}`handleOpenRiskModal`: the dialog opens when a firmware and a device are chosen. -/
def handleOpenRiskModal (s : LaunchPage) : LaunchPage :=
  if s.selectedFwID = none then
    { s with error := some "Please select a target firmware version." }
  else if s.targetDevices.length = 0 then
    { s with error := some "No eligible online devices selected for deployment." }
  else if !singleModel s.targetDevices then
    { s with
      error := some ("The selected scope mixes hardware models. " ++
        "Use Manual Selection and choose one model per rollout.") }
  else
    -- The dialog resets its checkbox when it is opened, not when it is open already.
    { s with
      error := none
      isRiskModalOpen := true
      acknowledged := s.isRiskModalOpen && s.acknowledged }

/-- The body that {lit}`handleConfirmLaunch` sends. -/
def payload (s : LaunchPage) : CreateDeploymentRequest :=
  let payload := prepareDeploymentPayload s.selectedFwID s.strategy s.rollbackThreshold
    s.targetDevices
  match s.targetDevices with
  | [] => payload
  | d :: _ => { payload with hwModel := d.hwModel }

/-- {lit}`handleConfirmLaunch`: one request is sent, with the choices as they are now. -/
def handleConfirmLaunch (s : LaunchPage) (firmware : FirmwareVersion) : LaunchPage :=
  if s.selectedFwID = none || s.targetDevices.length = 0 then s
  else
    { s with
      isLaunching := true
      error := none
      posts := s.posts ++ [⟨s.payload, firmware, s.targetDevices, s.strategy⟩] }

/-- A success closes the dialog and leaves the page; a failure leaves the dialog open. -/
def answered (s : LaunchPage) (success : Bool) (message : String) : LaunchPage :=
  if success then { s with isRiskModalOpen := false, answers := s.answers ++ [true] }
  else { s with isLaunching := false, error := some message, answers := s.answers ++ [false] }

/-- The dialog is shown if it is open and knows the firmware. -/
def dialogShown (s : LaunchPage) : Bool :=
  s.isRiskModalOpen && s.selectedFw.isSome

/-- The controls of the page can be reached. -/
def reachable (s : LaunchPage) : Bool :=
  !s.loading && !s.dialogShown

/-- One event.  A control that is not shown, is disabled, or lies behind the dialog takes no
event, and the slider has the steps from 5 to 50. -/
def step (s : LaunchPage) : LaunchAction → Option LaunchPage
  | .fetched firmwares devices preselectedFw preselectedDevice =>
      some (s.fetched firmwares devices preselectedFw preselectedDevice).chooseFactory
  | .fetchFailed =>
      some { s with error := some "Failed to load initial configuration data.", loading := false }
  | .selectFirmware id =>
      if s.reachable && s.firmwares.any fun f => f.id = id then
        some { s with selectedFwID := some id }
      else none
  | .setTargetScope scope => if s.reachable then some { s with targetScope := scope } else none
  | .setSelectedFactory factory =>
      if s.reachable && s.targetScope = .factory && factory ∈ deriveFactories s.devices then
        some { s with selectedFactory := factory }
      else none
  | .toggleDeviceSelection id =>
      if s.reachable && s.targetScope = .custom && s.eligibleDevices.any fun d => d.id = id then
        some (s.toggleDeviceSelection id)
      else none
  | .selectAllCustom =>
      if s.reachable && s.targetScope = .custom then some s.selectAllCustom else none
  | .setStrategy strategy => if s.reachable then some { s with strategy } else none
  | .setRollbackThreshold value =>
      if s.reachable && (5 ≤ value && value ≤ 50 && value % 5 = 0) then
        some { s with rollbackThreshold := value }
      else none
  | .openRiskModal =>
      if s.reachable && !(s.isLaunching || s.targetDevices.length = 0 || s.selectedFwID = none) then
        some s.handleOpenRiskModal
      else none
  | .closeRiskModal =>
      if s.isRiskModalOpen && !s.isLaunching then some { s with isRiskModalOpen := false } else none
  | .acknowledge checked =>
      if s.dialogShown then some { s with acknowledged := checked } else none
  | .confirm =>
      match s.selectedFw with
      | some firmware =>
          if s.isRiskModalOpen && s.acknowledged && !s.isLaunching then
            some (s.handleConfirmLaunch firmware)
          else none
      | none => none
  | .answered success message =>
      if s.answers.length < s.posts.length then some (s.answered success message) else none

/-! ## What is sent and answered -/

/-- The page waits for at most one answer, and the button stays disabled while it waits and after
a success. -/
structure OneAtATime (s : LaunchPage) : Prop where
  answered : s.answers.length ≤ s.posts.length
  waiting : s.posts.length ≤ s.answers.length + 1
  busy : s.answers.length < s.posts.length → s.isLaunching = true
  done : true ∈ s.answers → s.isLaunching = true ∧ s.posts.length = s.answers.length
  last : true ∉ s.answers.dropLast

/-- What was sent and answered, and whether the page waits. -/
def history (s : LaunchPage) : List Post × List Bool × Bool :=
  (s.posts, s.answers, s.isLaunching)

@[simp]
theorem history_chooseFactory (s : LaunchPage) : s.chooseFactory.history = s.history := by
  unfold chooseFactory
  split
  · split <;> rfl
  · rfl

@[simp]
theorem history_fetched (s : LaunchPage) (firmwares : Option (List FirmwareVersion))
    (devices : Option (List Device)) (preselectedFw : Option FirmwareID)
    (preselectedDevice : Option DeviceID) :
    (s.fetched firmwares devices preselectedFw preselectedDevice).history = s.history := by
  cases firmwares with
  | none => rfl
  | some firmwares => cases preselectedDevice <;> rfl

@[simp]
theorem history_toggleDeviceSelection (s : LaunchPage) (id : DeviceID) :
    (s.toggleDeviceSelection id).history = s.history := by
  unfold toggleDeviceSelection
  split <;> rfl

@[simp]
theorem history_selectAllCustom (s : LaunchPage) : s.selectAllCustom.history = s.history := by
  unfold selectAllCustom
  split <;> rfl

@[simp]
theorem history_handleOpenRiskModal (s : LaunchPage) :
    s.handleOpenRiskModal.history = s.history := by
  unfold handleOpenRiskModal
  repeat' split
  all_goals rfl

/-- Everything a step can do to the history. -/
theorem history_step {s s' : LaunchPage} {a : LaunchAction} (h : s.step a = some s') :
    s'.history = s.history ∨
      (∃ firmware, s.selectedFw = some firmware ∧ s.dialogShown = true ∧ s.isLaunching = false ∧
        s' = s.handleConfirmLaunch firmware) ∨
      ∃ success message, s.answers.length < s.posts.length ∧ s' = s.answered success message := by
  cases a with
  | confirm =>
      simp only [step] at h
      split at h
      · rename_i firmware hfirmware
        split at h
        · rename_i hcontrol
          simp only [Bool.and_eq_true, Bool.not_eq_true'] at hcontrol
          refine Or.inr (Or.inl ⟨firmware, hfirmware, ?_, hcontrol.2, (Option.some.inj h).symm⟩)
          simp [dialogShown, hcontrol.1.1, hfirmware]
        · cases h
      · cases h
  | answered success message =>
      obtain ⟨hwaiting, h⟩ := Option.ite_none_right_eq_some.mp h
      exact Or.inr (Or.inr ⟨success, message, hwaiting, (Option.some.inj h).symm⟩)
  | fetched firmwares devices preselectedFw preselectedDevice =>
      obtain rfl := Option.some.inj h
      exact Or.inl (by simp)
  | fetchFailed =>
      obtain rfl := Option.some.inj h
      exact Or.inl rfl
  | toggleDeviceSelection id =>
      obtain ⟨-, h⟩ := Option.ite_none_right_eq_some.mp h
      obtain rfl := Option.some.inj h
      exact Or.inl (by simp)
  | selectAllCustom =>
      obtain ⟨-, h⟩ := Option.ite_none_right_eq_some.mp h
      obtain rfl := Option.some.inj h
      exact Or.inl (by simp)
  | openRiskModal =>
      obtain ⟨-, h⟩ := Option.ite_none_right_eq_some.mp h
      obtain rfl := Option.some.inj h
      exact Or.inl (by simp)
  | _ =>
      obtain ⟨-, h⟩ := Option.ite_none_right_eq_some.mp h
      obtain rfl := Option.some.inj h
      exact Or.inl rfl

/-- What sends and answers nothing keeps to one request at a time. -/
theorem OneAtATime.of_history {s s' : LaunchPage} (h : OneAtATime s)
    (hsame : s'.history = s.history) : OneAtATime s' := by
  have hposts : s'.posts = s.posts := congrArg (fun h => h.1) hsame
  have hanswers : s'.answers = s.answers := congrArg (fun h => h.2.1) hsame
  have hlaunching : s'.isLaunching = s.isLaunching := congrArg (fun h => h.2.2) hsame
  constructor
  · rw [hposts, hanswers]
    exact h.answered
  · rw [hposts, hanswers]
    exact h.waiting
  · rw [hposts, hanswers, hlaunching]
    exact h.busy
  · rw [hposts, hanswers, hlaunching]
    exact h.done
  · rw [hanswers]
    exact h.last

/-- A request is sent when none waits. -/
theorem OneAtATime.confirm {s : LaunchPage} (h : OneAtATime s) (hfree : s.isLaunching = false)
    (firmware : FirmwareVersion) : OneAtATime (s.handleConfirmLaunch firmware) := by
  have hequal : s.posts.length = s.answers.length := by
    have hbusy := h.busy
    have hanswered := h.answered
    rw [hfree] at hbusy
    by_contra hne
    have hwaiting : s.answers.length < s.posts.length := by omega
    cases hbusy hwaiting
  have hnone : true ∉ s.answers := by
    intro hsuccess
    have hdone := (h.done hsuccess).1
    rw [hfree] at hdone
    cases hdone
  unfold handleConfirmLaunch
  split
  · exact h
  · refine ⟨?_, ?_, fun _ => rfl, fun hsuccess => absurd hsuccess hnone, h.last⟩
    · simp only [List.length_append, List.length_singleton]
      omega
    · simp only [List.length_append, List.length_singleton]
      omega

/-- An answer is to the request that waits. -/
theorem OneAtATime.answer {s : LaunchPage} (h : OneAtATime s)
    (hwaiting : s.answers.length < s.posts.length) (success : Bool) (message : String) :
    OneAtATime (s.answered success message) := by
  have hone : s.posts.length = s.answers.length + 1 := by
    have hle := h.waiting
    omega
  have hnone : true ∉ s.answers := by
    intro hsuccess
    have hdone := (h.done hsuccess).2
    omega
  unfold LaunchPage.answered
  split
  · refine ⟨?_, ?_, fun _ => h.busy hwaiting, fun _ => ⟨h.busy hwaiting, ?_⟩, ?_⟩
    · simp [hone]
    · simp [hone]
    · simp [hone]
    · simpa using hnone
  · refine ⟨?_, ?_, ?_, ?_, ?_⟩
    · simp [hone]
    · simp [hone]
    · simp [hone]
    · intro hsuccess
      exact absurd hsuccess (by simpa using hnone)
    · simpa using hnone

/-- Every action keeps to one request at a time. -/
theorem oneAtATime_step {s s' : LaunchPage} {a : LaunchAction} (hs : OneAtATime s)
    (h : s.step a = some s') : OneAtATime s' := by
  rcases history_step h with
    hsame | ⟨firmware, -, -, hfree, rfl⟩ | ⟨success, message, hwaiting, rfl⟩
  · exact hs.of_history hsame
  · exact hs.confirm hfree firmware
  · exact hs.answer hwaiting success message

/-- Whatever is clicked, fetched and answered in any order: the page sends nothing while it waits
for an answer, and nothing after a success. -/
theorem launch_once {as : List LaunchAction} {s : LaunchPage} (h : run step {} as = some s) :
    s.posts.length ≤ s.answers.length + 1 ∧ true ∉ s.answers.dropLast ∧
      (true ∈ s.answers → s.posts.length = s.answers.length) := by
  have hs : OneAtATime s := by
    refine run_invariant (fun _ _ _ hs hstep => oneAtATime_step hs hstep) ?_ h
    exact ⟨Nat.le_refl 0, Nat.zero_le 1, fun hlt => absurd hlt (Nat.lt_irrefl 0),
      fun hmem => absurd hmem List.not_mem_nil, List.not_mem_nil⟩
  exact ⟨hs.waiting, hs.last, fun hsuccess => (hs.done hsuccess).2⟩

/-! ### One launch -/

/-- A firmware. -/
def release : FirmwareVersion where
  id := 0
  version := "2.0.0"
  storageKey := "fw"
  sha256Checksum := ""

/-- A robot that is online. -/
def onlineRobot : Device where
  id := "robot-1"
  currentVersion := "1.0.0"
  status := "online"

/-- The defaults of the page, as far as the request. -/
def launching : List LaunchAction :=
  [.fetched (some [release]) (some [onlineRobot]) none none, .openRiskModal, .acknowledge true,
    .confirm]

/-- The request for the robot and the firmware. -/
def canaryPost : Post where
  request :=
    { firmwareID := some 0
      strategy := "canary"
      hwModel := "sim-v1"
      deviceIDs := ["robot-1"]
      rollbackThreshold := 1 / 5 }
  firmware := release
  targets := [onlineRobot]
  strategy := .canary

/-- The page that waits for the answer. -/
def waitingPage : LaunchPage where
  firmwares := [release]
  devices := [onlineRobot]
  selectedFwID := some 0
  selectedFactory := "factory-local"
  loading := false
  isLaunching := true
  isRiskModalOpen := true
  acknowledged := true
  posts := [canaryPost]

/-- The clicks up to the request. -/
theorem run_launching : run step {} launching = some waitingPage := by
  decide +kernel

/-- The request is answered, and no other one was sent. -/
theorem launch_once_answered :
    ∃ s, run step {} (launching ++ [.answered true ""]) = some s ∧ true ∈ s.answers ∧
      s.posts.length = s.answers.length := by
  have hrun : run step {} (launching ++ [.answered true ""]) =
      some (waitingPage.answered true "") := by
    decide +kernel
  exact ⟨_, hrun, List.mem_cons_self, (launch_once hrun).2.2 List.mem_cons_self⟩

/-! ## What is planned -/

end LaunchPage

/-- The request says what was planned: a firmware, a strategy, and online devices of one model. -/
structure Post.Planned (p : Post) : Prop where
  firmware : p.request.firmwareID = some p.firmware.id
  strategy : p.request.strategy = strategyText p.strategy
  nonempty : p.targets ≠ []
  online : ∀ d ∈ p.targets, d.status = "online"
  devices : p.request.deviceIDs = p.targets.map fun d => d.id
  model : ∀ d ∈ p.targets, d.hwModel = p.request.hwModel
  threshold : AdmissibleThreshold p.request.rollbackThreshold

namespace LaunchPage

/-- Devices of one model have the model of the first. -/
theorem hwModel_of_singleModel {d : Device} {ds : List Device}
    (h : singleModel (d :: ds) = true) : ∀ d' ∈ d :: ds, d'.hwModel = d.hwModel := by
  intro d' hd'
  have hlength : ((d :: ds).map fun d => d.hwModel).dedup.length ≤ 1 := of_decide_eq_true h
  have hfirst : d.hwModel ∈ ((d :: ds).map fun d => d.hwModel).dedup :=
    List.mem_dedup.mpr (List.mem_map_of_mem List.mem_cons_self)
  have hother : d'.hwModel ∈ ((d :: ds).map fun d => d.hwModel).dedup :=
    List.mem_dedup.mpr (List.mem_map_of_mem hd')
  cases hmodels : ((d :: ds).map fun d => d.hwModel).dedup with
  | nil =>
      rw [hmodels] at hfirst
      cases hfirst
  | cons m ms =>
      rw [hmodels] at hfirst hother hlength
      have hnil : ms = [] := by
        simp only [List.length_cons] at hlength
        exact List.length_eq_zero_iff.mp (by omega)
      subst hnil
      rw [List.mem_singleton.mp hfirst, List.mem_singleton.mp hother]

theorem online_of_mem_targetDevices {s : LaunchPage} {d : Device} (h : d ∈ s.targetDevices) :
    d.status = "online" := by
  have heligible : d ∈ s.eligibleDevices := by
    unfold targetDevices deriveTargetDevices at h
    split at h
    · exact h
    · exact (List.mem_filter.mp h).1
    · exact (List.mem_filter.mp h).1
  simpa using (List.mem_filter.mp heligible).2

/-- The slider leaves an admissible threshold, a firmware is selected while there are any, and
the dialog is shown for devices of one model. -/
structure PlannedInvariant (s : LaunchPage) : Prop where
  threshold : 5 ≤ s.rollbackThreshold ∧ s.rollbackThreshold ≤ 50
  selected : s.firmwares ≠ [] → s.selectedFw.isSome = true
  dialog : s.dialogShown = true → singleModel s.targetDevices = true
  posts : ∀ p ∈ s.posts, p.Planned

/-- No fetch completes while the dialog is open. -/
def Undistracted (s : LaunchPage) (a : LaunchAction) : Prop :=
  match a with
  | .fetched _ _ _ _ => s.isRiskModalOpen = false
  | _ => True

/-- The executable form of {lit}`Undistracted`. -/
def undistracted (s : LaunchPage) : LaunchAction → Bool
  | .fetched _ _ _ _ => !s.isRiskModalOpen
  | _ => true

theorem undistracted_sound (s : LaunchPage) (a : LaunchAction) (h : undistracted s a = true) :
    Undistracted s a := by
  cases a with
  | fetched firmwares devices preselectedFw preselectedDevice =>
      simpa [undistracted, Undistracted] using h
  | _ => trivial

/-- Every threshold of the slider is admissible. -/
theorem admissible_percent {k : Nat} (h : 5 ≤ k ∧ k ≤ 50) :
    AdmissibleThreshold ((k : ℚ) / 100) := by
  have hlow : (5 : ℚ) ≤ k := by exact_mod_cast h.1
  have hhigh : (k : ℚ) ≤ 50 := by exact_mod_cast h.2
  constructor
  · linarith
  · linarith

/-- What is sent from the dialog is planned. -/
theorem PlannedInvariant.post {s : LaunchPage} (h : PlannedInvariant s)
    {firmware : FirmwareVersion} (hfirmware : s.selectedFw = some firmware)
    (hshown : s.dialogShown = true) (htargets : s.targetDevices ≠ []) :
    Post.Planned ⟨s.payload, firmware, s.targetDevices, s.strategy⟩ := by
  have hsingle := h.dialog hshown
  have hselected : s.selectedFwID = some firmware.id := by
    simpa using List.find?_some hfirmware
  cases hdevices : s.targetDevices with
  | nil => exact absurd hdevices htargets
  | cons d ds =>
      rw [hdevices] at hsingle
      refine ⟨?_, ?_, List.cons_ne_nil d ds, ?_, ?_, ?_, ?_⟩
      · simp [payload, hdevices, prepareDeploymentPayload, hselected]
      · simp [payload, hdevices, prepareDeploymentPayload]
      · intro d' hd'
        rw [← hdevices] at hd'
        exact online_of_mem_targetDevices hd'
      · simp [payload, hdevices, prepareDeploymentPayload]
      · intro d' hd'
        rw [hwModel_of_singleModel hsingle d' hd']
        simp [payload, hdevices]
      · simpa [payload, hdevices, prepareDeploymentPayload] using admissible_percent h.threshold

/-- A page that knows no firmware shows no dialog. -/
theorem selectedFw_nil {s : LaunchPage} (h : s.firmwares = []) : s.selectedFw = none := by
  simp [selectedFw, h]

/-- A control of the page is used while no dialog is shown, and shows none. -/
theorem PlannedInvariant.control {s s' : LaunchPage} (hs : PlannedInvariant s)
    (hreachable : s.reachable = true)
    (hthreshold : 5 ≤ s'.rollbackThreshold ∧ s'.rollbackThreshold ≤ 50)
    (hfirmwares : s'.firmwares = s.firmwares) (hopen : s'.isRiskModalOpen = s.isRiskModalOpen)
    (hselected : s.firmwares ≠ [] → s'.selectedFw.isSome = true) (hposts : s'.posts = s.posts) :
    PlannedInvariant s' where
  threshold := hthreshold
  selected := by
    rw [hfirmwares]
    exact hselected
  dialog := by
    intro hshown
    have hhidden : s.dialogShown = false := by
      simp only [reachable, Bool.and_eq_true, Bool.not_eq_true'] at hreachable
      exact hreachable.2
    simp only [dialogShown, Bool.and_eq_true] at hshown
    rw [dialogShown, ← hopen, hshown.1, Bool.true_and] at hhidden
    have hempty : s.firmwares = [] := by
      by_contra hne
      rw [hs.selected hne] at hhidden
      cases hhidden
    rw [selectedFw_nil (hfirmwares.trans hempty)] at hshown
    cases hshown.2
  posts := by
    rw [hposts]
    exact hs.posts

/-- The dialog and what it shows stay as they are. -/
theorem PlannedInvariant.of_same {s s' : LaunchPage} (hs : PlannedInvariant s)
    (hthreshold : s'.rollbackThreshold = s.rollbackThreshold)
    (hfirmwares : s'.firmwares = s.firmwares)
    (hselected : s'.selectedFw = s.selectedFw) (htargets : s'.targetDevices = s.targetDevices)
    (hdialog : s'.dialogShown = true → s.dialogShown = true)
    (hposts : ∀ p ∈ s'.posts, p.Planned) : PlannedInvariant s' where
  threshold := by
    rw [hthreshold]
    exact hs.threshold
  selected := by
    rw [hfirmwares, hselected]
    exact hs.selected
  dialog := by
    intro hshown
    rw [htargets]
    exact hs.dialog (hdialog hshown)
  posts := hposts

/-- A firmware of the list is found by its id. -/
theorem find?_isSome {fws : List FirmwareVersion} {fw : FirmwareVersion} (h : fw ∈ fws) :
    (fws.find? fun f => some fw.id = some f.id).isSome = true :=
  List.find?_isSome.mpr ⟨fw, h, by simp⟩

/-- The firmware chosen at first is one of those that were fetched. -/
theorem preselect_found (s : LaunchPage) {fws : List FirmwareVersion} (hne : fws ≠ [])
    (preselectedFw : Option FirmwareID) :
    (fws.find? fun f => s.preselect fws preselectedFw = some f.id).isSome = true := by
  unfold preselect
  split
  · rename_i f hf
    exact find?_isSome (List.mem_of_find?_eq_some hf)
  · exact find?_isSome List.mem_cons_self
  · exact absurd rfl hne

/-- A fetch while no dialog is open shows none, and selects a firmware if there is one. -/
theorem PlannedInvariant.fetched {s : LaunchPage} (hs : PlannedInvariant s)
    (hclosed : s.isRiskModalOpen = false) (firmwares : Option (List FirmwareVersion))
    (devices : Option (List Device)) (preselectedFw : Option FirmwareID)
    (preselectedDevice : Option DeviceID) :
    PlannedInvariant (s.fetched firmwares devices preselectedFw preselectedDevice) := by
  have hhidden : ∀ s' : LaunchPage, s'.isRiskModalOpen = s.isRiskModalOpen →
      s'.dialogShown = true → singleModel s'.targetDevices = true := by
    intro s' hopen hshown
    rw [dialogShown, hopen, hclosed] at hshown
    cases hshown
  cases firmwares with
  | none => exact ⟨hs.threshold, fun hne => absurd rfl hne, hhidden _ rfl, hs.posts⟩
  | some firmwares =>
      have hfound := fun hne : firmwares ≠ [] => preselect_found
        { s with firmwares, devices := Option.getD devices [], loading := false } hne preselectedFw
      cases preselectedDevice with
      | none => exact ⟨hs.threshold, hfound, hhidden _ rfl, hs.posts⟩
      | some id => exact ⟨hs.threshold, hfound, hhidden _ rfl, hs.posts⟩

/-- A fetch does not open the dialog. -/
theorem dialogShown_fetched {s : LaunchPage} (hclosed : s.isRiskModalOpen = false)
    (firmwares : Option (List FirmwareVersion)) (devices : Option (List Device))
    (preselectedFw : Option FirmwareID) (preselectedDevice : Option DeviceID) :
    (s.fetched firmwares devices preselectedFw preselectedDevice).dialogShown = false := by
  unfold dialogShown
  have hopen : (s.fetched firmwares devices preselectedFw preselectedDevice).isRiskModalOpen =
      s.isRiskModalOpen := by
    cases firmwares with
    | none => rfl
    | some firmwares => cases preselectedDevice <;> rfl
  rw [hopen, hclosed, Bool.false_and]

/-- The choice of a factory changes nothing that a hidden dialog would show. -/
theorem PlannedInvariant.chooseFactory {s : LaunchPage} (hs : PlannedInvariant s)
    (hhidden : s.dialogShown = false) : PlannedInvariant s.chooseFactory := by
  unfold LaunchPage.chooseFactory
  split
  · split
    · refine ⟨hs.threshold, hs.selected, fun hshown => ?_, hs.posts⟩
      have hsame : s.dialogShown = true := hshown
      rw [hhidden] at hsame
      cases hsame
    · exact hs
  · exact hs

/-- An action keeps the plan of every request. -/
theorem plannedInvariant_step {s s' : LaunchPage} {a : LaunchAction} (hs : PlannedInvariant s)
    (ha : Undistracted s a) (h : s.step a = some s') : PlannedInvariant s' := by
  cases a with
  | fetched firmwares devices preselectedFw preselectedDevice =>
      obtain rfl := Option.some.inj h
      exact (hs.fetched ha firmwares devices preselectedFw preselectedDevice).chooseFactory
        (dialogShown_fetched ha firmwares devices preselectedFw preselectedDevice)
  | fetchFailed =>
      obtain rfl := Option.some.inj h
      exact hs.of_same rfl rfl rfl rfl id hs.posts
  | selectFirmware id =>
      obtain ⟨hcontrol, h⟩ := Option.ite_none_right_eq_some.mp h
      simp only [Bool.and_eq_true, List.any_eq_true, decide_eq_true_eq] at hcontrol
      obtain ⟨hreachable, fw, hfw, rfl⟩ := hcontrol
      obtain rfl := Option.some.inj h
      exact hs.control hreachable hs.threshold rfl rfl (fun _ => find?_isSome hfw) rfl
  | setTargetScope scope =>
      obtain ⟨hreachable, h⟩ := Option.ite_none_right_eq_some.mp h
      obtain rfl := Option.some.inj h
      exact hs.control hreachable hs.threshold rfl rfl hs.selected rfl
  | setSelectedFactory factory =>
      obtain ⟨hcontrol, h⟩ := Option.ite_none_right_eq_some.mp h
      simp only [Bool.and_eq_true] at hcontrol
      obtain rfl := Option.some.inj h
      exact hs.control hcontrol.1.1 hs.threshold rfl rfl hs.selected rfl
  | toggleDeviceSelection id =>
      obtain ⟨hcontrol, h⟩ := Option.ite_none_right_eq_some.mp h
      simp only [Bool.and_eq_true] at hcontrol
      obtain rfl := Option.some.inj h
      unfold toggleDeviceSelection
      split <;> exact hs.control hcontrol.1.1 hs.threshold rfl rfl hs.selected rfl
  | selectAllCustom =>
      obtain ⟨hcontrol, h⟩ := Option.ite_none_right_eq_some.mp h
      simp only [Bool.and_eq_true] at hcontrol
      obtain rfl := Option.some.inj h
      unfold selectAllCustom
      split <;> exact hs.control hcontrol.1 hs.threshold rfl rfl hs.selected rfl
  | setStrategy strategy =>
      obtain ⟨hreachable, h⟩ := Option.ite_none_right_eq_some.mp h
      obtain rfl := Option.some.inj h
      exact hs.control hreachable hs.threshold rfl rfl hs.selected rfl
  | setRollbackThreshold value =>
      obtain ⟨hcontrol, h⟩ := Option.ite_none_right_eq_some.mp h
      simp only [Bool.and_eq_true, decide_eq_true_eq] at hcontrol
      obtain rfl := Option.some.inj h
      exact hs.control hcontrol.1 hcontrol.2.1 rfl rfl hs.selected rfl
  | openRiskModal =>
      obtain ⟨-, h⟩ := Option.ite_none_right_eq_some.mp h
      obtain rfl := Option.some.inj h
      unfold handleOpenRiskModal
      split
      · exact hs.of_same rfl rfl rfl rfl id hs.posts
      · split
        · exact hs.of_same rfl rfl rfl rfl id hs.posts
        · split
          · exact hs.of_same rfl rfl rfl rfl id hs.posts
          · rename_i hsingle
            refine ⟨hs.threshold, hs.selected, fun _ => ?_, hs.posts⟩
            show singleModel s.targetDevices = true
            simpa using hsingle
  | closeRiskModal =>
      obtain ⟨-, h⟩ := Option.ite_none_right_eq_some.mp h
      obtain rfl := Option.some.inj h
      exact hs.of_same rfl rfl rfl rfl (fun hshown => by cases hshown) hs.posts
  | acknowledge checked =>
      obtain ⟨-, h⟩ := Option.ite_none_right_eq_some.mp h
      obtain rfl := Option.some.inj h
      exact hs.of_same rfl rfl rfl rfl id hs.posts
  | confirm =>
      simp only [step] at h
      split at h
      · rename_i firmware hfirmware
        split at h
        · rename_i hcontrol
          obtain rfl := Option.some.inj h
          simp only [Bool.and_eq_true] at hcontrol
          have hshown : s.dialogShown = true := by
            simp [dialogShown, hcontrol.1.1, hfirmware]
          unfold handleConfirmLaunch
          split
          · exact hs
          · rename_i htargets
            simp only [Bool.or_eq_true, decide_eq_true_eq, List.length_eq_zero_iff, not_or]
              at htargets
            refine hs.of_same rfl rfl rfl rfl id ?_
            intro p hp
            rcases List.mem_append.mp hp with hold | hnew
            · exact hs.posts p hold
            · obtain rfl := List.mem_singleton.mp hnew
              exact hs.post hfirmware hshown htargets.2
        · cases h
      · cases h
  | answered success message =>
      obtain ⟨-, h⟩ := Option.ite_none_right_eq_some.mp h
      obtain rfl := Option.some.inj h
      unfold LaunchPage.answered
      split
      · exact hs.of_same rfl rfl rfl rfl (fun hshown => by cases hshown) hs.posts
      · exact hs.of_same rfl rfl rfl rfl id hs.posts

/-- Every request of a run was planned. -/
theorem planned_run {as : List LaunchAction} {s : LaunchPage} (h : run step {} as = some s)
    (hundistracted : EachStep step Undistracted {} as) : ∀ p ∈ s.posts, p.Planned := by
  have hevery := EveryState.of_eachStep (I := PlannedInvariant)
    (fun _ _ _ hs ha hstep => plannedInvariant_step hs ha hstep) (fun _ hs => hs)
    ⟨⟨by decide, by decide⟩, fun hne => absurd rfl hne, fun hshown => (by cases hshown),
      fun _ hp => absurd hp List.not_mem_nil⟩ hundistracted
  exact (hevery.last h).posts

end LaunchPage

end OtaRobot.Frontend
