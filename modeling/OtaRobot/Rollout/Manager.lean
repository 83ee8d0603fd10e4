import Mathlib.Algebra.Order.Floor.Defs
import Mathlib.Data.Rat.Floor
import OtaRobot.Database
import OtaRobot.Library.Resumption

/-!
# The rollout manager

The functions of {lit}`internal/rollout/manager.go`, statement by statement.  Each
is a program over the operations below: the sqlc queries, {lit}`PublishCommand`, the
ticker of the observation window and the start of the canary goroutine.  Whether a
statement fails, what a publish returns and how many ticks fit into an observation
window is the environment's answer; the programs are the same for every schedule.

Log lines and the wrapped database error of an {lit}`fmt.Errorf` carry no
information for the callers and are left out.  {lit}`float64` is modelled by exact
rationals; {lit}`n * 0.20` and {lit}`n * 0.60` round to the values used here for
every fleet size that fits into memory.

Main results:

- Theorem {lit}`canaryPhases_devices`: the three phases of a canary partition the
  target list.
-/

namespace OtaRobot

/-! ## Commands and operations -/

/-- The {lit}`map[string]string` of an update command. -/
structure UpdateCommand where
  version : String
  hwModel : String := "all"
  downloadURL : String := ""
  sha256Checksum : String := ""
  signature : String := ""
deriving DecidableEq, Repr

/-- The reason text of a rollback: the formatted rate and threshold, or the
operator's request. -/
inductive RollbackReason where
  | breached (failureRate threshold : ℚ)
  | manualOperatorRequest
deriving DecidableEq, Repr

/-- What is sent to a robot. -/
inductive Command where
  | update (cmd : UpdateCommand)
  | rollback (version : String) (reason : RollbackReason)
deriving DecidableEq, Repr

/-- The command is an update. -/
def Command.isUpdate : Command → Bool
  | .update _ => true
  | .rollback _ _ => false

/-- What an HTTP handler answers. -/
inductive Reply where
  | error (status : Nat) (text : String)
  | created (id : DeploymentID) (totalDevices : Nat) (strategy : Strategy)
  | deployment (dep : Deployment) (devices : List DeploymentDevice) (targetVersion : String)
  | rolledBack (id : DeploymentID)
deriving DecidableEq, Repr

/-- One interaction of the control plane with its environment.  A published command
carries, as history, the deployment it is published for; {lit}`startRollout` marks
the entry of {lit}`StartRollout` in the history. -/
inductive Op where
  | sql (q : Query)
  | publishCommand (onBehalfOf : DeploymentID) (deviceID : DeviceID) (cmd : Command)
  | presignedGetObject (storageKey : String)
  | startRollout (depID : DeploymentID)
  | goRunCanary (depID : DeploymentID) (devices : List Device) (cmd : UpdateCommand)
  | newTicker (depID : DeploymentID) (phaseNum : Nat)
  | windowOver (depID : DeploymentID) (phaseNum : Nat)
  | respond (reply : Reply)
  | callbackReturn
deriving DecidableEq, Repr

/-- Answers: {lean}`none` is an error of a statement or of the presigner, the Boolean
of a publish says that it returned no error, and the ticker answers with the number
of its ticks before the deadline. -/
def Op.Ret : Op → Type
  | .sql q => Option q.Row
  | .publishCommand _ _ _ => Bool
  | .presignedGetObject _ => Option String
  | .newTicker _ _ => Nat
  | _ => Unit

/-- A procedure of the control plane, as a program over its operations. -/
abbrev Rollout := Prog Op.Ret

/-- What a manager function returns to its caller. -/
abbrev Outcome := Except String Unit

/-- A statement; {lit}`none` stands for its error. -/
def query (q : Query) : Rollout (Option q.Row) :=
  Prog.perform (Op.sql q)

/-- {lit}`GetDeployment`, at one of its call sites. -/
def getDeployment (id : DeploymentID) (site : ReadSite) : Rollout (Option Deployment) :=
  query (.getDeployment id site)

/-- {lit}`PublishCommand`. -/
def publishCommand (onBehalfOf : DeploymentID) (deviceID : DeviceID) (cmd : Command) :
    Rollout Bool :=
  Prog.perform (Op.publishCommand onBehalfOf deviceID cmd)

/-- {lit}`PresignedGetObject`. -/
def presignedGetObject (storageKey : String) : Rollout (Option String) :=
  Prog.perform (Op.presignedGetObject storageKey)

/-- A rollout begins. -/
def markStartRollout (depID : DeploymentID) : Rollout Unit :=
  Prog.perform (Op.startRollout depID)

/-- {lit}`go m.runCanary(...)`. -/
def goRunCanary (depID : DeploymentID) (devices : List Device) (cmd : UpdateCommand) :
    Rollout Unit :=
  Prog.perform (Op.goRunCanary depID devices cmd)

/-- The observation window of a phase opens; the answer is how often its ticker fires. -/
def newTicker (depID : DeploymentID) (phaseNum : Nat) : Rollout Nat :=
  Prog.perform (Op.newTicker depID phaseNum)

/-- The observation window of a phase is over. -/
def windowOver (depID : DeploymentID) (phaseNum : Nat) : Rollout Unit :=
  Prog.perform (Op.windowOver depID phaseNum)

/-- Sends the reply of a request. -/
def reply (r : Reply) : Rollout Unit :=
  Prog.perform (Op.respond r)

/-- A callback of the broker's client returns. -/
def callbackReturn : Rollout Unit :=
  Prog.perform Op.callbackReturn

@[simp]
theorem query_bind {α : Type} (q : Query) (f : Option q.Row → Rollout α) :
    (query q >>= f) = Prog.call (Op.sql q) f :=
  rfl

@[simp]
theorem getDeployment_bind {α : Type} (id : DeploymentID) (site : ReadSite)
    (f : Option Deployment → Rollout α) :
    (getDeployment id site >>= f) = Prog.call (Op.sql (.getDeployment id site)) f :=
  rfl

@[simp]
theorem publishCommand_bind {α : Type} (onBehalfOf : DeploymentID) (deviceID : DeviceID)
    (cmd : Command) (f : Bool → Rollout α) :
    (publishCommand onBehalfOf deviceID cmd >>= f) =
      Prog.call (Op.publishCommand onBehalfOf deviceID cmd) f :=
  rfl

@[simp]
theorem presignedGetObject_bind {α : Type} (storageKey : String)
    (f : Option String → Rollout α) :
    (presignedGetObject storageKey >>= f) = Prog.call (Op.presignedGetObject storageKey) f :=
  rfl

@[simp]
theorem markStartRollout_bind {α : Type} (depID : DeploymentID) (f : Unit → Rollout α) :
    (markStartRollout depID >>= f) = Prog.call (Op.startRollout depID) f :=
  rfl

@[simp]
theorem goRunCanary_bind {α : Type} (depID : DeploymentID) (devices : List Device)
    (cmd : UpdateCommand) (f : Unit → Rollout α) :
    (goRunCanary depID devices cmd >>= f) = Prog.call (Op.goRunCanary depID devices cmd) f :=
  rfl

@[simp]
theorem newTicker_bind {α : Type} (depID : DeploymentID) (phaseNum : Nat)
    (f : Nat → Rollout α) :
    (newTicker depID phaseNum >>= f) = Prog.call (Op.newTicker depID phaseNum) f :=
  rfl

@[simp]
theorem windowOver_bind {α : Type} (depID : DeploymentID) (phaseNum : Nat)
    (f : Unit → Rollout α) :
    (windowOver depID phaseNum >>= f) = Prog.call (Op.windowOver depID phaseNum) f :=
  rfl

/-! ## Events -/

/-- A progress report, as the manager takes it. -/
structure DeviceProgressEvent where
  deviceID : DeviceID
  status : String
  progress : Int
deriving DecidableEq, Repr

/-- An error report, as the manager takes it. -/
structure DeviceErrorEvent where
  deviceID : DeviceID
  error : String
deriving DecidableEq, Repr

/-! ## Rollback -/

/-- The version a row is rolled back to. -/
def DeploymentDevice.prevVer (row : DeploymentDevice) : String :=
  match row.previousVersion with
  | some v => if v ≠ "" then v else "1.0.0"
  | none => "1.0.0"

/-- The loop over the rows of the deployment. -/
def revertDevices (depID : DeploymentID) (reason : RollbackReason) :
    List DeploymentDevice → Rollout Unit
  | [] => return ()
  | d :: devs => do
      let _ ← publishCommand depID d.deviceID (.rollback d.prevVer reason)
      let _ ← query (.updateDeviceVersion d.deviceID d.prevVer)
      revertDevices depID reason devs

/-- {lit}`ExecuteRollback`. -/
def executeRollback (depID : DeploymentID) (reason : RollbackReason) : Rollout Outcome := do
  let some dep ← getDeployment depID .handler
    | return .error "failed to retrieve deployment for rollback"
  if dep.status = .rolledBack then
    return .ok ()
  else
    let some _ ← query (.updateDeploymentStatus dep.id .rolledBack)
      | return .error "failed to update deployment status to rolled_back"
    let some devs ← query (.listDeploymentDevices dep.id)
      | return .error "failed to list deployment devices for rollback"
    revertDevices dep.id reason devs
    return .ok ()

/-! ## Reports -/

/-- {lit}`UpdateDeviceVersion` with the version of the deployed firmware, if it can
be read. -/
def recordInstalledVersion (event : DeviceProgressEvent) (dep : Deployment) :
    Rollout Unit := do
  let some fw ← query (.getFirmwareVersion dep.firmwareVersionID)
    | return ()
  let fw : FirmwareVersion := fw
  let _ ← query (.updateDeviceVersion event.deviceID fw.version)
  return ()

/-- The completion branch of a success report. -/
def completeDeployment (depID : DeploymentID) (dep : Deployment) : Rollout Unit := do
  let _ ← query (.updateDeploymentStatus depID .completed)
  if dep.strategy = .canary then
    let _ ← query (.updateDeploymentPhase depID 3 100)
    return ()
  else
    return ()

/-- What a {lit}`(100, 'success')` report does after the row is written. -/
def creditSuccess (event : DeviceProgressEvent) (activeDD : DeploymentDevice) :
    Rollout Outcome := do
  let some dep ← getDeployment activeDD.deploymentID .handler
    | return .error "failed to fetch deployment"
  if dep.status = .rolledBack ∨ dep.status = .failed then
    return .ok ()
  else
    let _ ← query (.incrementDeploymentSuccess activeDD.deploymentID)
    recordInstalledVersion event dep
    -- `dep` was read before the increment, hence the `+ 1`.
    if dep.successCount + 1 + dep.failureCount ≥ dep.totalDevices then
      completeDeployment activeDD.deploymentID dep
      return .ok ()
    else
      return .ok ()

/-- {lit}`HandleDeviceProgress` from the row update on. -/
def progressOnRow (event : DeviceProgressEvent) (activeDD : DeploymentDevice) :
    Rollout Outcome := do
  let some _ ← query (.updateDeploymentDeviceStatus
      { deploymentID := activeDD.deploymentID
        deviceID := event.deviceID
        status := event.status
        progress := event.progress
        errorMessage := none })
    | return .error "failed to update device status"
  if event.status = "success" ∧ event.progress = 100 then
    creditSuccess event activeDD
  else
    return .ok ()

/-- {lit}`HandleDeviceProgress`. -/
def handleDeviceProgress (event : DeviceProgressEvent) : Rollout Outcome := do
  let some activeDD ← query (.getActiveDeploymentDeviceByDevice event.deviceID)
    | return .error ("no active deployment found for device " ++ event.deviceID)
  progressOnRow event activeDD

/-- {lit}`float64(dep.FailureCount+1) / float64(dep.TotalDevices)`. -/
def Deployment.failureRate (dep : Deployment) : ℚ :=
  ((dep.failureCount + 1 : Nat) : ℚ) / (dep.totalDevices : ℚ)

/-- The threshold test of {lit}`HandleDeviceError`. -/
def Deployment.breached (dep : Deployment) : Bool :=
  dep.failureRate ≥ dep.rollbackThreshold

/-- What an error report does once the failure is counted. -/
def evaluateFailure (activeDD : DeploymentDevice) : Rollout Outcome := do
  let some dep ← getDeployment activeDD.deploymentID .handler
    | return .error "failed to fetch deployment"
  if dep.status = .running ∧ dep.breached then
    executeRollback dep.id (.breached dep.failureRate dep.rollbackThreshold)
  -- `dep` was read after the increment; the `+ 1` is there all the same, and the
  -- status is not looked at.
  else if dep.successCount + dep.failureCount + 1 ≥ dep.totalDevices then
    let _ ← query (.updateDeploymentStatus activeDD.deploymentID .completed)
    return .ok ()
  else
    return .ok ()

/-- {lit}`HandleDeviceError` from the terminal-row guard on. -/
def errorOnRow (event : DeviceErrorEvent) (activeDD : DeploymentDevice) :
    Rollout Outcome := do
  if activeDD.status = "success" ∨ activeDD.status = "failed" then
    return .ok ()
  else
    let some _ ← query (.updateDeploymentDeviceStatus
        { deploymentID := activeDD.deploymentID
          deviceID := event.deviceID
          status := "failed"
          progress := activeDD.progress
          errorMessage := some event.error })
      | return .error "failed to update failed device status"
    let _ ← query (.incrementDeploymentFailure activeDD.deploymentID)
    evaluateFailure activeDD

/-- {lit}`HandleDeviceError`: the rate is taken after the failure was counted. -/
def handleDeviceError (event : DeviceErrorEvent) : Rollout Outcome := do
  let some activeDD ← query (.getActiveDeploymentDeviceByDevice event.deviceID)
    | return .error ("no active deployment found for device " ++ event.deviceID)
  errorOnRow event activeDD

/-! ## Reconciliation -/

/-- The canary part of the reconciliation, on the row as it was last returned. -/
def reconcilePhase (dep : Deployment) : Rollout Deployment := do
  if dep.strategy = .canary ∧ dep.currentPhase < 3 then
    let updated ← query (.updateDeploymentPhase dep.id 3 100)
    return Option.getD updated dep
  else
    return dep

/-- The reconciliation of a deployment that is read: one that has counted every device is
completed. -/
def reconcile (depID : DeploymentID) : Rollout (Option Deployment) := do
  let some dep ← getDeployment depID .handler
    | return none
  if dep.totalDevices > 0 ∧ dep.successCount + dep.failureCount ≥ dep.totalDevices ∧
      dep.status ≠ .rolledBack ∧ dep.status ≠ .failed then
    if dep.status ≠ .completed then
      let updated ← query (.updateDeploymentStatus dep.id .completed)
      let dep ← reconcilePhase (Option.getD updated dep)
      return some dep
    else
      let dep ← reconcilePhase dep
      return some dep
  else
    return some dep

/-! ## Dispatch -/

/-- {lit}`clampPhaseEnd`: the ceiling of the fraction, between one and {lit}`n`. -/
def clampPhaseEnd (n : Nat) (fraction : ℚ) : Nat :=
  let stop := ((n : ℚ) * fraction).ceil.toNat
  let stop := if stop < 1 then 1 else stop
  if stop > n then n else stop

/-- A phase of a canary and its slice of the devices. -/
structure Phase where
  phaseNum : Nat
  percentage : Nat
  devices : List Device
deriving DecidableEq, Repr

/-- The end of the first slice. -/
def p1End (n : Nat) : Nat :=
  clampPhaseEnd n (1 / 5)

/-- The end of the second slice, behind the first one where there is room. -/
def p2End (n : Nat) : Nat :=
  let stop := clampPhaseEnd n (3 / 5)
  if stop ≤ p1End n ∧ p1End n < n then p1End n + 1 else stop

/-- The three slices. -/
def canaryPhases (devices : List Device) : List Phase :=
  let n := devices.length
  [{ phaseNum := 1, percentage := 20, devices := devices.take (p1End n) },
   { phaseNum := 2, percentage := 60, devices := (devices.take (p2End n)).drop (p1End n) },
   { phaseNum := 3, percentage := 100, devices := devices.drop (p2End n) }]

/-- The end of a slice, without the case distinction. -/
theorem clampPhaseEnd_eq (n : Nat) (fraction : ℚ) :
    clampPhaseEnd n fraction = min (max ⌈(n : ℚ) * fraction⌉.toNat 1) n := by
  have hceil : ((n : ℚ) * fraction).ceil = ⌈(n : ℚ) * fraction⌉ := by
    apply le_antisymm
    · exact Rat.ceil_le_iff.mpr (Int.le_ceil _)
    · exact Int.ceil_le.mpr (Rat.ceil_le_iff.mp le_rfl)
  simp only [clampPhaseEnd, hceil]
  by_cases hone : ⌈(n : ℚ) * fraction⌉.toNat < 1
  · rw [if_pos hone, Nat.max_eq_right (by omega)]
    split <;> omega
  · rw [if_neg hone, Nat.max_eq_left (by omega)]
    split <;> omega

/-- No slice ends behind the last device. -/
theorem clampPhaseEnd_le (n : Nat) (fraction : ℚ) : clampPhaseEnd n fraction ≤ n := by
  rw [clampPhaseEnd_eq]
  omega

/-- The first slice is not empty. -/
theorem clampPhaseEnd_pos {n : Nat} (hn : 0 < n) (fraction : ℚ) :
    0 < clampPhaseEnd n fraction := by
  rw [clampPhaseEnd_eq]
  omega

/-- A larger share ends later. -/
theorem clampPhaseEnd_mono (n : Nat) {fraction fraction' : ℚ} (h : fraction ≤ fraction') :
    clampPhaseEnd n fraction ≤ clampPhaseEnd n fraction' := by
  have hceil : ⌈(n : ℚ) * fraction⌉.toNat ≤ ⌈(n : ℚ) * fraction'⌉.toNat :=
    Int.toNat_le_toNat (Int.ceil_mono (mul_le_mul_of_nonneg_left h (Nat.cast_nonneg n)))
  rw [clampPhaseEnd_eq, clampPhaseEnd_eq]
  omega

/-- The first slice ends within the devices. -/
theorem p1End_le (n : Nat) : p1End n ≤ n :=
  clampPhaseEnd_le n _

/-- The first slice is not empty. -/
theorem p1End_pos {n : Nat} (hn : 0 < n) : 0 < p1End n :=
  clampPhaseEnd_pos hn _

/-- The second slice ends within the devices. -/
theorem p2End_le (n : Nat) : p2End n ≤ n := by
  have hclamp : clampPhaseEnd n (3 / 5) ≤ n := clampPhaseEnd_le n _
  simp only [p2End]
  split
  · omega
  · exact hclamp

/-- The second slice ends behind the first. -/
theorem p1End_le_p2End (n : Nat) : p1End n ≤ p2End n := by
  have hmono : p1End n ≤ clampPhaseEnd n (3 / 5) := clampPhaseEnd_mono n (by norm_num)
  simp only [p2End]
  split
  · omega
  · exact hmono

/-- The phases partition the target list. -/
theorem canaryPhases_devices (devices : List Device) :
    ((canaryPhases devices).map fun p => p.devices).flatten = devices := by
  have htake : devices.take (p1End devices.length) =
      (devices.take (p2End devices.length)).take (p1End devices.length) := by
    rw [List.take_take, Nat.min_eq_left (p1End_le_p2End _)]
  simp only [canaryPhases, List.map_cons, List.map_nil, List.flatten_cons, List.flatten_nil,
    List.append_nil]
  rw [← List.append_assoc, htake, List.take_append_drop, List.take_append_drop]

/-- The loop that publishes the update command, of {lit}`StartRollout` and of each
phase of {lit}`runCanary`. -/
def dispatch (depID : DeploymentID) (cmd : UpdateCommand) : List Device → Rollout Unit
  | [] => return ()
  | dev :: devs => do
      let _ ← publishCommand depID dev.id (.update cmd)
      dispatch depID cmd devs

/-- The polls of the observation window; {lit}`true` when the rollout is aborted. -/
def pollStatus (depID : DeploymentID) (phaseNum : Nat) : Nat → Rollout Bool
  | 0 => do
      windowOver depID phaseNum
      return false
  | ticks + 1 => do
      let some dep ← getDeployment depID (.observeWindow phaseNum)
        | return true
      if dep.status ≠ .running then
        return true
      else
        pollStatus depID phaseNum ticks

/-- The observation window of a phase; {lit}`true` when the rollout is aborted. -/
def observeWindow (depID : DeploymentID) (phaseNum : Nat) : Rollout Bool := do
  let ticks ← newTicker depID phaseNum
  pollStatus depID phaseNum ticks

/-- The loop over the phases; {lit}`true` when it ends without being halted.
{lit}`n` is the fleet size. -/
def runPhases (depID : DeploymentID) (cmd : UpdateCommand) (n : Nat) :
    List Phase → Rollout Bool
  | [] => return true
  | p :: ps => do
      if p.devices.length = 0 then
        runPhases depID cmd n ps
      else
        let some cur ← getDeployment depID (.phaseCheck p.phaseNum)
          | return false
        if cur.status ≠ .running then
          return false
        else
          let _ ← query (.updateDeploymentPhase depID p.phaseNum p.percentage)
          dispatch depID cmd p.devices
          if p.phaseNum = 3 ∨ (p2End n = n ∧ p.phaseNum = 2) then
            return true
          else
            let aborted ← observeWindow depID p.phaseNum
            if aborted then
              return false
            else
              runPhases depID cmd n ps

/-- The phase record at the end of a canary that was not halted. -/
def finishCanary (depID : DeploymentID) : Rollout Unit := do
  let some cur ← getDeployment depID .rolloutEnd
    | return ()
  if cur.status ≠ .rolledBack ∧ cur.status ≠ .failed then
    let _ ← query (.updateDeploymentPhase depID 3 100)
    return ()
  else
    return ()

/-- {lit}`runCanary`: the phases in order, then the end of the canary. -/
def runCanary (depID : DeploymentID) (devices : List Device) (cmd : UpdateCommand) :
    Rollout Unit := do
  if devices.length = 0 then
    return ()
  else
    let finished ← runPhases depID cmd devices.length (canaryPhases devices)
    if finished then
      finishCanary depID
    else
      return ()

/-- {lit}`StartRollout`, for either strategy. -/
def startRollout (depID : DeploymentID) (strategy : Strategy) (targetDevices : List Device)
    (cmd : UpdateCommand) : Rollout Outcome := do
  markStartRollout depID
  if targetDevices.length = 0 then
    return .error "cannot start rollout with zero target devices"
  else if strategy = .canary then
    goRunCanary depID targetDevices cmd
    return .ok ()
  else
    dispatch depID cmd targetDevices
    let _ ← query (.updateDeploymentPhase depID 3 100)
    return .ok ()

end OtaRobot
