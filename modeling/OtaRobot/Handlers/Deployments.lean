import OtaRobot.Rollout.Manager

/-!
# The deployment handlers

{lit}`CreateDeployment`, {lit}`GetDeployment` and {lit}`Rollback` of
{lit}`internal/handlers/deployments.go`.  A request is the parsed body: its
firmware id is {lean}`none` when the text is not a UUID.

Main results:

- Theorem {lit}`CreateDeploymentRequest.threshold_pos`: the default keeps the
  threshold positive.
-/

namespace OtaRobot

/-- The body of a request for a deployment. -/
structure CreateDeploymentRequest where
  firmwareID : Option FirmwareID
  strategy : String := ""
  hwModel : String := ""
  deviceIDs : List DeviceID := []
  rollbackThreshold : ℚ := 0
deriving DecidableEq, Repr

/-! ## Request checks -/

/-- The strategy of a request, {lean}`none` when it is neither of the two. -/
def CreateDeploymentRequest.parseStrategy (req : CreateDeploymentRequest) :
    Option Strategy :=
  let strategy := if req.strategy = "" then "canary" else req.strategy
  if strategy = "canary" then some .canary
  else if strategy = "full" then some .full
  else none

/-- The threshold of a request, with the default for a non-positive one. -/
def CreateDeploymentRequest.threshold (req : CreateDeploymentRequest) : ℚ :=
  if req.rollbackThreshold ≤ 0 then 1 / 5 else req.rollbackThreshold

/-- The thresholds {lit}`CreateDeployment` accepts. -/
def AdmissibleThreshold (t : ℚ) : Prop :=
  1 / 20 ≤ t ∧ t ≤ 1 / 2

instance (t : ℚ) : Decidable (AdmissibleThreshold t) :=
  inferInstanceAs (Decidable (_ ∧ _))

/-- The model the deployment is for. -/
def CreateDeploymentRequest.targetHw (req : CreateDeploymentRequest) : String :=
  if req.hwModel = "" then "all" else req.hwModel

/-! ## Target selection -/

/-- The loop over {lit}`device_ids`: unknown devices are skipped, an incompatible one
ends the request. -/
def lookupTargets (targetHw : String) :
    List DeviceID → List Device → Rollout (Except Reply (List Device))
  | [], targetDevices => return .ok targetDevices
  | devID :: devIDs, targetDevices => do
      let some dev ← query (.getDevice devID)
        | lookupTargets targetHw devIDs targetDevices
      let dev : Device := dev
      if targetHw ≠ "all" ∧ dev.hwModel ≠ targetHw then
        return .error (.error 400 ("device " ++ dev.id ++ " has incompatible hardware model " ++
          dev.hwModel ++ " for deployment target " ++ targetHw))
      else
        lookupTargets targetHw devIDs (targetDevices ++ [dev])

/-- The online devices with a compatible model. -/
def onlineTargets (targetHw : String) (allDevs : List Device) : List Device :=
  allDevs.filter fun dev => dev.status = "online" && (targetHw = "all" || dev.hwModel = targetHw)

/-- The devices named in the request, or all of them. -/
def selectTargets (targetHw : String) (deviceIDs : List DeviceID) :
    Rollout (Except Reply (List Device)) := do
  if deviceIDs.length > 0 then
    lookupTargets targetHw deviceIDs []
  else
    let some allDevs ← query .listDevices
      | return .error (.error 500 "failed to list devices")
    return .ok (onlineTargets targetHw allDevs)

/-! ## The handlers -/

/-- The loop that inserts one row for each target. -/
def createDeploymentDevices (depID : DeploymentID) : List Device → Rollout Unit
  | [] => return ()
  | dev :: devs => do
      let _ ← query (.createDeploymentDevice
        { deploymentID := depID
          deviceID := dev.id
          previousVersion := some dev.currentVersion })
      createDeploymentDevices depID devs

/-- The canary percentage a deployment starts with. -/
def initPercentage : Strategy → Nat
  | .canary => 20
  | .full => 100

/-- {lit}`CreateDeployment` from the insert on. -/
def launchDeployment (fw : FirmwareVersion) (presignedURL : String) (strategy : Strategy)
    (threshold : ℚ) (targetHw : String) (targetDevices : List Device) : Rollout Unit := do
  let some dep ← query (.createDeployment
      { firmwareVersionID := fw.id
        strategy := strategy
        canaryPercentage := initPercentage strategy
        totalDevices := targetDevices.length
        rollbackThreshold := threshold
        createdBy := some "operator" })
    | reply (.error 500 "failed to create deployment")
  let dep : Deployment := dep
  let _ ← query (.updateDeploymentStatus dep.id .running)
  createDeploymentDevices dep.id targetDevices
  let cmd : UpdateCommand :=
    { version := fw.version
      hwModel := targetHw
      downloadURL := presignedURL
      sha256Checksum := fw.sha256Checksum
      signature := Option.getD fw.ecdsaSignature "" }
  match ← startRollout dep.id strategy targetDevices cmd with
  | .error _ => reply (.error 500 "failed to start rollout")
  | .ok () => reply (.created dep.id targetDevices.length strategy)

/-- {lit}`CreateDeployment` from the selection of the targets on. -/
def createForTargets (req : CreateDeploymentRequest) (fw : FirmwareVersion)
    (presignedURL : String) (strategy : Strategy) : Rollout Unit := do
  match ← selectTargets req.targetHw req.deviceIDs with
  | .error r => reply r
  | .ok targetDevices =>
      if targetDevices.length = 0 then
        reply (.error 400 "no eligible target devices found matching hardware model")
      else
        launchDeployment fw presignedURL strategy req.threshold req.targetHw targetDevices

/-- {lit}`CreateDeployment`, with its checks in order. -/
def createDeployment (req : CreateDeploymentRequest) : Rollout Unit := do
  match req.firmwareID with
  | none => reply (.error 400 "invalid firmware_id UUID")
  | some firmwareID =>
      let some fw ← query (.getFirmwareVersion firmwareID)
        | reply (.error 404 "firmware version not found")
      let fw : FirmwareVersion := fw
      let some presignedURL ← presignedGetObject fw.storageKey
        | reply (.error 500 "failed to generate download URL")
      match req.parseStrategy with
      | none => reply (.error 400 "strategy must be canary or full")
      | some strategy =>
          if AdmissibleThreshold req.threshold then
            createForTargets req fw presignedURL strategy
          else
            reply (.error 400 "rollback_threshold must be between 0.05 and 0.50")

/-- The {lit}`target_version` of the answer, empty when it cannot be read. -/
def targetVersion (firmwareVersionID : FirmwareID) : Rollout String := do
  let some fw ← query (.getFirmwareVersion firmwareVersionID)
    | return ""
  let fw : FirmwareVersion := fw
  return fw.version

/-- {lit}`GetDeployment`: the row is reconciled before it is answered. -/
def getDeploymentHandler (depID : DeploymentID) : Rollout Unit := do
  let some dep ← getDeployment depID .handler
    | reply (.error 404 "deployment not found")
  let reconciled ← reconcile dep.id
  let dep := Option.getD reconciled dep
  let some devs ← query (.listDeploymentDevices dep.id)
    | reply (.error 500 "failed to list deployment devices")
  let version ← targetVersion dep.firmwareVersionID
  reply (.deployment dep devs version)

/-- {lit}`RollbackDeployment`. -/
def rollbackHandler (depID : DeploymentID) : Rollout Unit := do
  match ← executeRollback depID .manualOperatorRequest with
  | .error text => reply (.error 500 ("failed to execute rollback: " ++ text))
  | .ok () => reply (.rolledBack depID)

/-! ## Thresholds -/

theorem CreateDeploymentRequest.threshold_pos (req : CreateDeploymentRequest) :
    0 < req.threshold := by
  unfold CreateDeploymentRequest.threshold
  split
  · norm_num
  · rename_i h
    exact lt_of_not_ge h

end OtaRobot
