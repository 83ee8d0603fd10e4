import OtaRobot.ControlPlane

/-!
# Operations of the loops

The loops of the manager and of the handlers issue only a few kinds of operations.
The lemmas of this file say which; later files never unfold a loop again unless the
order of its operations matters.

Main results:

- Theorem {lit}`revertDevices_ops`: a rollback publishes rollback commands and writes
  device versions.
- Theorem {lit}`dispatch_ops`: a dispatch loop publishes the update command.
- Theorem {lit}`runCanary_ops`: a canary reads its deployment, writes its phase and
  publishes the update command.
- Theorem {lit}`createDeployment_ops`: a creation completes and rolls back nothing.
- Theorem {lit}`handler_ops`: the report, rollback and read handlers publish no update
  command and set no deployment running.
-/

namespace OtaRobot

open Prog

/-- No assumption on the answers. -/
abbrev AnyAnswer (op : Op) (_ : op.Ret) : Prop :=
  True

/-! ## Rollback -/

/-- What the loop of a rollback does for a row: it sends a rollback command and looks at nothing. -/
inductive RevertOp (depID : DeploymentID) (reason : RollbackReason) : Op → Prop where
  | publish (deviceID : DeviceID) (version : String) :
      RevertOp depID reason (.publishCommand depID deviceID (.rollback version reason))
  | version (deviceID : DeviceID) (version : String) :
      RevertOp depID reason (.sql (.updateDeviceVersion deviceID version))

/-- The operations of the loop of a rollback. -/
theorem revertDevices_ops (depID : DeploymentID) (reason : RollbackReason)
    (devs : List DeploymentDevice) :
    Always AnyAnswer (RevertOp depID reason) (revertDevices depID reason devs) := by
  induction devs with
  | nil => trivial
  | cons d devs ih =>
      exact ⟨.publish _ _, fun _ _ => ⟨.version _ _, fun _ _ => ih⟩⟩

/-! ## Dispatch -/

/-- What the loop of a rollout does for a device. -/
inductive DispatchOp (depID : DeploymentID) (cmd : UpdateCommand) : Op → Prop where
  | publish (deviceID : DeviceID) :
      DispatchOp depID cmd (.publishCommand depID deviceID (.update cmd))

/-- The operations of the loop of a rollout. -/
theorem dispatch_ops (depID : DeploymentID) (cmd : UpdateCommand) (devs : List Device) :
    Always AnyAnswer (DispatchOp depID cmd) (dispatch depID cmd devs) := by
  induction devs with
  | nil => trivial
  | cons dev devs ih => exact ⟨.publish _, fun _ _ => ih⟩

/-! ## Creation -/

/-- What the loop of a creation does for a device. -/
inductive CreateRowOp (depID : DeploymentID) : Op → Prop where
  | insert (deviceID : DeviceID) (previousVersion : Option String) :
      CreateRowOp depID (.sql (.createDeploymentDevice ⟨depID, deviceID, previousVersion⟩))

/-- The operations of the loop of a creation. -/
theorem createDeploymentDevices_ops (depID : DeploymentID) (devs : List Device) :
    Always AnyAnswer (CreateRowOp depID) (createDeploymentDevices depID devs) := by
  induction devs with
  | nil => trivial
  | cons dev devs ih => exact ⟨.insert _ _, fun _ _ => ih⟩

/-- How targets are found. -/
inductive SelectOp : Op → Prop where
  | device (id : DeviceID) : SelectOp (.sql (.getDevice id))
  | all : SelectOp (.sql .listDevices)

/-- The operations of the loop over {lit}`device_ids`. -/
theorem lookupTargets_ops (targetHw : String) (devIDs : List DeviceID)
    (targets : List Device) :
    Always AnyAnswer SelectOp (lookupTargets targetHw devIDs targets) := by
  induction devIDs generalizing targets with
  | nil => trivial
  | cons devID devIDs ih =>
      rw [lookupTargets, query_bind]
      refine ⟨.device _, ?_⟩
      rintro (_ | dev) -
      · exact ih targets
      · dsimp only
        split
        · trivial
        · exact ih _

/-- The operations that find the targets. -/
theorem selectTargets_ops (targetHw : String) (devIDs : List DeviceID) :
    Always AnyAnswer SelectOp (selectTargets targetHw devIDs) := by
  unfold selectTargets
  split
  · exact lookupTargets_ops _ _ _
  · refine ⟨.all, ?_⟩
    rintro (_ | devs) -
    · trivial
    · trivial

/-! ## Canary -/

/-- What a canary of the deployment does. -/
inductive CanaryOp (depID : DeploymentID) (cmd : UpdateCommand) : Op → Prop where
  | read (site : ReadSite) : CanaryOp depID cmd (.sql (.getDeployment depID site))
  | phase (phaseNum percentage : Nat) :
      CanaryOp depID cmd (.sql (.updateDeploymentPhase depID phaseNum percentage))
  | publish (deviceID : DeviceID) :
      CanaryOp depID cmd (.publishCommand depID deviceID (.update cmd))
  | ticker (phaseNum : Nat) : CanaryOp depID cmd (.newTicker depID phaseNum)
  | windowOver (phaseNum : Nat) : CanaryOp depID cmd (.windowOver depID phaseNum)

/-- The operations of the polls. -/
theorem pollStatus_ops (depID : DeploymentID) (cmd : UpdateCommand) (phaseNum ticks : Nat) :
    Always AnyAnswer (CanaryOp depID cmd) (pollStatus depID phaseNum ticks) := by
  induction ticks with
  | zero => exact ⟨.windowOver _, fun _ _ => trivial⟩
  | succ ticks ih =>
      rw [pollStatus, getDeployment_bind]
      refine ⟨.read _, ?_⟩
      rintro (_ | dep) -
      · trivial
      · dsimp only
        split
        · trivial
        · exact ih

/-- The operations of an observation window. -/
theorem observeWindow_ops (depID : DeploymentID) (cmd : UpdateCommand) (phaseNum : Nat) :
    Always AnyAnswer (CanaryOp depID cmd) (observeWindow depID phaseNum) :=
  ⟨.ticker _, fun ticks _ => pollStatus_ops depID cmd phaseNum ticks⟩

/-- The operations of the loop over the phases. -/
theorem runPhases_ops (depID : DeploymentID) (cmd : UpdateCommand) (n : Nat)
    (ps : List Phase) :
    Always AnyAnswer (CanaryOp depID cmd) (runPhases depID cmd n ps) := by
  induction ps with
  | nil => trivial
  | cons p ps ih =>
      rw [runPhases, getDeployment_bind]
      split
      · exact ih
      · refine ⟨.read _, ?_⟩
        rintro (_ | cur) -
        · trivial
        · dsimp only
          split
          · trivial
          · rw [query_bind]
            refine ⟨.phase _ _, fun _ _ => ?_⟩
            refine Always.bind ?_ fun _ => ?_
            · exact (dispatch_ops depID cmd p.devices).mono (fun _ _ h => h)
                (fun op h => by cases h; exact .publish _)
            · split
              · trivial
              · refine Always.bind (observeWindow_ops depID cmd p.phaseNum) fun aborted => ?_
                split
                · trivial
                · exact ih

/-- The operations at the end of a canary. -/
theorem finishCanary_ops (depID : DeploymentID) (cmd : UpdateCommand) :
    Always AnyAnswer (CanaryOp depID cmd) (finishCanary depID) := by
  rw [finishCanary, getDeployment_bind]
  refine ⟨.read _, ?_⟩
  rintro (_ | cur) -
  · trivial
  · dsimp only
    split
    · exact ⟨.phase _ _, fun _ _ => trivial⟩
    · trivial

/-- The operations of a canary. -/
theorem runCanary_ops (depID : DeploymentID) (devices : List Device) (cmd : UpdateCommand) :
    Always AnyAnswer (CanaryOp depID cmd) (runCanary depID devices cmd) := by
  unfold runCanary
  split
  · trivial
  · refine Always.bind (runPhases_ops depID cmd _ _) fun finished => ?_
    split
    · exact finishCanary_ops depID cmd
    · trivial

/-! ## Launch -/

/-- The statements of a creation: it completes nothing, rolls nothing back and reads no
deployment. -/
def Query.isLaunch : Query → Bool
  | .createDeployment _ | .updateDeploymentStatus _ .running | .createDeploymentDevice _
  | .updateDeploymentPhase _ _ _ | .getFirmwareVersion _ | .getDevice _ | .listDevices => true
  | _ => false

/-- The creation of a deployment and its direct dispatch. -/
inductive LaunchOp : Op → Prop where
  | statement (q : Query) (h : q.isLaunch = true) : LaunchOp (.sql q)
  | publish (id : DeploymentID) (deviceID : DeviceID) (cmd : UpdateCommand) :
      LaunchOp (.publishCommand id deviceID (.update cmd))
  | presign (storageKey : String) : LaunchOp (.presignedGetObject storageKey)
  | start (id : DeploymentID) : LaunchOp (.startRollout id)
  | canary (id : DeploymentID) (devices : List Device) (cmd : UpdateCommand) :
      LaunchOp (.goRunCanary id devices cmd)
  | respond (r : Reply) : LaunchOp (.respond r)

/-- The operations that start a rollout. -/
theorem startRollout_ops (depID : DeploymentID) (strategy : Strategy) (devs : List Device)
    (cmd : UpdateCommand) :
    Always AnyAnswer LaunchOp (OtaRobot.startRollout depID strategy devs cmd) := by
  rw [OtaRobot.startRollout, markStartRollout_bind]
  refine ⟨.start _, fun _ _ => ?_⟩
  split
  · trivial
  · split
    · exact ⟨.canary _ _ _, fun _ _ => trivial⟩
    · refine Always.bind ?_ fun _ => ?_
      · exact (dispatch_ops depID cmd devs).mono (fun _ _ h => h)
          (by rintro _ ⟨⟩; exact .publish _ _ _)
      · exact ⟨.statement _ rfl, fun _ _ => trivial⟩

/-- The operations from the insertion of a deployment on. -/
theorem launchDeployment_ops (fw : FirmwareVersion) (url : String) (strategy : Strategy)
    (threshold : ℚ) (targetHw : String) (devs : List Device) :
    Always AnyAnswer LaunchOp
      (launchDeployment fw url strategy threshold targetHw devs) := by
  rw [launchDeployment, query_bind]
  refine ⟨.statement _ rfl, ?_⟩
  rintro (_ | dep) -
  · exact ⟨.respond _, fun _ _ => trivial⟩
  · dsimp only
    rw [query_bind]
    refine ⟨.statement _ rfl, fun _ _ => ?_⟩
    refine Always.bind ?_ fun _ => ?_
    · exact (createDeploymentDevices_ops dep.id devs).mono (fun _ _ h => h)
        (by rintro _ ⟨⟩; exact .statement _ rfl)
    · refine Always.bind (startRollout_ops _ _ _ _) fun outcome => ?_
      cases outcome <;> exact ⟨.respond _, fun _ _ => trivial⟩

/-- The operations of {lit}`CreateDeployment` before the insert, and its answer. -/
inductive RequestOp : Op → Prop where
  | firmware (id : FirmwareID) : RequestOp (.sql (.getFirmwareVersion id))
  | presign (storageKey : String) : RequestOp (.presignedGetObject storageKey)
  | device (id : DeviceID) : RequestOp (.sql (.getDevice id))
  | all : RequestOp (.sql .listDevices)
  | respond (r : Reply) : RequestOp (.respond r)

/-- A creation obeys every discipline that its request checks do not move and that
the launch obeys from there, for the targets that the selection can return. -/
theorem createDeployment_obeys_of_targets {γ : Type} {A : Discipline Op.Ret γ}
    {post : γ → Prop} {D : List Device → Prop} {g : γ} {req : CreateDeploymentRequest}
    (hrequest : ∀ op, RequestOp op → A.allowed g op ∧ ∀ r, A.next g op r = g)
    (hpost : post g)
    (hselect : Obeys A (fun g' targets => g' = g ∧ ∀ devs, targets = .ok devs → D devs) g
      (selectTargets req.targetHw req.deviceIDs))
    (hlaunch : ∀ fw url strategy devs, D devs → devs.length ≠ 0 →
      AdmissibleThreshold req.threshold → Obeys A (fun g' _ => post g') g
        (launchDeployment fw url strategy req.threshold req.targetHw devs)) :
    Obeys A (fun g' _ => post g') g (OtaRobot.createDeployment req) := by
  have hreply : ∀ r, Obeys A (fun g' _ => post g') g (reply r) := by
    intro r
    refine ⟨(hrequest _ (.respond r)).1, fun r' _ => ?_⟩
    rw [(hrequest _ (.respond r)).2 r']
    exact hpost
  have htargets : AdmissibleThreshold req.threshold → ∀ fw url strategy,
      Obeys A (fun g' _ => post g') g (createForTargets req fw url strategy) := by
    intro hthreshold fw url strategy
    refine hselect.bind ?_
    rintro g' targets ⟨rfl, hdevs⟩
    cases targets with
    | error r => exact hreply r
    | ok targetDevices =>
        dsimp only
        split
        · exact hreply _
        · rename_i hne
          exact hlaunch _ _ _ _ (hdevs targetDevices rfl) hne hthreshold
  unfold OtaRobot.createDeployment
  split
  · exact hreply _
  · rw [query_bind]
    refine ⟨(hrequest _ (.firmware _)).1, fun r _ => ?_⟩
    rw [(hrequest _ (.firmware _)).2 r]
    rcases r with _ | fw
    · exact hreply _
    · dsimp only
      rw [presignedGetObject_bind]
      refine ⟨(hrequest _ (.presign _)).1, fun r _ => ?_⟩
      rw [(hrequest _ (.presign _)).2 r]
      rcases r with _ | url
      · exact hreply _
      · dsimp only
        split
        · exact hreply _
        · split
          · rename_i hthreshold
            exact htargets hthreshold _ _ _
          · exact hreply _

/-- The same when nothing about the targets matters. -/
theorem createDeployment_obeys {γ : Type} {A : Discipline Op.Ret γ} {g : γ}
    (hrequest : ∀ op, RequestOp op → A.allowed g op ∧ ∀ r, A.next g op r = g)
    (hlaunch : ∀ fw url strategy threshold targetHw devs, Obeys A (fun _ _ => True) g
      (launchDeployment fw url strategy threshold targetHw devs))
    (req : CreateDeploymentRequest) :
    Obeys A (fun _ _ => True) g (OtaRobot.createDeployment req) := by
  refine createDeployment_obeys_of_targets (D := fun _ => True) hrequest trivial ?_
    fun fw url strategy devs _ _ _ => hlaunch fw url strategy _ _ devs
  have hselect : Obeys A (fun g' _ => g' = g) g (selectTargets req.targetHw req.deviceIDs) := by
    refine (selectTargets_ops req.targetHw req.deviceIDs).obeys (fun _ _ _ _ => trivial)
      ?_ ?_ rfl
    · rintro _ op rfl (_ | _)
      · exact (hrequest _ (.device _)).1
      · exact (hrequest _ .all).1
    · rintro _ op r rfl (_ | _)
      · exact (hrequest _ (.device _)).2 r
      · exact (hrequest _ .all).2 r
  exact hselect.mono fun _ _ h => ⟨h, fun _ _ => trivial⟩

/-- What holds of the checks of a request and of the launch holds of the request. -/
theorem createDeployment_always {Ok : (op : Op) → op.Ret → Prop} {Q : Op → Prop}
    (hrequest : ∀ op, RequestOp op → Q op)
    (hlaunch : ∀ fw url strategy threshold targetHw devs, Always Ok Q
      (launchDeployment fw url strategy threshold targetHw devs))
    (req : CreateDeploymentRequest) : Always Ok Q (OtaRobot.createDeployment req) :=
  always_iff_obeys.mpr (createDeployment_obeys
    (fun op hop => ⟨hrequest op hop, fun _ => rfl⟩)
    (fun fw url strategy threshold targetHw devs =>
      always_iff_obeys.mp (hlaunch fw url strategy threshold targetHw devs)) req)

/-- The operations of a request for a deployment. -/
theorem createDeployment_ops (req : CreateDeploymentRequest) :
    Always AnyAnswer LaunchOp (OtaRobot.createDeployment req) := by
  refine createDeployment_always ?_ launchDeployment_ops req
  rintro op (_ | _ | _ | _ | _)
  · exact .statement _ rfl
  · exact .presign _
  · exact .statement _ rfl
  · exact .statement _ rfl
  · exact .respond _

/-! ## Handlers -/

/-- The operations of the report, rollback and read handlers. -/
inductive HandlerOp : Op → Prop where
  | active (deviceID : DeviceID) : HandlerOp (.sql (.getActiveDeploymentDeviceByDevice deviceID))
  | row (p : UpdateDeploymentDeviceStatusParams) :
      HandlerOp (.sql (.updateDeploymentDeviceStatus p))
  | read (id : DeploymentID) : HandlerOp (.sql (.getDeployment id .handler))
  | success (id : DeploymentID) : HandlerOp (.sql (.incrementDeploymentSuccess id))
  | failure (id : DeploymentID) : HandlerOp (.sql (.incrementDeploymentFailure id))
  | completed (id : DeploymentID) : HandlerOp (.sql (.updateDeploymentStatus id .completed))
  | rolledBack (id : DeploymentID) : HandlerOp (.sql (.updateDeploymentStatus id .rolledBack))
  | phase (id : DeploymentID) : HandlerOp (.sql (.updateDeploymentPhase id 3 100))
  | firmware (id : FirmwareID) : HandlerOp (.sql (.getFirmwareVersion id))
  | version (deviceID : DeviceID) (v : String) :
      HandlerOp (.sql (.updateDeviceVersion deviceID v))
  | list (id : DeploymentID) : HandlerOp (.sql (.listDeploymentDevices id))
  | publish (id : DeploymentID) (deviceID : DeviceID) (v : String) (reason : RollbackReason) :
      HandlerOp (.publishCommand id deviceID (.rollback v reason))
  | respond (r : Reply) : HandlerOp (.respond r)
  | callbackReturn : HandlerOp .callbackReturn

/-- A new version is looked up and written for the robot that reports it. -/
theorem recordInstalledVersion_ops (event : DeviceProgressEvent) (dep : Deployment) :
    Always AnyAnswer
      (fun op => (∃ fw, op = .sql (.getFirmwareVersion fw)) ∨
        ∃ v, op = .sql (.updateDeviceVersion event.deviceID v))
      (recordInstalledVersion event dep) := by
  rw [recordInstalledVersion, query_bind]
  refine ⟨Or.inl ⟨_, rfl⟩, ?_⟩
  rintro (_ | fw) -
  · trivial
  · exact ⟨Or.inr ⟨_, rfl⟩, fun _ _ => trivial⟩

/-- The operations that complete a deployment. -/
theorem completeDeployment_ops (depID : DeploymentID) (dep : Deployment) :
    Always AnyAnswer HandlerOp (completeDeployment depID dep) := by
  rw [completeDeployment, query_bind]
  refine ⟨.completed _, fun _ _ => ?_⟩
  split
  · exact ⟨.phase _, fun _ _ => trivial⟩
  · trivial

/-- The operations of a rollback. -/
inductive RollbackOp : Op → Prop where
  | read (id : DeploymentID) : RollbackOp (.sql (.getDeployment id .handler))
  | rolledBack (id : DeploymentID) : RollbackOp (.sql (.updateDeploymentStatus id .rolledBack))
  | list (id : DeploymentID) : RollbackOp (.sql (.listDeploymentDevices id))
  | publish (id : DeploymentID) (deviceID : DeviceID) (v : String) (reason : RollbackReason) :
      RollbackOp (.publishCommand id deviceID (.rollback v reason))
  | version (deviceID : DeviceID) (v : String) :
      RollbackOp (.sql (.updateDeviceVersion deviceID v))

/-- A rollback does nothing that a handler may not do. -/
theorem RollbackOp.handlerOp {op : Op} (h : RollbackOp op) : HandlerOp op := by
  cases h <;> constructor

/-- The operations of a rollback. -/
theorem executeRollback_rollbackOps (depID : DeploymentID) (reason : RollbackReason) :
    Always AnyAnswer RollbackOp (executeRollback depID reason) := by
  rw [executeRollback, getDeployment_bind]
  refine ⟨.read _, ?_⟩
  rintro (_ | dep) -
  · trivial
  · dsimp only
    split
    · trivial
    · rw [query_bind]
      refine ⟨.rolledBack _, ?_⟩
      rintro (_ | updated) -
      · trivial
      · dsimp only
        rw [query_bind]
        refine ⟨.list _, ?_⟩
        rintro (_ | devs) -
        · trivial
        · refine Always.bind ?_ fun _ => trivial
          exact (revertDevices_ops dep.id reason devs).mono (fun _ _ h => h)
            (by rintro _ (_ | _) <;> constructor)

/-- A rollback is a handler. -/
theorem executeRollback_ops (depID : DeploymentID) (reason : RollbackReason) :
    Always AnyAnswer HandlerOp (executeRollback depID reason) :=
  (executeRollback_rollbackOps depID reason).mono (fun _ _ h => h) fun _ h => h.handlerOp

/-- The operations that count a success. -/
theorem creditSuccess_ops (event : DeviceProgressEvent) (activeDD : DeploymentDevice) :
    Always AnyAnswer HandlerOp (creditSuccess event activeDD) := by
  rw [creditSuccess, getDeployment_bind]
  refine ⟨.read _, ?_⟩
  rintro (_ | dep) -
  · trivial
  · dsimp only
    split
    · trivial
    · rw [query_bind]
      refine ⟨.success _, fun _ _ => ?_⟩
      refine Always.bind ?_ fun _ => ?_
      · exact (recordInstalledVersion_ops event dep).mono (fun _ _ h => h)
          (by rintro _ (⟨fw, rfl⟩ | ⟨v, rfl⟩) <;> constructor)
      · split
        · exact (completeDeployment_ops _ dep).bind fun _ => trivial
        · trivial

/-- The operations on the row of a progress report. -/
theorem progressOnRow_ops (event : DeviceProgressEvent) (activeDD : DeploymentDevice) :
    Always AnyAnswer HandlerOp (progressOnRow event activeDD) := by
  rw [progressOnRow, query_bind]
  refine ⟨.row _, ?_⟩
  rintro (_ | row) -
  · trivial
  · dsimp only
    split
    · exact creditSuccess_ops event activeDD
    · trivial

/-- The operations of a progress report. -/
theorem handleDeviceProgress_ops (event : DeviceProgressEvent) :
    Always AnyAnswer HandlerOp (handleDeviceProgress event) := by
  rw [handleDeviceProgress, query_bind]
  refine ⟨.active _, ?_⟩
  rintro (_ | activeDD) -
  · trivial
  · exact progressOnRow_ops event activeDD

/-- The operations after a failure was counted. -/
theorem evaluateFailure_ops (activeDD : DeploymentDevice) :
    Always AnyAnswer HandlerOp (evaluateFailure activeDD) := by
  rw [evaluateFailure, getDeployment_bind]
  refine ⟨.read _, ?_⟩
  rintro (_ | dep) -
  · trivial
  · dsimp only
    split
    · exact executeRollback_ops _ _
    · split
      · exact ⟨.completed _, fun _ _ => trivial⟩
      · trivial

/-- The operations on the row of an error report. -/
theorem errorOnRow_ops (event : DeviceErrorEvent) (activeDD : DeploymentDevice) :
    Always AnyAnswer HandlerOp (errorOnRow event activeDD) := by
  unfold errorOnRow
  split
  · trivial
  · rw [query_bind]
    refine ⟨.row _, ?_⟩
    rintro (_ | row) -
    · trivial
    · dsimp only
      rw [query_bind]
      exact ⟨.failure _, fun _ _ => evaluateFailure_ops activeDD⟩

/-- The operations of an error report. -/
theorem handleDeviceError_ops (event : DeviceErrorEvent) :
    Always AnyAnswer HandlerOp (handleDeviceError event) := by
  rw [handleDeviceError, query_bind]
  refine ⟨.active _, ?_⟩
  rintro (_ | activeDD) -
  · trivial
  · exact errorOnRow_ops event activeDD

/-- The reconciliation records the last phase or nothing. -/
theorem reconcilePhase_ops (dep : Deployment) :
    Always AnyAnswer (fun op => op = .sql (.updateDeploymentPhase dep.id 3 100))
      (reconcilePhase dep) := by
  unfold reconcilePhase
  split
  · exact ⟨rfl, fun _ _ => trivial⟩
  · trivial

/-- The operations of a read with its reconciliation. -/
inductive ReconcileOp : Op → Prop where
  | read (id : DeploymentID) : ReconcileOp (.sql (.getDeployment id .handler))
  | completed (id : DeploymentID) : ReconcileOp (.sql (.updateDeploymentStatus id .completed))
  | phase (id : DeploymentID) : ReconcileOp (.sql (.updateDeploymentPhase id 3 100))
  | firmware (id : FirmwareID) : ReconcileOp (.sql (.getFirmwareVersion id))
  | list (id : DeploymentID) : ReconcileOp (.sql (.listDeploymentDevices id))
  | respond (r : Reply) : ReconcileOp (.respond r)

/-- A reconciliation does nothing that a handler may not do. -/
theorem ReconcileOp.handlerOp {op : Op} (h : ReconcileOp op) : HandlerOp op := by
  cases h <;> constructor

/-- The operations of a reconciliation. -/
theorem reconcile_ops (depID : DeploymentID) :
    Always AnyAnswer ReconcileOp (reconcile depID) := by
  have hphase : ∀ dep : Deployment, Always AnyAnswer ReconcileOp (reconcilePhase dep) :=
    fun dep => (reconcilePhase_ops dep).mono (fun _ _ h => h) (by rintro _ rfl; exact .phase _)
  rw [reconcile, getDeployment_bind]
  refine ⟨.read _, ?_⟩
  rintro (_ | dep) -
  · trivial
  · dsimp only
    split
    · split
      · rw [query_bind]
        exact ⟨.completed _, fun _ _ => (hphase _).bind fun _ => trivial⟩
      · exact (hphase _).bind fun _ => trivial
    · trivial

/-- The version of a deployment is looked up. -/
theorem targetVersion_ops (firmwareVersionID : FirmwareID) :
    Always AnyAnswer (fun op => op = .sql (.getFirmwareVersion firmwareVersionID))
      (targetVersion firmwareVersionID) := by
  rw [targetVersion, query_bind]
  refine ⟨rfl, ?_⟩
  rintro (_ | fw) - <;> trivial

/-- The operations of a request for the state of a deployment. -/
theorem getDeploymentHandler_ops (depID : DeploymentID) :
    Always AnyAnswer ReconcileOp (getDeploymentHandler depID) := by
  rw [getDeploymentHandler, getDeployment_bind]
  refine ⟨.read _, ?_⟩
  rintro (_ | dep) -
  · exact ⟨.respond _, fun _ _ => trivial⟩
  · refine Always.bind (reconcile_ops dep.id) fun reconciled => ?_
    dsimp only
    rw [query_bind]
    refine ⟨.list _, ?_⟩
    rintro (_ | devs) -
    · exact ⟨.respond _, fun _ _ => trivial⟩
    · refine Always.bind ((targetVersion_ops _).mono (fun _ _ h => h)
        (by rintro _ rfl; exact .firmware _)) fun version => ?_
      exact ⟨.respond _, fun _ _ => trivial⟩

/-- The HTTP rollback is a rollback and an answer. -/
theorem rollbackHandler_ops (depID : DeploymentID) :
    Always AnyAnswer (fun op => RollbackOp op ∨ ∃ r, op = .respond r) (rollbackHandler depID) := by
  refine Always.bind ((executeRollback_rollbackOps depID _).mono (fun _ _ h => h)
    fun _ h => Or.inl h) fun outcome => ?_
  cases outcome <;> exact ⟨Or.inr ⟨_, rfl⟩, fun _ _ => trivial⟩

/-- The threads that neither create nor dispatch a deployment. -/
def Call.isHandler : Call → Bool
  | .createDeployment _ | .runCanary _ _ _ => false
  | _ => true

/-- The operations of the handlers. -/
theorem handler_ops {call : Call} (h : call.isHandler = true) :
    Always AnyAnswer HandlerOp (ControlPlane.body call) := by
  cases call with
  | progress event =>
      exact (handleDeviceProgress_ops event).bind fun _ => ⟨.callbackReturn, fun _ _ => trivial⟩
  | error event =>
      exact (handleDeviceError_ops event).bind fun _ => ⟨.callbackReturn, fun _ _ => trivial⟩
  | getDeployment depID =>
      exact (getDeploymentHandler_ops depID).mono (fun _ _ h => h) fun _ h => h.handlerOp
  | rollback depID =>
      refine (rollbackHandler_ops depID).mono (fun _ _ h => h) fun op hop => ?_
      rcases hop with hop | ⟨r, rfl⟩
      · exact hop.handlerOp
      · exact .respond r
  | createDeployment | runCanary => cases h

/-! ## All threads -/

/-- The operations of a thread, by what it was started for. -/
def CallOp : Call → Op → Prop
  | .createDeployment _ => LaunchOp
  | .runCanary depID _ cmd => CanaryOp depID cmd
  | _ => HandlerOp

/-- The operations of a call, by its kind. -/
theorem body_ops (call : Call) : Always AnyAnswer (CallOp call) (ControlPlane.body call) := by
  cases call with
  | createDeployment req => exact createDeployment_ops req
  | runCanary depID devices cmd => exact runCanary_ops depID devices cmd
  | progress | error | getDeployment | rollback => exact handler_ops rfl

namespace ControlPlane

/-- Every thread issues the operations of its call only. -/
def IssuesOwnOps (c : Config) : Prop :=
  c.AllThreads fun call p => Always AnyAnswer (CallOp call) p

/-- A step keeps every thread to the operations of its call. -/
theorem issuesOwnOps_step {c c' : Config} {l : Label} (hc : IssuesOwnOps c)
    (h : step c l = some c') : IssuesOwnOps c' := by
  apply Machine.step_allThreads h hc
  · intro id call _ _
    exact body_ops call
  · intro id x call op k r _ _ hops
    exact hops.2 r trivial

end ControlPlane

end OtaRobot
