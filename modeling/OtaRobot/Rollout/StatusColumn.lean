import OtaRobot.Rollout.Operations

/-!
# Who writes the status column

Four operations write {lit}`deployments.status` after the creation of a deployment:
the completion branches of the two report handlers and of the reconciliation, and
the rollback.  Each decides on a row it has read before.  The discipline of this
file says, for every thread, what it may write on the strength of which read.

Main results:

- Theorem {lit}`body_status`: every thread writes {lit}`completed` only after a read
  that was not {lit}`rolled_back`, with one exception in {lit}`HandleDeviceError`.
-/

namespace OtaRobot

open Prog Transition

namespace ControlPlane

/-! ## Reads that back a status write -/

/-- The last row of the deployment the thread has read.  Its own rollback makes an
earlier read worthless. -/
def lastRead (id : DeploymentID) (g : Option Deployment) :
    (op : Op) → op.Ret → Option Deployment
  | .sql (.getDeployment id' _), r => if id' = id then r else g
  | .sql (.updateDeploymentStatus id' .rolledBack), _ => if id' = id then none else g
  | _, _ => g

/-- The completion test of {lit}`HandleDeviceError`. -/
def Deployment.countedOut (d : Deployment) : Prop :=
  d.totalDevices ≤ d.successCount + d.failureCount + 1

instance (d : Deployment) : Decidable (Deployment.countedOut d) :=
  inferInstanceAs (Decidable (_ ≤ _))

/-- The call handles an error report. -/
def Call.isErrorReport : Call → Bool
  | .error _ => true
  | _ => false

/-- The row allows the thread of {lit}`call` to complete the deployment: it is not
rolled back, or an error report has passed its completion test on it. -/
def BacksCompletion (call : Call) (d : Deployment) : Prop :=
  d.status = .rolledBack → Call.isErrorReport call = true ∧ Deployment.countedOut d

/-- The statement {lit}`UPDATE deployments SET status = 'completed'` of the deployment. -/
def CompletesDeployment (id : DeploymentID) (op : Op) : Prop :=
  op = .sql (.updateDeploymentStatus id .completed)

/-- {lit}`GetDeployment` of the deployment. -/
def ReadsDeployment (id : DeploymentID) (op : Op) : Prop :=
  ∃ site, op = .sql (.getDeployment id site)

/-- A deployment is only completed on the strength of a row that allows it. -/
def statusDiscipline (id : DeploymentID) (call : Call) :
    Discipline Op.Ret (Option Deployment) where
  allowed g op := CompletesDeployment id op → ∃ d, g = some d ∧ BacksCompletion call d
  rely _ := Keyed
  next := lastRead id

section

variable (id : DeploymentID) (call : Call)

/-- The rest of the call writes the statuses it may write. -/
private abbrev StatusOk {α : Type} (g : Option Deployment) (p : Rollout α) : Prop :=
  Obeys (statusDiscipline id call) (fun _ _ => True) g p

/-- Programs that never complete a deployment are unconstrained. -/
private theorem statusOk_of_ops {α : Type} {Q : Op → Prop} {p : Rollout α}
    (g : Option Deployment) (hp : Always AnyAnswer Q p)
    (hQ : ∀ op, Q op → ¬ CompletesDeployment id op) : StatusOk id call g p :=
  (hp.obeys (G := fun _ => True) (fun _ _ _ _ => trivial)
    (fun _ op _ hop hc => absurd hc (hQ op hop)) (fun _ _ _ _ _ => trivial) trivial).mono
    fun _ _ _ => trivial

/-- A rollback writes that the deployment is rolled back. -/
theorem executeRollback_status (depID : DeploymentID) (reason : RollbackReason)
    (g : Option Deployment) : StatusOk id call g (executeRollback depID reason) := by
  rw [executeRollback, getDeployment_bind]
  refine ⟨by rintro ⟨⟩, ?_⟩
  rintro (_ | dep) -
  · trivial
  · dsimp only
    split
    · trivial
    · rw [query_bind]
      refine ⟨by rintro ⟨⟩, ?_⟩
      rintro (_ | updated) -
      · trivial
      · dsimp only
        rw [query_bind]
        refine ⟨by rintro ⟨⟩, ?_⟩
        rintro (_ | devs) -
        · trivial
        · exact (statusOk_of_ops id call _ (revertDevices_ops _ _ devs)
            (by rintro _ ⟨⟩ h <;> cases h)).bind fun _ _ _ => trivial

/-- A completion is backed by what was read. -/
theorem completeDeployment_status (depID : DeploymentID) (dep : Deployment)
    (g : Option Deployment) (hg : depID = id → ∃ d, g = some d ∧ BacksCompletion call d) :
    StatusOk id call g (completeDeployment depID dep) := by
  rw [completeDeployment, query_bind]
  refine ⟨?_, fun _ _ => ?_⟩
  · intro h
    exact hg (by simpa [CompletesDeployment] using h)
  · split
    · rw [query_bind]
      exact ⟨by rintro ⟨⟩, fun _ _ => trivial⟩
    · trivial

/-- A success completes what it has read. -/
theorem creditSuccess_status (event : DeviceProgressEvent) (activeDD : DeploymentDevice)
    (g : Option Deployment) : StatusOk id call g (creditSuccess event activeDD) := by
  rw [creditSuccess, getDeployment_bind]
  refine ⟨by rintro ⟨⟩, ?_⟩
  rintro (_ | dep) -
  · trivial
  · dsimp only
    split
    · trivial
    · rename_i hstatus
      rw [query_bind]
      refine ⟨by rintro ⟨⟩, fun _ _ => ?_⟩
      -- The device version does not touch the read, which backs the completion.
      have hread : activeDD.deploymentID = id →
          lastRead id g (.sql (.getDeployment activeDD.deploymentID .handler)) (some dep) =
            some dep := by
        intro h
        exact if_pos h
      refine Obeys.bind (M := fun g' _ => activeDD.deploymentID = id → g' = some dep) ?_ ?_
      · refine (recordInstalledVersion_ops event dep).obeys (fun _ _ _ _ => trivial) ?_ ?_ hread
        · rintro g' op - (⟨fw, rfl⟩ | ⟨v, rfl⟩) h <;> cases h
        · rintro g' op r hg' (⟨fw, rfl⟩ | ⟨v, rfl⟩) <;> exact hg'
      · intro g' _ hg'
        split
        · refine (completeDeployment_status id call _ dep g' ?_).bind fun _ _ _ => trivial
          intro h
          refine ⟨dep, hg' h, fun hrolled => ?_⟩
          exact absurd (Or.inl hrolled) hstatus
        · trivial

/-- A progress report completes what it has read. -/
theorem progressOnRow_status (event : DeviceProgressEvent) (activeDD : DeploymentDevice)
    (g : Option Deployment) : StatusOk id call g (progressOnRow event activeDD) := by
  rw [progressOnRow, query_bind]
  refine ⟨by rintro ⟨⟩, ?_⟩
  rintro (_ | row) -
  · trivial
  · dsimp only
    split
    · exact creditSuccess_status id call event activeDD _
    · trivial

/-- A progress report writes no failure. -/
theorem handleDeviceProgress_status (event : DeviceProgressEvent) (g : Option Deployment) :
    StatusOk id call g (handleDeviceProgress event) := by
  rw [handleDeviceProgress, query_bind]
  refine ⟨by rintro ⟨⟩, ?_⟩
  rintro (_ | activeDD) -
  · trivial
  · exact progressOnRow_status id call event activeDD g

/-- The one branch that completes a deployment without looking at its status. -/
theorem evaluateFailure_status (event : DeviceErrorEvent) (activeDD : DeploymentDevice)
    (g : Option Deployment) : StatusOk id (.error event) g (evaluateFailure activeDD) := by
  rw [evaluateFailure, getDeployment_bind]
  refine ⟨by rintro ⟨⟩, ?_⟩
  rintro (_ | dep) -
  · trivial
  · dsimp only
    split
    · exact executeRollback_status id _ _ _ _
    · split
      · rename_i hcount
        rw [query_bind]
        refine ⟨?_, fun _ _ => trivial⟩
        intro h
        have hid : activeDD.deploymentID = id := by simpa [CompletesDeployment] using h
        exact ⟨dep, if_pos hid, fun _ => ⟨rfl, hcount⟩⟩
      · trivial

/-- An error report writes a failure or a rollback. -/
theorem errorOnRow_status (event : DeviceErrorEvent) (activeDD : DeploymentDevice)
    (g : Option Deployment) : StatusOk id (.error event) g (errorOnRow event activeDD) := by
  unfold errorOnRow
  split
  · trivial
  · rw [query_bind]
    refine ⟨by rintro ⟨⟩, ?_⟩
    rintro (_ | row) -
    · trivial
    · dsimp only
      rw [query_bind]
      refine ⟨by rintro ⟨⟩, fun _ _ => ?_⟩
      exact evaluateFailure_status id event activeDD _

/-- An error report completes nothing. -/
theorem handleDeviceError_status (event : DeviceErrorEvent) (g : Option Deployment) :
    StatusOk id (.error event) g (handleDeviceError event) := by
  rw [handleDeviceError, query_bind]
  refine ⟨by rintro ⟨⟩, ?_⟩
  rintro (_ | activeDD) -
  · trivial
  · exact errorOnRow_status id event activeDD g

/-- A phase is no status. -/
private theorem reconcilePhase_status (dep : Deployment) (g : Option Deployment) :
    StatusOk id call g (reconcilePhase dep) :=
  statusOk_of_ops id call g (reconcilePhase_ops dep) (by rintro _ rfl h; cases h)

/-- A reconciliation completes what it has read. -/
theorem reconcile_status (depID : DeploymentID) (g : Option Deployment) :
    StatusOk id call g (reconcile depID) := by
  rw [reconcile, getDeployment_bind]
  refine ⟨by rintro ⟨⟩, ?_⟩
  rintro (_ | dep) hkeyed
  · trivial
  · have hdep : dep.id = depID := hkeyed dep rfl
    dsimp only
    split
    · rename_i hterminal
      split
      · rw [query_bind]
        refine ⟨?_, fun _ _ => ?_⟩
        · intro h
          have hid : dep.id = id := by simpa [CompletesDeployment] using h
          refine ⟨dep, if_pos (hdep.symm.trans hid), fun hrolled => ?_⟩
          exact absurd hrolled hterminal.2.2.1
        · exact (reconcilePhase_status id call _ _).bind fun _ _ _ => trivial
      · exact (reconcilePhase_status id call _ _).bind fun _ _ _ => trivial
    · trivial

/-- Reading a deployment completes what was read. -/
theorem getDeploymentHandler_status (depID : DeploymentID) (g : Option Deployment) :
    StatusOk id call g (getDeploymentHandler depID) := by
  rw [getDeploymentHandler, getDeployment_bind]
  refine ⟨by rintro ⟨⟩, ?_⟩
  rintro (_ | dep) -
  · exact ⟨by rintro ⟨⟩, fun _ _ => trivial⟩
  · refine (reconcile_status id call dep.id _).bind fun g' reconciled _ => ?_
    dsimp only
    rw [query_bind]
    refine ⟨by rintro ⟨⟩, ?_⟩
    rintro (_ | devs) -
    · exact ⟨by rintro ⟨⟩, fun _ _ => trivial⟩
    · refine (statusOk_of_ops id call _ (targetVersion_ops _) ?_).bind fun g'' version _ => ?_
      · rintro _ rfl h
        cases h
      · exact ⟨by rintro ⟨⟩, fun _ _ => trivial⟩

/-- Every thread completes the deployment only on the strength of a row that allows
it, read since its own rollback, if any. -/
theorem body_status (call : Call) :
    Obeys (statusDiscipline id call) (fun _ _ => True) none (body call) := by
  cases call with
  | progress event =>
      exact (handleDeviceProgress_status id _ event none).bind fun _ _ _ =>
        ⟨by rintro ⟨⟩, fun _ _ => trivial⟩
  | error event =>
      exact (handleDeviceError_status id event none).bind fun _ _ _ =>
        ⟨by rintro ⟨⟩, fun _ _ => trivial⟩
  | createDeployment req =>
      exact statusOk_of_ops id _ none (createDeployment_ops req) (by
        rintro _ h hc
        cases h with
        | statement q hq =>
            obtain rfl : q = .updateDeploymentStatus id .completed := by
              simpa [CompletesDeployment] using hc
            cases hq
        | _ => cases hc)
  | getDeployment depID => exact getDeploymentHandler_status id _ depID none
  | rollback depID =>
      refine (executeRollback_status id _ depID _ none).bind fun g outcome _ => ?_
      cases outcome <;> exact ⟨by rintro ⟨⟩, fun _ _ => trivial⟩
  | runCanary depID devices cmd =>
      exact statusOk_of_ops id _ none (runCanary_ops depID devices cmd)
        (by rintro _ ⟨⟩ h <;> cases h)

end

end ControlPlane

end OtaRobot
