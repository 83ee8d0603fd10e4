import OtaRobot.Rollout.Partition
import OtaRobot.Rollout.CanaryStop

/-!
# The order of the phase records

{lit}`UpdateDeploymentPhase` overwrites the phase whatever it was.  The goroutine of a canary
writes its phases in order, a completion writes the last one, and neither looks at what is
stored, so the stored phase falls when a completion gets in between the phase check of the
goroutine and its write.

Main results:

- Theorem {lit}`body_phaseOrder`: what each procedure has done before it records a phase.
- Theorem {lit}`phases_never_decrease`: the stored phase does not fall as long as the
  goroutine records its first two phases before the deployment is completed.
-/

namespace OtaRobot

open Prog Transition

namespace ControlPlane

/-! ## What a thread has done about the phase -/

/-- What a thread has done about one deployment: the strategy it has created it with, whether
it has started its canary, whether it has completed it or has read that it is completed, and
the last phase it has recorded. -/
structure PhaseWork where
  created : Option Strategy := none
  started : Bool := false
  completing : Bool := false
  recorded : Nat := 0
deriving DecidableEq, Repr

/-- The strategy of the deployment, once the thread has created it. -/
def createdAfter (id : DeploymentID) (created : Option Strategy) :
    (op : Op) → op.Ret → Option Strategy
  | .sql (.createDeployment p), (r : Option Deployment) =>
      if r.map (fun dep => dep.id) = some id then some p.strategy else created
  | _, _ => created

/-- The operation starts the canary of the deployment. -/
def startsCanary (id : DeploymentID) : Op → Bool
  | .goRunCanary id' _ _ => id' = id
  | _ => false

/-- The operation completes the deployment. -/
def completes (id : DeploymentID) : Op → Bool
  | .sql (.updateDeploymentStatus id' .completed) => id' = id
  | _ => false

/-- The operation has read a completed deployment. -/
def readsCompleted (id : DeploymentID) : (op : Op) → op.Ret → Bool
  | .sql (.getDeployment id' _), (r : Option Deployment) =>
      id' = id && r.any fun dep => dep.status = .completed
  | _, _ => false

/-- The phase the record shows after an operation. -/
def recordedAfter (id : DeploymentID) (recorded : Nat) : Op → Nat
  | .sql (.updateDeploymentPhase id' phaseNum _) => if id' = id then phaseNum else recorded
  | _ => recorded

/-- When a thread may record a phase: a creation only for a direct rollout, a canary in the
order of the phases, and everyone else the last phase of a completed deployment. -/
def MayRecord (id : DeploymentID) (g : PhaseWork) (phaseNum percentage : Nat) : Call → Prop
  | .createDeployment _ => ∃ strategy, g.created = some strategy ∧ strategy ≠ .canary
  | .runCanary id' _ _ =>
      id' = id ∧ (phaseNum, percentage) ∈ phaseRecords ∧ (g.recorded < phaseNum ∨ phaseNum = 3)
  | _ => phaseNum = 3 ∧ percentage = 100 ∧ g.completing = true

/-- Only the creator of a deployment starts it, and its canary only once. -/
def PhaseAllowed (id : DeploymentID) (call : Call) (g : PhaseWork) : Op → Prop
  | .sql (.createDeployment p) => p.canaryPercentage = initPercentage p.strategy
  | .sql (.updateDeploymentPhase id' phaseNum percentage) =>
      id' = id → MayRecord id g phaseNum percentage call
  | .startRollout id' => id' = id → g.created ≠ none
  | .goRunCanary id' _ _ => id' = id → g.created ≠ none ∧ g.started = false
  | _ => True

/-- What is known of a thread after an operation. -/
def phaseNext (id : DeploymentID) (g : PhaseWork) (op : Op) (r : op.Ret) : PhaseWork where
  created := createdAfter id g.created op r
  started := startsCanary id op || g.started
  completing := completes id op || (readsCompleted id op r || g.completing)
  recorded := recordedAfter id g.recorded op

/-- A thread records phases of the deployment where it may. -/
def phaseDiscipline (id : DeploymentID) (call : Call) : Discipline Op.Ret PhaseWork where
  allowed := PhaseAllowed id call
  rely _ := Keyed
  next := phaseNext id

section

variable {id : DeploymentID} {call : Call} {α : Type} {g : PhaseWork}

/-- The operation creates nothing, starts nothing and records no phase. -/
def NoRecord : Op → Prop
  | .sql (.createDeployment _) | .sql (.updateDeploymentPhase _ _ _) | .startRollout _
  | .goRunCanary _ _ _ => False
  | _ => True

/-- An operation that records no phase is allowed everywhere. -/
theorem NoRecord.allowed {op : Op} (h : NoRecord op) (g : PhaseWork) :
    PhaseAllowed id call g op := by
  cases op with
  | sql q =>
      cases q with
      | createDeployment | updateDeploymentPhase => exact h.elim
      | _ => trivial
  | startRollout | goRunCanary => exact h.elim
  | _ => trivial

/-- A procedure that records no phase is unconstrained. -/
theorem phaseOrder_of_noRecord {p : Rollout α} (hp : Always AnyAnswer NoRecord p) :
    Obeys (phaseDiscipline id call) (fun _ _ => True) g p := by
  apply hp.obeys (G := fun _ => True) (fun _ _ _ _ => trivial)
  · intro g op _ hop
    exact hop.allowed g
  · intro _ _ _ _ _
    trivial
  · trivial

/-- A rollback records no phase. -/
theorem RollbackOp.noRecord {op : Op} (h : RollbackOp op) : NoRecord op := by
  cases h <;> trivial

/-! ## Reports and reconciliations -/

/-- The threshold test and the rollback record no phase. -/
theorem evaluateFailure_noRecord (activeDD : DeploymentDevice) :
    Always AnyAnswer NoRecord (evaluateFailure activeDD) := by
  rw [evaluateFailure, getDeployment_bind]
  refine ⟨trivial, fun (r : Option Deployment) _ => ?_⟩
  cases r with
  | none => trivial
  | some dep =>
      dsimp only
      split
      · exact (executeRollback_rollbackOps _ _).mono (fun _ _ h => h) fun _ h =>
          RollbackOp.noRecord h
      · split
        · exact ⟨trivial, fun _ _ => trivial⟩
        · trivial

/-- An error report records no phase. -/
theorem handleDeviceError_noRecord (event : DeviceErrorEvent) :
    Always AnyAnswer NoRecord (handleDeviceError event) := by
  rw [handleDeviceError, query_bind]
  refine ⟨trivial, fun (r : Option DeploymentDevice) _ => ?_⟩
  cases r with
  | none => trivial
  | some activeDD =>
      dsimp only
      unfold errorOnRow
      split
      · trivial
      · rw [query_bind]
        refine ⟨trivial, fun (r : Option DeploymentDevice) _ => ?_⟩
        cases r with
        | none => trivial
        | some row => exact ⟨trivial, fun _ _ => evaluateFailure_noRecord activeDD⟩

/-- The new version of a robot is recorded without a phase. -/
theorem recordInstalledVersion_noRecord (event : DeviceProgressEvent) (dep : Deployment) :
    Always AnyAnswer NoRecord (recordInstalledVersion event dep) := by
  apply (recordInstalledVersion_ops event dep).mono (fun _ _ h => h)
  intro op hop
  rcases hop with ⟨fw, rfl⟩ | ⟨v, rfl⟩ <;> trivial

/-- Who is neither a creation nor a canary. -/
def IsHandler : Call → Prop
  | .createDeployment _ | .runCanary _ _ _ => False
  | _ => True

/-- A handler records the last phase once it has seen the deployment completed. -/
theorem IsHandler.mayRecord (h : IsHandler call) (hg : g.completing = true) :
    MayRecord id g 3 100 call := by
  cases call with
  | createDeployment | runCanary => exact h.elim
  | _ => exact ⟨rfl, rfl, hg⟩

/-- The completion comes before the last phase is recorded. -/
theorem completeDeployment_phaseOrder (hcall : IsHandler call) (depID : DeploymentID)
    (dep : Deployment) :
    Obeys (phaseDiscipline id call) (fun _ _ => True) g (completeDeployment depID dep) := by
  rw [completeDeployment, query_bind]
  refine ⟨trivial, fun _ _ => ?_⟩
  split
  · refine ⟨?_, fun _ _ => trivial⟩
    intro hid
    apply hcall.mayRecord
    simp [phaseDiscipline, phaseNext, completes, hid]
  · trivial

/-- A progress report records a phase with the completion only. -/
theorem handleDeviceProgress_phaseOrder (hcall : IsHandler call) (event : DeviceProgressEvent) :
    Obeys (phaseDiscipline id call) (fun _ _ => True) g (handleDeviceProgress event) := by
  have hcredit : ∀ activeDD g, Obeys (phaseDiscipline id call) (fun _ _ => True) g
      (creditSuccess event activeDD) := by
    intro activeDD g
    rw [creditSuccess, getDeployment_bind]
    refine ⟨trivial, fun (r : Option Deployment) _ => ?_⟩
    cases r with
    | none => trivial
    | some dep =>
        dsimp only
        split
        · trivial
        · rw [query_bind]
          refine ⟨trivial, fun _ _ => ?_⟩
          apply (phaseOrder_of_noRecord (recordInstalledVersion_noRecord event dep)).bind
          intro g' _ _
          split
          · exact (completeDeployment_phaseOrder hcall _ dep).bind fun _ _ _ => trivial
          · trivial
  rw [handleDeviceProgress, query_bind]
  refine ⟨trivial, fun (r : Option DeploymentDevice) _ => ?_⟩
  cases r with
  | none => trivial
  | some activeDD =>
      dsimp only
      rw [progressOnRow, query_bind]
      refine ⟨trivial, fun (r : Option DeploymentDevice) _ => ?_⟩
      cases r with
      | none => trivial
      | some row =>
          dsimp only
          split
          · exact hcredit activeDD _
          · trivial

/-- The reconciliation records a phase with the completion only. -/
theorem reconcilePhase_phaseOrder (hcall : IsHandler call) (dep : Deployment)
    (hg : dep.id = id → g.completing = true) :
    Obeys (phaseDiscipline id call) (fun _ _ => True) g (reconcilePhase dep) := by
  unfold reconcilePhase
  split
  · rw [query_bind]
    exact ⟨fun hid => hcall.mayRecord (hg hid), fun _ _ => trivial⟩
  · trivial

/-- The reconciliation records the phase of a deployment that it has completed or has read
as completed. -/
theorem reconcile_phaseOrder (hcall : IsHandler call) (depID : DeploymentID) :
    Obeys (phaseDiscipline id call) (fun _ _ => True) g (reconcile depID) := by
  rw [reconcile, getDeployment_bind]
  refine ⟨trivial, fun (r : Option Deployment) hr => ?_⟩
  cases r with
  | none => trivial
  | some dep =>
      have hdep : dep.id = depID := hr dep rfl
      dsimp only
      split
      · split
        · rw [query_bind]
          refine ⟨trivial, fun (r : Option Deployment) hr' => ?_⟩
          refine (reconcilePhase_phaseOrder hcall _ ?_).bind fun _ _ _ => trivial
          intro hid
          have hkey : (Option.getD r dep).id = dep.id := by
            cases r with
            | none => rfl
            | some updated => exact hr' updated rfl
          simp [phaseDiscipline, phaseNext, completes, ← hkey, hid]
        · rename_i hstatus
          have hcompleted : dep.status = .completed := not_not.mp hstatus
          refine (reconcilePhase_phaseOrder hcall _ ?_).bind fun _ _ _ => trivial
          intro hid
          simp [phaseDiscipline, phaseNext, readsCompleted, ← hdep, hid, hcompleted]
      · trivial

/-- A handler that returns to its client. -/
theorem callback_phaseOrder {handler : Rollout Outcome}
    (h : Obeys (phaseDiscipline id call) (fun _ _ => True) g handler) :
    Obeys (phaseDiscipline id call) (fun _ _ => True) g (callback handler) :=
  h.bind fun _ _ _ => ⟨trivial, fun _ _ => trivial⟩

/-- Reading a deployment records a phase with the completion only. -/
theorem getDeploymentHandler_phaseOrder (hcall : IsHandler call) (depID : DeploymentID) :
    Obeys (phaseDiscipline id call) (fun _ _ => True) g (getDeploymentHandler depID) := by
  rw [getDeploymentHandler, getDeployment_bind]
  refine ⟨trivial, fun (r : Option Deployment) _ => ?_⟩
  cases r with
  | none => exact ⟨trivial, fun _ _ => trivial⟩
  | some dep =>
      dsimp only
      refine (reconcile_phaseOrder hcall dep.id).bind fun g' reconciled _ => ?_
      rw [query_bind]
      refine ⟨trivial, fun (r : Option (List DeploymentDevice)) _ => ?_⟩
      cases r with
      | none => exact ⟨trivial, fun _ _ => trivial⟩
      | some devs =>
          apply phaseOrder_of_noRecord
          apply Always.bind
          · apply (targetVersion_ops _).mono (fun _ _ h => h)
            intro op hop
            cases hop
            trivial
          · exact fun _ => ⟨trivial, fun _ _ => trivial⟩

/-- A requested rollback records no phase. -/
theorem rollbackHandler_phaseOrder (depID : DeploymentID) :
    Obeys (phaseDiscipline id call) (fun _ _ => True) g (rollbackHandler depID) := by
  apply phaseOrder_of_noRecord
  apply Always.bind
  · exact (executeRollback_rollbackOps _ _).mono (fun _ _ h => h) fun _ h =>
      RollbackOp.noRecord h
  · intro outcome
    cases outcome <;> exact ⟨trivial, fun _ _ => trivial⟩

/-! ## Creations -/

/-- The thread has not started the canary, and has created the deployment if it is this
one. -/
structure Launching (id depID : DeploymentID) (strategy : Strategy) (g : PhaseWork) : Prop where
  created : depID = id → g.created = some strategy
  waiting : g.started = false

/-- The call that has created a deployment may start it. -/
theorem startRollout_phaseOrder {req : CreateDeploymentRequest} {depID : DeploymentID}
    {strategy : Strategy} (devs : List Device) (cmd : UpdateCommand)
    (hg : Launching id depID strategy g) :
    Obeys (phaseDiscipline id (.createDeployment req)) (fun _ _ => True) g
      (OtaRobot.startRollout depID strategy devs cmd) := by
  have hcreated : depID = id → g.created ≠ none := by
    intro hid
    simp [hg.created hid]
  rw [OtaRobot.startRollout, markStartRollout_bind]
  refine ⟨hcreated, fun _ _ => ?_⟩
  split
  · trivial
  · split
    · rw [goRunCanary_bind]
      exact ⟨fun hid => ⟨hcreated hid, hg.waiting⟩, fun _ _ => trivial⟩
    · rename_i hstrategy
      have hdispatch : Obeys (phaseDiscipline id (.createDeployment req))
          (fun g' _ => depID = id → g'.created = some strategy)
          (phaseNext id g (.startRollout depID) ()) (dispatch depID cmd devs) := by
        apply (dispatch_ops depID cmd devs).obeys (fun _ _ _ _ => trivial)
        · intro g' op _ hop
          cases hop
          trivial
        · intro g' op r hg' hop
          cases hop
          exact hg'
        · exact hg.created
      refine hdispatch.bind fun g' _ hg' => ?_
      rw [query_bind]
      exact ⟨fun hid => ⟨strategy, hg' hid, hstrategy⟩, fun _ _ => trivial⟩

/-- A deployment is created before it is started. -/
theorem launchDeployment_phaseOrder {req : CreateDeploymentRequest} (fw : FirmwareVersion)
    (url : String) (strategy : Strategy) (threshold : ℚ) (targetHw : String)
    (devs : List Device) :
    Obeys (phaseDiscipline id (.createDeployment req)) (fun _ _ => True) {}
      (launchDeployment fw url strategy threshold targetHw devs) := by
  rw [launchDeployment, query_bind]
  refine ⟨rfl, fun (r : Option Deployment) _ => ?_⟩
  cases r with
  | none => exact ⟨trivial, fun _ _ => trivial⟩
  | some dep =>
      dsimp only
      rw [query_bind]
      refine ⟨trivial, fun _ _ => ?_⟩
      have hrows : Obeys (phaseDiscipline id (.createDeployment req))
          (fun g' _ => Launching id dep.id strategy g')
          { created := if some dep.id = some id then some strategy else none }
          (createDeploymentDevices dep.id devs) := by
        apply (createDeploymentDevices_ops dep.id devs).obeys (fun _ _ _ _ => trivial)
        · intro g' op _ hop
          cases hop
          trivial
        · intro g' op r hg' hop
          cases hop
          exact ⟨hg'.created, hg'.waiting⟩
        · refine ⟨fun hid => ?_, rfl⟩
          simp [hid]
      refine Obeys.bind hrows fun g' _ hg' => ?_
      refine (startRollout_phaseOrder devs _ hg').bind fun _ outcome _ => ?_
      cases outcome <;> exact ⟨trivial, fun _ _ => trivial⟩

/-- A request creates its deployment before it is started. -/
theorem createDeployment_phaseOrder (req : CreateDeploymentRequest) :
    Obeys (phaseDiscipline id (.createDeployment req)) (fun _ _ => True) {}
      (OtaRobot.createDeployment req) := by
  apply createDeployment_obeys
  · intro op hop
    cases hop <;> exact ⟨trivial, fun _ => rfl⟩
  · intro fw url strategy threshold targetHw devs
    exact launchDeployment_phaseOrder fw url strategy threshold targetHw devs

/-! ## Canaries -/

/-- Phases with their own percentages, in increasing order after the recorded one. -/
def Ascending : Nat → List Phase → Prop
  | _, [] => True
  | recorded, p :: ps =>
      (p.phaseNum, p.percentage) ∈ phaseRecords ∧ recorded < p.phaseNum ∧
        Ascending p.phaseNum ps

/-- Phases that ascend from a number ascend from every smaller one. -/
theorem ascending_mono {recorded recorded' : Nat} {ps : List Phase}
    (hle : recorded' ≤ recorded) (h : Ascending recorded ps) : Ascending recorded' ps := by
  cases ps with
  | nil => trivial
  | cons p ps => exact ⟨h.1, Nat.lt_of_le_of_lt hle h.2.1, h.2.2⟩

/-- The phases of a canary ascend. -/
theorem ascending_canaryPhases (devs : List Device) : Ascending 0 (canaryPhases devs) := by
  simp [Ascending, canaryPhases, phaseRecords]

/-- Publishing, observing and reading leave the recorded phase alone. -/
theorem canary_keeps_recorded {id' : DeploymentID} {devs : List Device} {cmd : UpdateCommand}
    {p : Rollout α} {recorded : Nat}
    (hp : Always AnyAnswer (fun op => NoRecord op) p) (hg : g.recorded = recorded) :
    Obeys (phaseDiscipline id (.runCanary id' devs cmd)) (fun g' _ => g'.recorded = recorded) g
      p := by
  apply hp.obeys (fun _ _ _ _ => trivial)
  · intro g' op _ hop
    exact hop.allowed g'
  · intro g' op r hg' hop
    cases op with
    | sql q =>
        cases q with
        | updateDeploymentPhase => exact hop.elim
        | _ => exact hg'
    | _ => exact hg'
  · exact hg

/-- Sending commands records no phase. -/
theorem dispatch_noRecord (depID : DeploymentID) (cmd : UpdateCommand) (devs : List Device) :
    Always AnyAnswer NoRecord (dispatch depID cmd devs) := by
  apply (dispatch_ops depID cmd devs).mono (fun _ _ h => h)
  intro op hop
  cases hop
  trivial

/-- The observation records no phase. -/
theorem observeWindow_noRecord (depID : DeploymentID) (phaseNum : Nat) :
    Always AnyAnswer NoRecord (observeWindow depID phaseNum) := by
  have hpoll : ∀ ticks, Always AnyAnswer NoRecord (pollStatus depID phaseNum ticks) := by
    intro ticks
    induction ticks with
    | zero => exact ⟨trivial, fun _ _ => trivial⟩
    | succ ticks ih =>
        rw [pollStatus, getDeployment_bind]
        refine ⟨trivial, fun (r : Option Deployment) _ => ?_⟩
        cases r with
        | none => trivial
        | some dep =>
            dsimp only
            split
            · trivial
            · exact ih
  exact ⟨trivial, fun ticks _ => hpoll ticks⟩

/-- The loop records its phases in order. -/
theorem runPhases_phaseOrder {devs : List Device} {cmd : UpdateCommand} (n : Nat)
    (ps : List Phase) (hps : Ascending g.recorded ps) :
    Obeys (phaseDiscipline id (.runCanary id devs cmd)) (fun _ _ => True) g
      (runPhases id cmd n ps) := by
  induction ps generalizing g with
  | nil => trivial
  | cons p ps ih =>
      obtain ⟨hrecord, hlater, hrest⟩ := hps
      rw [runPhases, getDeployment_bind]
      split
      · exact ih (ascending_mono (Nat.le_of_lt hlater) hrest)
      · refine ⟨trivial, fun (r : Option Deployment) _ => ?_⟩
        cases r with
        | none => trivial
        | some cur =>
            dsimp only
            split
            · trivial
            · rw [query_bind]
              refine ⟨fun _ => ⟨rfl, hrecord, Or.inl hlater⟩, fun _ _ => ?_⟩
              apply (canary_keeps_recorded (dispatch_noRecord id cmd p.devices) (if_pos rfl)).bind
              intro g' _ hg'
              split
              · trivial
              · apply (canary_keeps_recorded (observeWindow_noRecord id p.phaseNum) hg').bind
                intro g'' aborted hg''
                split
                · trivial
                · apply ih
                  rw [hg'']
                  exact hrest

/-- The end of a canary records nothing but the last phase. -/
theorem finishCanary_phaseOrder {devs : List Device} {cmd : UpdateCommand} :
    Obeys (phaseDiscipline id (.runCanary id devs cmd)) (fun _ _ => True) g
      (finishCanary id) := by
  rw [finishCanary, getDeployment_bind]
  refine ⟨trivial, fun (r : Option Deployment) _ => ?_⟩
  cases r with
  | none => trivial
  | some cur =>
      dsimp only
      split
      · exact ⟨fun _ => ⟨rfl, by decide, Or.inr rfl⟩, fun _ _ => trivial⟩
      · trivial

/-- A canary records its phases in order. -/
theorem runCanary_phaseOrder (id' : DeploymentID) (devs : List Device) (cmd : UpdateCommand) :
    Obeys (phaseDiscipline id (.runCanary id' devs cmd)) (fun _ _ => True) {}
      (OtaRobot.runCanary id' devs cmd) := by
  by_cases hid : id' = id
  · subst hid
    unfold OtaRobot.runCanary
    split
    · trivial
    · apply (runPhases_phaseOrder _ _ (ascending_canaryPhases devs)).bind
      intro g' finished _
      split
      · exact finishCanary_phaseOrder
      · trivial
  · -- The canary of another deployment.
    apply (runCanary_ops id' devs cmd).obeys (G := fun _ => True) (fun _ _ _ _ => trivial)
    · intro g' op _ hop
      cases hop with
      | phase => exact fun h => absurd h hid
      | _ => trivial
    · exact fun _ _ _ _ _ => trivial
    · trivial

/-- What each procedure has done before it records a phase. -/
theorem body_phaseOrder (id : DeploymentID) (call : Call) :
    Obeys (phaseDiscipline id call) (fun _ _ => True) {} (body call) := by
  cases call with
  | progress event =>
      have hcall : IsHandler (.progress event) := trivial
      exact callback_phaseOrder (handleDeviceProgress_phaseOrder hcall event)
  | error event =>
      exact callback_phaseOrder (phaseOrder_of_noRecord (handleDeviceError_noRecord event))
  | createDeployment req => exact createDeployment_phaseOrder req
  | getDeployment depID =>
      have hcall : IsHandler (.getDeployment depID) := trivial
      exact getDeploymentHandler_phaseOrder hcall depID
  | rollback depID => exact rollbackHandler_phaseOrder depID
  | runCanary id' devs cmd => exact runCanary_phaseOrder id' devs cmd

end

/-! ## The creator along a run -/

/-- What a thread has done about the deployment so far. -/
def phaseWork (id : DeploymentID) (i : Nat) (c : Config) : PhaseWork :=
  (Machine.eventsOf i c.trace).foldl (fun g e => phaseNext id g e.op e.ret) {}

/-- Only one thread creates the deployment, and it is the one that starts it. -/
structure CreatorInvariant (id : DeploymentID) (db : Db) (c : Config) : Prop where
  disciplined : Machine.Disciplined (phaseDiscipline id) (fun _ _ => True) (fun _ => {}) c
  existing : db.deployment id ≠ none → deployment c id ≠ none
  created : ∀ i strategy, (phaseWork id i c).created = some strategy →
    db.deployment id = none ∧ ∃ dep, deployment c id = some dep ∧ dep.strategy = strategy
  unique : ∀ i j, (phaseWork id i c).created ≠ none → (phaseWork id j c).created ≠ none → i = j
  starter : ∀ i, (phaseWork id i c).started = true → (phaseWork id i c).created ≠ none
  called : StartRolloutCalled id c → ∃ i, (phaseWork id i c).created ≠ none

section

variable {id : DeploymentID} {db : Db} {c c' : Config} {i : Nat} {x : Choice} {call : Call}
  {op : Op} {k : op.Ret → Rollout Unit} {r : op.Ret}

/-- A thread that starts changes no work. -/
theorem phaseWork_spawned (hs : machine.Spawned c c' i call) (j : Nat) :
    phaseWork id j c' = phaseWork id j c := by
  rw [phaseWork, hs.trace]
  rfl

/-- An operation changes the work of its own thread. -/
theorem phaseWork_executed (hs : machine.Executed c c' i x call op k r) (j : Nat) :
    phaseWork id j c' =
      if i = j then phaseNext id (phaseWork id j c) op r else phaseWork id j c := by
  rw [phaseWork, hs.trace]
  exact Machine.ghost_append (phaseDiscipline id call) {} j c.trace ⟨i, op, r⟩

/-- The work of the thread that executes. -/
theorem phaseWork_self (hs : machine.Executed c c' i x call op k r) :
    phaseWork id i c' = phaseNext id (phaseWork id i c) op r := by
  rw [phaseWork_executed hs, if_pos rfl]

/-- The work of the others. -/
theorem phaseWork_ne (hs : machine.Executed c c' i x call op k r) {j : Nat} (hne : i ≠ j) :
    phaseWork id j c' = phaseWork id j c := by
  rw [phaseWork_executed hs, if_neg hne]

/-- The operation a thread executes next is allowed by what it has done. -/
theorem CreatorInvariant.allowed (hc : CreatorInvariant id db c)
    (hs : machine.Executed c c' i x call op k r) :
    PhaseAllowed id call (phaseWork id i c) op :=
  hc.disciplined.allowed hs

/-- A thread that has just created the deployment has inserted its row. -/
theorem executed_creates (hs : machine.Executed c c' i x call op k r)
    {created : Option Strategy} {strategy : Strategy}
    (h : createdAfter id created op r = some strategy) (hne : created ≠ some strategy) :
    deployment c id = none ∧ ∃ dep, deployment c' id = some dep ∧ dep.strategy = strategy := by
  cases op with
  | sql q =>
      cases q with
      | createDeployment p =>
          cases (r : Option Deployment) with
          | none => exact absurd h hne
          | some dep =>
              by_cases hid : dep.id = id
              · have hcreated : createdAfter id created (.sql (.createDeployment p)) (some dep) =
                    some p.strategy := if_pos (congrArg some hid)
                have hstrategy : p.strategy = strategy := Option.some.inj (hcreated.symm.trans h)
                obtain ⟨hexec, hdb⟩ := executed_some hs
                obtain ⟨hrow, hinserted⟩ := Db.createDeployment_eq_some hexec
                refine ⟨?_, dep, ?_, ?_⟩
                · by_contra hexists
                  exact executed_foreign hs hexists dep rfl hid
                · rw [deployment, hdb, ← hid]
                  exact hinserted
                · rw [hrow]
                  exact hstrategy
              · have hsame : createdAfter id created (.sql (.createDeployment p)) (some dep) =
                    created := if_neg fun heq => hid (Option.some.inj heq)
                exact absurd (hsame.symm.trans h) hne
      | _ => exact absurd h hne
  | _ => exact absurd h hne

/-- The strategy of a deployment is fixed. -/
theorem strategy_step {l : Label} {dep : Deployment} (h : step c l = some c')
    (hd : deployment c id = some dep) :
    ∃ dep', deployment c' id = some dep' ∧ dep'.strategy = dep.strategy := by
  rcases deployment_step h hd with hkeep | ⟨i, x, tag, op, k, r, -, -, hchange⟩
  · exact ⟨dep, hkeep, rfl⟩
  · refine ⟨_, hchange, ?_⟩
    cases op with
    | sql q => exact (q.onDeployment_fixed dep).2.2.2.1
    | _ => rfl

/-- Nobody has created a deployment at the start. -/
theorem creatorInvariant_start (id : DeploymentID) (db : Db) :
    CreatorInvariant id db (start db) where
  disciplined := Machine.disciplined_initial _ _ _ _
  existing h := h
  created i strategy h := by simp [phaseWork, start, Machine.initial, Machine.eventsOf] at h
  unique i j h := by simp [phaseWork, start, Machine.initial, Machine.eventsOf] at h
  starter i h := by simp [phaseWork, start, Machine.initial, Machine.eventsOf] at h
  called h := by
    obtain ⟨e, he, -⟩ := h
    simp [start, Machine.initial] at he

/-- The deployment stays created. -/
theorem createdAfter_ne_none {created : Option Strategy} (h : created ≠ none) :
    createdAfter id created op r ≠ none := by
  unfold createdAfter
  split
  · split
    · simp
    · exact h
  · exact h

/-- What was created stays created. -/
theorem created_ne_none_executed (hs : machine.Executed c c' i x call op k r) {j : Nat}
    (hj : (phaseWork id j c).created ≠ none) : (phaseWork id j c').created ≠ none := by
  by_cases hij : i = j
  · subst hij
    rw [phaseWork_self hs]
    exact createdAfter_ne_none hj
  · rwa [phaseWork_ne hs hij]

/-- Whoever has not created the deployment before does so while nobody has. -/
theorem created_executed (hs : machine.Executed c c' i x call op k r) {j : Nat}
    {strategy : Strategy} (hj : (phaseWork id j c').created = some strategy) :
    (phaseWork id j c).created = some strategy ∨ (j = i ∧ deployment c id = none ∧
      ∃ dep, deployment c' id = some dep ∧ dep.strategy = strategy) := by
  by_cases hij : i = j
  · subst hij
    rw [phaseWork_self hs] at hj
    by_cases hsame : (phaseWork id i c).created = some strategy
    · exact Or.inl hsame
    · exact Or.inr ⟨rfl, executed_creates hs hj hsame⟩
  · rw [phaseWork_ne hs hij] at hj
    exact Or.inl hj

/-- A step keeps track of the creators. -/
theorem creatorInvariant_step {l : Label} (hc : CreatorInvariant id db c)
    (h : step c l = some c') : CreatorInvariant id db c' := by
  have hdisciplined := Machine.step_disciplined h hc.disciplined (body_phaseOrder id)
    fun _ _ _ _ _ _ hs => executed_keyed hs
  have hexisting : db.deployment id ≠ none → deployment c' id ≠ none := fun hne =>
    deployment_step_ne_none h (hc.existing hne)
  have hkept : ∀ j strategy, (phaseWork id j c).created = some strategy →
      db.deployment id = none ∧ ∃ dep, deployment c' id = some dep ∧ dep.strategy = strategy := by
    intro j strategy hj
    obtain ⟨hnew, dep, hdep, hstrategy⟩ := hc.created j strategy hj
    obtain ⟨dep', hdep', hsame⟩ := strategy_step h hdep
    exact ⟨hnew, dep', hdep', hsame.trans hstrategy⟩
  obtain ⟨i, call, -, hs⟩ | ⟨i, x, call, op, k, r, -, hs⟩ := Machine.step_cases h
  · have hwork : ∀ j, phaseWork id j c' = phaseWork id j c := phaseWork_spawned hs
    refine ⟨hdisciplined, hexisting, ?_, ?_, ?_, ?_⟩
    · intro j strategy hj
      rw [hwork] at hj
      exact hkept j strategy hj
    · intro j j' hj hj'
      rw [hwork] at hj hj'
      exact hc.unique j j' hj hj'
    · intro j hj
      rw [hwork] at hj ⊢
      exact hc.starter j hj
    · intro hcalled
      obtain ⟨e, he, hop⟩ := hcalled
      rw [hs.trace] at he
      obtain ⟨j, hj⟩ := hc.called ⟨e, he, hop⟩
      exact ⟨j, by rwa [hwork]⟩
  · have hallowed := hc.allowed hs
    have hstays : ∀ j, (phaseWork id j c).created ≠ none → (phaseWork id j c').created ≠ none :=
      fun j => created_ne_none_executed hs
    refine ⟨hdisciplined, hexisting, ?_, ?_, ?_, ?_⟩
    · intro j strategy hj
      rcases created_executed hs hj with hbefore | ⟨-, hnone, hrow⟩
      · exact hkept j strategy hbefore
      · refine ⟨?_, hrow⟩
        by_contra hne
        exact hc.existing hne hnone
    · intro j j' hj hj'
      obtain ⟨strategy, hstrategy⟩ := Option.ne_none_iff_exists'.mp hj
      obtain ⟨strategy', hstrategy'⟩ := Option.ne_none_iff_exists'.mp hj'
      rcases created_executed hs hstrategy with hbefore | ⟨rfl, hnone, -⟩
      · rcases created_executed hs hstrategy' with hbefore' | ⟨-, hnone', -⟩
        · exact hc.unique j j' (by simp [hbefore]) (by simp [hbefore'])
        · obtain ⟨-, dep, hdep, -⟩ := hc.created j strategy hbefore
          simp [hnone'] at hdep
      · rcases created_executed hs hstrategy' with hbefore' | ⟨rfl, -, -⟩
        · obtain ⟨-, dep, hdep, -⟩ := hc.created j' strategy' hbefore'
          simp [hnone] at hdep
        · rfl
    · intro j hj
      by_cases hij : i = j
      · subst hij
        rw [phaseWork_self hs] at hj
        have hsplit : startsCanary id op = true ∨ (phaseWork id i c).started = true := by
          simpa [phaseNext] using hj
        rcases hsplit with hstarts | hstarted
        · apply hstays
          cases op with
          | goRunCanary id' devs cmd => exact (hallowed (of_decide_eq_true hstarts)).1
          | _ => cases hstarts
        · exact hstays i (hc.starter i hstarted)
      · rw [phaseWork_ne hs hij] at hj
        exact hstays j (hc.starter j hj)
    · intro hcalled
      obtain ⟨e, he, hop⟩ := hcalled
      rw [hs.trace, List.mem_append, List.mem_singleton] at he
      rcases he with he | rfl
      · obtain ⟨j, hj⟩ := hc.called ⟨e, he, hop⟩
        exact ⟨j, hstays j hj⟩
      · refine ⟨i, hstays i ?_⟩
        obtain rfl : op = .startRollout id := hop
        exact hallowed rfl

/-! ## The goroutine along a run -/

/-- The call is a canary of the deployment. -/
def isCanaryOf (id : DeploymentID) : Call → Bool
  | .runCanary id' _ _ => id' = id
  | _ => false

/-- The canaries of the deployment that are started but have not run yet. -/
def waitingCanaries (id : DeploymentID) (s : Store) : Nat :=
  s.goroutines.countP (isCanaryOf id)

/-- The thread is the canary of the deployment. -/
def RunsCanary (id : DeploymentID) (i : Nat) (c : Config) : Prop :=
  ∃ call p, c.thread i = some (call, p) ∧ isCanaryOf id call = true

/-- There is one canary at most, and none before somebody has started it. -/
structure OneCanary (id : DeploymentID) (c : Config) : Prop where
  waiting : waitingCanaries id c.store ≤ 1
  started : 0 < waitingCanaries id c.store → ∃ j, (phaseWork id j c).started = true
  begun : ∀ i, RunsCanary id i c → ∃ j, (phaseWork id j c).started = true
  exclusive : ∀ i, RunsCanary id i c → waitingCanaries id c.store = 0
  unique : ∀ i j, RunsCanary id i c → RunsCanary id j c → i = j

/-- A procedure that runs no longer waits. -/
theorem accept_waiting {s s' : Store} (h : accept s call = some s') :
    waitingCanaries id s =
      waitingCanaries id s' + if isCanaryOf id call = true then 1 else 0 := by
  cases call with
  | runCanary id' devs cmd =>
      simp only [accept] at h
      split at h
      · rename_i hmem
        obtain rfl := Option.some.inj h
        have hperm := (List.perm_cons_erase hmem).countP_eq (isCanaryOf id)
        rw [List.countP_cons] at hperm
        exact hperm
      · cases h
  | progress | error =>
      simp only [accept] at h
      split at h
      · cases h
      · obtain rfl := Option.some.inj h
        rfl
  | createDeployment | getDeployment | rollback =>
      obtain rfl : s = s' := by simpa [accept] using h
      rfl

/-- Only the start of a canary makes one wait. -/
theorem executed_waiting (hs : machine.Executed c c' i x call op k r) :
    waitingCanaries id c'.store =
      waitingCanaries id c.store + if startsCanary id op = true then 1 else 0 := by
  rw [(executed_answer hs).2]
  cases op with
  | goRunCanary id' devs cmd =>
      show (c.store.goroutines ++ [Call.runCanary id' devs cmd]).countP (isCanaryOf id) = _
      rw [List.countP_append, List.countP_singleton]
      rfl
  | sql q =>
      rw [exec_sql]
      split <;> rfl
  | publishCommand | presignedGetObject | startRollout | newTicker | windowOver | respond
  | callbackReturn => rfl

/-- A canary runs when its thread is started. -/
theorem runsCanary_spawned (hs : machine.Spawned c c' i call) {j : Nat}
    (h : RunsCanary id j c') : (j = i ∧ isCanaryOf id call = true) ∨ RunsCanary id j c := by
  obtain ⟨tag, p, hj, hcanary⟩ := h
  rw [hs.threads] at hj
  split at hj
  · rename_i hji
    obtain ⟨rfl, -⟩ : call = tag ∧ _ = p := by simpa using hj
    exact Or.inl ⟨hji, hcanary⟩
  · exact Or.inr ⟨tag, p, hj, hcanary⟩

/-- An operation starts no thread. -/
theorem runsCanary_executed (hs : machine.Executed c c' i x call op k r) {j : Nat}
    (h : RunsCanary id j c') : RunsCanary id j c := by
  obtain ⟨tag, p, hj, hcanary⟩ := h
  rw [hs.threads] at hj
  split at hj
  · rename_i hji
    obtain ⟨rfl, -⟩ : call = tag ∧ _ = p := by simpa using hj
    exact ⟨call, _, hji ▸ hs.before, hcanary⟩
  · exact ⟨tag, p, hj, hcanary⟩

/-- A canary that runs goes on. -/
theorem runsCanary_step {l : Label} {j : Nat} (h : step c l = some c')
    (hj : RunsCanary id j c) : RunsCanary id j c' := by
  obtain ⟨tag, p, hthread, hcanary⟩ := hj
  obtain ⟨p', hp'⟩ := Machine.step_tag h hthread
  exact ⟨tag, p', hp', hcanary⟩

/-- No canary waits or runs at the start. -/
theorem oneCanary_start (id : DeploymentID) (db : Db) : OneCanary id (start db) where
  waiting := Nat.zero_le 1
  started h := absurd h (Nat.lt_irrefl 0)
  begun i h := by
    obtain ⟨call, p, hi, -⟩ := h
    simp [start, Machine.initial, Machine.Config.thread] at hi
  exclusive _ _ := rfl
  unique i j h := by
    obtain ⟨call, p, hi, -⟩ := h
    simp [start, Machine.initial, Machine.Config.thread] at hi

/-- Where no canary waits or runs that did not before, there is one at most. -/
theorem OneCanary.mono (hc : OneCanary id c)
    (hwaiting : waitingCanaries id c'.store = waitingCanaries id c.store)
    (hbefore : ∀ j, RunsCanary id j c' → RunsCanary id j c)
    (hstarted : ∀ j, (phaseWork id j c).started = true →
      ∃ j, (phaseWork id j c').started = true) : OneCanary id c' where
  waiting := hwaiting ▸ hc.waiting
  started hpos := by
    obtain ⟨j, hj⟩ := hc.started (hwaiting ▸ hpos)
    exact hstarted j hj
  begun j hj := by
    obtain ⟨starter, hstarter⟩ := hc.begun j (hbefore j hj)
    exact hstarted starter hstarter
  exclusive j hj := by
    rw [hwaiting]
    exact hc.exclusive j (hbefore j hj)
  unique j j' hj hj' := hc.unique j j' (hbefore j hj) (hbefore j' hj')

/-- A waiting canary becomes a running one. -/
theorem OneCanary.spawned (hc : OneCanary id c) (hs : machine.Spawned c c' i call) :
    OneCanary id c' := by
  have hwaiting : waitingCanaries id c.store =
      waitingCanaries id c'.store + if isCanaryOf id call = true then 1 else 0 :=
    accept_waiting hs.accepted
  have hstarted : ∀ j, (phaseWork id j c).started = true →
      ∃ j, (phaseWork id j c').started = true := by
    intro j hj
    exact ⟨j, by rwa [phaseWork_spawned hs]⟩
  by_cases hcall : isCanaryOf id call = true
  · -- The waiting canary begins, and no other one has begun before.
    rw [if_pos hcall] at hwaiting
    have hpos : 0 < waitingCanaries id c.store := by
      rw [hwaiting]
      exact Nat.succ_pos _
    have hnone : ∀ j, ¬ RunsCanary id j c := by
      intro j hj
      rw [hc.exclusive j hj] at hpos
      exact Nat.lt_irrefl 0 hpos
    have hzero : waitingCanaries id c'.store = 0 := by
      have hle : waitingCanaries id c'.store + 1 ≤ 1 := hwaiting ▸ hc.waiting
      exact Nat.le_zero.mp (Nat.le_of_succ_le_succ hle)
    obtain ⟨starter, hstarter⟩ := hc.started hpos
    have hafter := hstarted starter hstarter
    refine ⟨?_, fun _ => hafter, fun _ _ => hafter, fun _ _ => hzero, ?_⟩
    · rw [hzero]
      exact Nat.zero_le 1
    · intro j j' hj hj'
      rcases runsCanary_spawned hs hj with ⟨rfl, -⟩ | hj
      · rcases runsCanary_spawned hs hj' with ⟨rfl, -⟩ | hj'
        · rfl
        · exact absurd hj' (hnone j')
      · exact absurd hj (hnone j)
  · rw [if_neg hcall, Nat.add_zero] at hwaiting
    refine hc.mono hwaiting.symm (fun j hj => ?_) hstarted
    rcases runsCanary_spawned hs hj with ⟨-, hcanary⟩ | hj
    · exact absurd hcanary hcall
    · exact hj

/-- A canary is started where nobody has started one before, hence there is none. -/
theorem OneCanary.absent (hc : OneCanary id c) (hcreator : CreatorInvariant id db c)
    (hs : machine.Executed c c' i x call op k r) (hstarts : startsCanary id op = true) :
    (∀ j, ¬ RunsCanary id j c) ∧ waitingCanaries id c.store = 0 := by
  have hfirst : ∀ j, (phaseWork id j c).started ≠ true := by
    intro j hj
    have hallowed := hcreator.allowed hs
    cases op with
    | goRunCanary id' devs cmd =>
        obtain ⟨hcreated, hfresh⟩ := hallowed (of_decide_eq_true hstarts)
        have hsame : j = i := hcreator.unique j i (hcreator.starter j hj) hcreated
        rw [hsame, hfresh] at hj
        cases hj
    | _ => cases hstarts
  constructor
  · intro j hj
    obtain ⟨starter, hstarter⟩ := hc.begun j hj
    exact hfirst starter hstarter
  · by_contra hpos
    obtain ⟨starter, hstarter⟩ := hc.started (Nat.pos_of_ne_zero hpos)
    exact hfirst starter hstarter

/-- A canary is started once. -/
theorem OneCanary.executed (hc : OneCanary id c) (hcreator : CreatorInvariant id db c)
    (hs : machine.Executed c c' i x call op k r) : OneCanary id c' := by
  have hwaiting : waitingCanaries id c'.store =
      waitingCanaries id c.store + if startsCanary id op = true then 1 else 0 :=
    executed_waiting hs
  have hbefore : ∀ j, RunsCanary id j c' → RunsCanary id j c := fun j => runsCanary_executed hs
  by_cases hstarts : startsCanary id op = true
  · obtain ⟨hnone, hzero⟩ := hc.absent hcreator hs hstarts
    have hstarted : (phaseWork id i c').started = true := by
      rw [phaseWork_self hs]
      simp [phaseNext, hstarts]
    rw [hzero, if_pos hstarts] at hwaiting
    refine ⟨hwaiting.le, fun _ => ⟨i, hstarted⟩, fun _ _ => ⟨i, hstarted⟩, ?_, ?_⟩
    · intro j hj
      exact absurd (hbefore j hj) (hnone j)
    · intro j j' hj _
      exact absurd (hbefore j hj) (hnone j)
  · rw [if_neg hstarts, Nat.add_zero] at hwaiting
    refine hc.mono hwaiting hbefore fun j hj => ⟨j, ?_⟩
    by_cases hij : i = j
    · subst hij
      rw [phaseWork_self hs]
      simp [phaseNext, hj]
    · rwa [phaseWork_ne hs hij]

/-- A step keeps it at one canary. -/
theorem oneCanary_step {l : Label} (hc : OneCanary id c) (hcreator : CreatorInvariant id db c)
    (h : step c l = some c') : OneCanary id c' := by
  obtain ⟨i, call, -, hs⟩ | ⟨i, x, call, op, k, r, -, hs⟩ := Machine.step_cases h
  · exact hc.spawned hs
  · exact hc.executed hcreator hs

/-! ## The completion along a run -/

/-- Somebody has tried to complete the deployment. -/
def CompletionIssued (id : DeploymentID) (c : Config) : Prop :=
  ∃ e ∈ c.trace, e.op = .sql (.updateDeploymentStatus id .completed)

/-- The operation that completes the deployment. -/
theorem completes_iff : completes id op = true ↔
    op = .sql (.updateDeploymentStatus id .completed) := by
  constructor
  · intro h
    unfold completes at h
    split at h
    · rw [of_decide_eq_true h]
    · cases h
  · intro h
    rw [h]
    exact decide_eq_true rfl

/-- A completion that was issued stays issued. -/
theorem completionIssued_step {l : Label} (hc : CompletionIssued id c)
    (h : step c l = some c') : CompletionIssued id c' := by
  obtain ⟨e, he, hop⟩ := hc
  exact ⟨e, (Machine.step_trace h).subset he, hop⟩

/-- A deployment of this run is completed by a statement of this run. -/
structure CompletionInvariant (id : DeploymentID) (c : Config) : Prop where
  completed : status c id = some .completed → CompletionIssued id c
  seen : ∀ i, (phaseWork id i c).completing = true → CompletionIssued id c

/-- Nothing is completed at the start. -/
theorem completionInvariant_start (hnew : db.deployment id = none) :
    CompletionInvariant id (start db) where
  completed h := by
    have hnone : status (start db) id = none := by
      simp [status, deployment, start, Machine.initial, hnew]
    rw [hnone] at h
    cases h
  seen i h := by simp [phaseWork, start, Machine.initial, Machine.eventsOf] at h

/-- A completed deployment that was read is completed. -/
theorem executed_readsCompleted (hs : machine.Executed c c' i x call op k r)
    (h : readsCompleted id op r = true) : status c id = some .completed := by
  cases op with
  | sql q =>
      cases q with
      | getDeployment id' site =>
          obtain ⟨hid, hany⟩ := (Bool.and_eq_true _ _).mp h
          cases (r : Option Deployment) with
          | none => cases hany
          | some dep =>
              have hrow : deployment c id' = some dep := (executed_some hs).1
              rw [status, ← of_decide_eq_true hid, hrow]
              exact congrArg some (of_decide_eq_true hany)
      | _ => cases h
  | _ => cases h

/-- A deployment is completed by an operation that was issued. -/
theorem completionInvariant_step {l : Label} (hc : CompletionInvariant id c)
    (h : step c l = some c') : CompletionInvariant id c' := by
  constructor
  · intro hcompleted
    cases hbefore : deployment c id with
    | none =>
        have hexists : deployment c' id ≠ none := by
          intro hnone
          simp [status, hnone] at hcompleted
        obtain ⟨dep, hdep, hpending⟩ := deployment_step_new h hbefore hexists
        simp [status, hdep, hpending] at hcompleted
    | some dep =>
        rcases deployment_step h hbefore with hkeep | ⟨i, x, tag, op, k, r, -, hs, hchange⟩
        · refine completionIssued_step (hc.completed ?_) h
          simpa [status, hkeep, hbefore] using hcompleted
        · have hafter : (Op.onDeployment op dep).status = .completed := by
            simpa [status, hchange] using hcompleted
          by_cases hsame : dep.status = .completed
          · refine completionIssued_step (hc.completed ?_) h
            simp [status, hbefore, hsame]
          · refine ⟨⟨i, op, r⟩, ?_, ?_⟩
            · rw [hs.trace]
              exact List.mem_append_right _ (List.mem_singleton_self _)
            · cases op with
              | sql q =>
                  rcases q.onDeployment_status dep with hkeep | hwrite
                  · exact absurd (hkeep.symm.trans hafter) hsame
                  · have hstatus : (q.onDeployment dep).status = .completed := hafter
                    rw [hstatus, Db.deployment_id hbefore] at hwrite
                    exact congrArg Op.sql hwrite
              | _ => exact absurd hafter hsame
  · intro j hj
    obtain ⟨i, call, -, hs⟩ | ⟨i, x, call, op, k, r, -, hs⟩ := Machine.step_cases h
    · rw [phaseWork_spawned hs] at hj
      exact completionIssued_step (hc.seen j hj) h
    · by_cases hij : i = j
      · subst hij
        rw [phaseWork_self hs] at hj
        have hsplit : completes id op = true ∨ readsCompleted id op r = true ∨
            (phaseWork id i c).completing = true := by simpa [phaseNext] using hj
        rcases hsplit with hcompletes | hread | hseen
        · refine ⟨⟨i, op, r⟩, ?_, completes_iff.mp hcompletes⟩
          rw [hs.trace]
          exact List.mem_append_right _ (List.mem_singleton_self _)
        · exact completionIssued_step (hc.completed (executed_readsCompleted hs hread)) h
        · exact completionIssued_step (hc.seen i hseen) h
      · rw [phaseWork_ne hs hij] at hj
        exact completionIssued_step (hc.seen j hj) h

/-! ## The stored phase along a run -/

/-- The goroutine of the canary records its first two phases only as long as nobody has
tried to complete the deployment. -/
def RecordsBeforeCompletion (id : DeploymentID) (c : Config) (l : Label) : Prop :=
  ∀ i x call phaseNum percentage k, l = .step i x →
    c.thread i = some (call, .call (.sql (.updateDeploymentPhase id phaseNum percentage)) k) →
    phaseNum < 3 → ¬ CompletionIssued id c

/-- All that is kept along a run in which the canary records in time: until the deployment is
completed, the stored phase is not ahead of its canary. -/
structure OrderInvariant (id : DeploymentID) (db : Db) (c : Config) : Prop where
  creator : CreatorInvariant id db c
  canary : OneCanary id c
  completion : CompletionInvariant id c
  records : RecordInvariant id c
  behind : ¬ CompletionIssued id c → ∀ dep, deployment c id = some dep →
    dep.strategy = .canary → dep.currentPhase = 0 ∨
      ∃ i, RunsCanary id i c ∧ dep.currentPhase ≤ (phaseWork id i c).recorded

/-- A phase is recorded by the canary, or it is the last one of a completed deployment, and
it is not below the stored one. -/
theorem OrderInvariant.record {phaseNum percentage : Nat} {dep : Deployment}
    (hc : OrderInvariant id db c) (hs : machine.Executed c c' i x call op k r)
    (hintime : RecordsBeforeCompletion id c (.step i x))
    (hop : op = .sql (.updateDeploymentPhase id phaseNum percentage))
    (hdep : deployment c id = some dep) (hstrategy : dep.strategy = .canary) :
    (phaseNum, percentage) ∈ phaseRecords ∧ dep.currentPhase ≤ phaseNum ∧
      (CompletionIssued id c ∨ RunsCanary id i c) := by
  subst hop
  have hallowed : MayRecord id (phaseWork id i c) phaseNum percentage call :=
    hc.creator.allowed hs rfl
  have hle : dep.currentPhase ≤ 3 := (hc.records.row dep hdep hstrategy).phase_le
  cases call with
  | createDeployment req =>
      obtain ⟨strategy, hcreated, hne⟩ := hallowed
      obtain ⟨-, dep', hdep', hsame⟩ := hc.creator.created i strategy hcreated
      obtain rfl : dep = dep' := Option.some.inj (hdep.symm.trans hdep')
      exact absurd (hsame.symm.trans hstrategy) hne
  | runCanary id' devs cmd =>
      obtain ⟨rfl, hrecord, horder⟩ := hallowed
      have hruns : RunsCanary id' i c := ⟨_, _, hs.before, decide_eq_true rfl⟩
      refine ⟨hrecord, ?_, Or.inr hruns⟩
      by_cases hlast : phaseNum < 3
      · have hlater : (phaseWork id' i c).recorded < phaseNum := by omega
        have hopen := hintime i x _ phaseNum percentage k rfl hs.before hlast
        rcases hc.behind hopen dep hdep hstrategy with hzero | ⟨j, hj, hbehind⟩
        · omega
        · obtain rfl : j = i := hc.canary.unique j i hj hruns
          omega
      · omega
  | progress | error | getDeployment | rollback =>
      obtain ⟨rfl, rfl, hcompleting⟩ := hallowed
      exact ⟨by decide, hle, Or.inl (hc.completion.seen i hcompleting)⟩

/-- A step does not lower the stored phase. -/
theorem OrderInvariant.phase_step {l : Label} {dep : Deployment} (hc : OrderInvariant id db c)
    (hintime : RecordsBeforeCompletion id c l) (h : step c l = some c')
    (hdep : deployment c id = some dep) (hstrategy : dep.strategy = .canary) :
    ∃ dep', deployment c' id = some dep' ∧ dep'.strategy = .canary ∧
      dep.currentPhase ≤ dep'.currentPhase := by
  rcases deployment_step h hdep with hkeep | ⟨i, x, call, op, k, r, hl, hs, hchange⟩
  · exact ⟨dep, hkeep, hstrategy, Nat.le_refl _⟩
  · cases op with
    | sql q =>
        have hsame : (q.onDeployment dep).strategy = .canary :=
          (q.onDeployment_fixed dep).2.2.2.1.trans hstrategy
        refine ⟨q.onDeployment dep, hchange, hsame, ?_⟩
        rcases onDeployment_phase q dep with ⟨hphase, -⟩ | hwrite
        · exact hphase.ge
        · rw [Db.deployment_id hdep] at hwrite
          subst hl
          exact (hc.record hs hintime (congrArg Op.sql hwrite) hdep hstrategy).2.1
    | _ => exact ⟨dep, hchange, hstrategy, Nat.le_refl _⟩

/-- Only a record changes how far a thread is. -/
theorem recordedAfter_eq (recorded : Nat) (op : Op) :
    recordedAfter id recorded op = recorded ∨
      ∃ percentage,
        op = .sql (.updateDeploymentPhase id (recordedAfter id recorded op) percentage) := by
  cases op with
  | sql q =>
      cases q with
      | updateDeploymentPhase id' phaseNum percentage =>
          by_cases hid : id' = id
          · right
            exact ⟨percentage, by simp [recordedAfter, hid]⟩
          · left
            exact if_neg hid
      | _ => exact Or.inl rfl
  | _ => exact Or.inl rfl

/-- The canary stays ahead of the stored phase. -/
theorem OrderInvariant.behind_step {l : Label} (hc : OrderInvariant id db c)
    (hintime : RecordsBeforeCompletion id c l) (h : step c l = some c')
    (hopen : ¬ CompletionIssued id c') {dep : Deployment} (hdep : deployment c' id = some dep)
    (hstrategy : dep.strategy = .canary) :
    dep.currentPhase = 0 ∨
      ∃ j, RunsCanary id j c' ∧ dep.currentPhase ≤ (phaseWork id j c').recorded := by
  have hopen' : ¬ CompletionIssued id c := fun hissued =>
    hopen (completionIssued_step hissued h)
  have hkept : ∀ d, deployment c id = some d → d.strategy = .canary →
      d.currentPhase = dep.currentPhase → dep.currentPhase = 0 ∨
        ∃ j, RunsCanary id j c' ∧ dep.currentPhase ≤ (phaseWork id j c').recorded := by
    intro d hd hcanary hphase
    rw [← hphase]
    rcases hc.behind hopen' d hd hcanary with hzero | ⟨j, hj, hle⟩
    · exact Or.inl hzero
    · refine Or.inr ⟨j, runsCanary_step h hj, ?_⟩
      obtain ⟨i, call, -, hs⟩ | ⟨i, x, call, op, k, r, hl, hs⟩ := Machine.step_cases h
      · rwa [phaseWork_spawned hs]
      · by_cases hij : i = j
        · subst hij
          rw [phaseWork_self hs]
          show d.currentPhase ≤ recordedAfter id (phaseWork id i c).recorded op
          rcases recordedAfter_eq (phaseWork id i c).recorded op with hsame | ⟨percentage, hop⟩
          · rwa [hsame]
          · subst hl
            exact (hc.record hs hintime hop hd hcanary).2.1
        · rwa [phaseWork_ne hs hij]
  cases hbefore : deployment c id with
  | none =>
      obtain ⟨i, call, -, hs⟩ | ⟨i, x, call, op, k, r, -, hs⟩ := Machine.step_cases h
      · rw [deployment, accept_db hs.accepted] at hdep
        exact absurd (hbefore.symm.trans hdep) (by simp)
      · obtain ⟨p, -, rfl⟩ := executed_inserted hs hbefore hdep
        exact Or.inl rfl
  | some d =>
      rcases deployment_step h hbefore with hkeep | ⟨i, x, call, op, k, r, hl, hs, hchange⟩
      · obtain rfl : d = dep := Option.some.inj (hkeep.symm.trans hdep)
        exact hkept d hbefore hstrategy rfl
      · obtain rfl : Op.onDeployment op d = dep := Option.some.inj (hchange.symm.trans hdep)
        cases op with
        | sql q =>
            have hcanary : d.strategy = .canary :=
              (q.onDeployment_fixed d).2.2.2.1.symm.trans hstrategy
            rcases onDeployment_phase q d with ⟨hphase, -⟩ | hwrite
            · exact hkept d hbefore hcanary hphase.symm
            · rw [Db.deployment_id hbefore] at hwrite
              subst hl
              have hop := congrArg Op.sql hwrite
              obtain ⟨-, -, hissued | hruns⟩ := hc.record hs hintime hop hbefore hcanary
              · exact absurd hissued hopen'
              · refine Or.inr ⟨i, runsCanary_step h hruns, ?_⟩
                rw [phaseWork_self hs]
                show (q.onDeployment d).currentPhase ≤ recordedAfter id _ (Op.sql q)
                have hrecorded : ∀ recorded, recordedAfter id recorded (Op.sql q) =
                    (q.onDeployment d).currentPhase := by
                  intro recorded
                  generalize (q.onDeployment d).currentPhase = phaseNum at hwrite
                  rw [hwrite]
                  exact if_pos rfl
                rw [hrecorded]
        | _ => exact hkept d hbefore hstrategy rfl

/-- The order holds at the start. -/
theorem orderInvariant_start (hnew : db.deployment id = none) :
    OrderInvariant id db (start db) where
  creator := creatorInvariant_start id db
  canary := oneCanary_start id db
  completion := completionInvariant_start hnew
  records := recordInvariant_start fun dep hdep => absurd (hnew.symm.trans hdep) (by simp)
  behind := fun _ dep hdep => absurd (hnew.symm.trans hdep) (by simp)

/-- A step that records a phase before the completion keeps the order. -/
theorem orderInvariant_step {l : Label} (hc : OrderInvariant id db c)
    (hintime : RecordsBeforeCompletion id c l) (h : step c l = some c') :
    OrderInvariant id db c' where
  creator := creatorInvariant_step hc.creator h
  canary := oneCanary_step hc.canary hc.creator h
  completion := completionInvariant_step hc.completion h
  records := recordInvariant_step hc.records h
  behind := by
    intro hopen dep hdep hstrategy
    exact hc.behind_step hintime h hopen hdep hstrategy

/-- A deployment whose rollout was started in the run was created in it. -/
theorem new_of_startRollout {ls : List Label} (h : run step (start db) ls = some c)
    (hcalled : StartRolloutCalled id c) : db.deployment id = none := by
  have hcreator : CreatorInvariant id db c :=
    run_invariant (fun _ _ _ hc hstep => creatorInvariant_step hc hstep)
      (creatorInvariant_start id db) h
  obtain ⟨i, hi⟩ := hcreator.called hcalled
  obtain ⟨strategy, hstrategy⟩ := Option.ne_none_iff_exists'.mp hi
  exact (hcreator.created i strategy hstrategy).1

end

/-! ## The stored phase does not fall -/

/-- If the goroutine of a canary never records one of its first two phases after somebody has
tried to complete the deployment, the stored phase and percentage do not decrease after
{lit}`StartRollout`. -/
theorem phases_never_decrease {id : DeploymentID} {db : Db} {ls ls' : List Label}
    {c c' : Config} {dep : Deployment} (h : run step (start db) ls = some c)
    (hcalled : StartRolloutCalled id c) (hdep : deployment c id = some dep)
    (hstrategy : dep.strategy = .canary) (h' : run step c ls' = some c')
    (hintime : EachStep step (RecordsBeforeCompletion id) (start db) (ls ++ ls')) :
    ∃ dep', deployment c' id = some dep' ∧ dep.currentPhase ≤ dep'.currentPhase ∧
      dep.canaryPercentage ≤ dep'.canaryPercentage := by
  have hnew := new_of_startRollout h hcalled
  have hbefore : OrderInvariant id db c :=
    run_invariant_of_eachStep (fun _ _ _ hc hP hstep => orderInvariant_step hc hP hstep)
      (orderInvariant_start hnew) hintime.of_append h
  have hrecords := hbefore.records.row dep hdep hstrategy
  -- The stored phase does not fall behind its value in the first state.
  have hafter : OrderInvariant id db c' ∧ ∃ dep', deployment c' id = some dep' ∧
      dep'.strategy = .canary ∧ dep.currentPhase ≤ dep'.currentPhase := by
    refine run_invariant_of_eachStep (I := fun m => OrderInvariant id db m ∧
      ∃ dep', deployment m id = some dep' ∧ dep'.strategy = .canary ∧
        dep.currentPhase ≤ dep'.currentPhase) ?_
      ⟨hbefore, dep, hdep, hstrategy, Nat.le_refl _⟩ (hintime.suffix h) h'
    intro m l m' hm hP hstep
    obtain ⟨hinvariant, dep', hdep', hcanary, hle⟩ := hm
    obtain ⟨dep'', hdep'', hcanary', hle'⟩ :=
      hinvariant.phase_step hP hstep hdep' hcanary
    exact ⟨orderInvariant_step hinvariant hP hstep, dep'', hdep'', hcanary', hle.trans hle'⟩
  obtain ⟨hinvariant, dep', hdep', hcanary, hle⟩ := hafter
  have hrecords' := hinvariant.records.row dep' hdep' hcanary
  exact ⟨dep', hdep', hle, hrecords.percentage_le hrecords' hle⟩

/-! ## Concrete canaries -/

/-- The executable form of {lean}`RecordsBeforeCompletion`. -/
def recordsBeforeCompletion (id : DeploymentID) (c : Config) : Label → Bool
  | .spawn _ _ => true
  | .step i _ =>
      match c.thread i with
      | some (_, .call (.sql (.updateDeploymentPhase _ phaseNum _)) _) =>
          3 ≤ phaseNum || !(c.trace.any fun e => completes id e.op)
      | _ => true

theorem recordsBeforeCompletion_spec {id : DeploymentID} {c : Config} {l : Label}
    (h : recordsBeforeCompletion id c l = true) : RecordsBeforeCompletion id c l := by
  intro i x call phaseNum percentage k hl hi hlt hissued
  subst hl
  obtain ⟨e, he, hop⟩ := hissued
  have hany : (c.trace.any fun e => completes id e.op) = true :=
    List.any_eq_true.mpr ⟨e, he, completes_iff.mpr hop⟩
  simp only [recordsBeforeCompletion, hi, hany, Bool.or_eq_true, decide_eq_true_eq] at h
  rcases h with hle | hnot
  · omega
  · cases hnot

/-- The executable form of {lean}`StartRolloutCalled`. -/
def startRolloutCalled (id : DeploymentID) (c : Config) : Bool :=
  c.trace.any fun e => e.op = .startRollout id

theorem startRolloutCalled_spec {id : DeploymentID} {c : Config}
    (h : startRolloutCalled id c = true) : StartRolloutCalled id c := by
  obtain ⟨e, he, hop⟩ := List.any_eq_true.mp h
  exact ⟨e, he, of_decide_eq_true hop⟩

/-- The deployment is a canary in this phase. -/
def inPhase (id : DeploymentID) (phaseNum percentage : Nat) (c : Config) : Bool :=
  (deployment c id).any fun dep =>
    dep.strategy = .canary && (dep.currentPhase = phaseNum && dep.canaryPercentage = percentage)

theorem inPhase_spec {id : DeploymentID} {phaseNum percentage : Nat} {c : Config}
    (h : inPhase id phaseNum percentage c = true) :
    ∃ dep, deployment c id = some dep ∧ dep.strategy = .canary ∧
      dep.currentPhase = phaseNum ∧ dep.canaryPercentage = percentage := by
  obtain ⟨dep, hdep, htest⟩ := Option.any_eq_true _ _ |>.mp h
  exact ⟨dep, hdep, by simpa using htest⟩

/-- The target list of a rollout to two robots. -/
def pairTargets : List Device :=
  ["r2", "r1"].map fun robot => { id := robot, currentVersion := "1.0.0", status := "online" }

/-- A canary over two robots up to the check of its second phase; the robot of the first
phase has reported its success. -/
private def untilSecondCheck : List Label :=
  startCall 0 (.createDeployment (rolloutRequest "canary")) 10 ++
    startCall 1 (.runCanary 0 pairTargets { version := "2.0.0" }) 5 ++
      startCall 2 (.progress ⟨"r2", "success", 100⟩) 7 ++ resumeCall 1 1

/-- The rest of the canary, and the success of the second robot. -/
private def secondPhase : List Label :=
  resumeCall 1 4 ++ startCall 3 (.progress ⟨"r1", "success", 100⟩) 9

/-- A canary over two robots that is completed by their two reports. -/
theorem phases_never_decrease_of_two :
    ∃ c c' dep dep', run step (start (fleetDb ["r1", "r2"] (by decide))) untilSecondCheck = some c ∧
      run step c secondPhase = some c' ∧ deployment c 0 = some dep ∧ dep.currentPhase = 1 ∧
      deployment c' 0 = some dep' ∧ dep.currentPhase ≤ dep'.currentPhase ∧
      dep.canaryPercentage ≤ dep'.canaryPercentage := by
  obtain ⟨c', hrun, -⟩ := endsWith_eq_true
    (show endsWith step (start (fleetDb ["r1", "r2"] (by decide)))
      (untilSecondCheck ++ secondPhase) (inPhase 0 3 100) = true by decide +kernel)
  obtain ⟨c, h, h'⟩ := run_append_eq_some hrun
  obtain ⟨m, hm, hend⟩ := endsWith_eq_true
    (show endsWith step (start (fleetDb ["r1", "r2"] (by decide))) untilSecondCheck
      (fun c => startRolloutCalled 0 c && inPhase 0 1 20 c) = true by decide +kernel)
  obtain rfl : m = c := Option.some.inj (hm.symm.trans h)
  obtain ⟨hcalled, hphase⟩ := (Bool.and_eq_true _ _).mp hend
  obtain ⟨dep, hdep, hstrategy, hone, -⟩ := inPhase_spec hphase
  obtain ⟨dep', hdep', hle, hle'⟩ := phases_never_decrease h (startRolloutCalled_spec hcalled)
    hdep hstrategy h'
    (EachStep.of_eachStep (fun _ _ => recordsBeforeCompletion_spec) (by decide +kernel))
  exact ⟨m, c', dep, dep', h, h', hdep, hone, hdep', hle, hle'⟩

/-- The success of the first robot is delivered again, and completes the deployment, between
the phase check of the goroutine and its record. -/
private def redelivered : List Label :=
  untilSecondCheck ++ startCall 3 (.progress ⟨"r2", "success", 100⟩) 9

/-- A redelivered report completes the deployment, and the goroutine takes the phase back. -/
theorem canary_overtaken :
    ¬ ∀ (id : DeploymentID) (db : Db) (ls ls' : List Label) (c c' : Config) (dep : Deployment),
      run step (start db) ls = some c → StartRolloutCalled id c → deployment c id = some dep →
      dep.strategy = .canary → run step c ls' = some c' →
      ∃ dep', deployment c' id = some dep' ∧ dep.currentPhase ≤ dep'.currentPhase ∧
        dep.canaryPercentage ≤ dep'.canaryPercentage := by
  intro hall
  obtain ⟨c', hrun, hend'⟩ := endsWith_eq_true
    (show endsWith step (start (fleetDb ["r1", "r2"] (by decide)))
      (redelivered ++ resumeCall 1 1) (inPhase 0 2 60) = true by decide +kernel)
  obtain ⟨c, h, h'⟩ := run_append_eq_some hrun
  obtain ⟨m, hm, hend⟩ := endsWith_eq_true
    (show endsWith step (start (fleetDb ["r1", "r2"] (by decide))) redelivered
      (fun c => startRolloutCalled 0 c && inPhase 0 3 100 c) = true by decide +kernel)
  obtain rfl : m = c := Option.some.inj (hm.symm.trans h)
  obtain ⟨hcalled, hphase⟩ := (Bool.and_eq_true _ _).mp hend
  obtain ⟨dep, hdep, hstrategy, hthree, -⟩ := inPhase_spec hphase
  obtain ⟨dep', hdep', -, htwo, -⟩ := inPhase_spec hend'
  obtain ⟨dep'', hdep'', hle, -⟩ :=
    hall 0 _ _ _ m c' dep h (startRolloutCalled_spec hcalled) hdep hstrategy h'
  obtain rfl : dep' = dep'' := Option.some.inj (hdep'.symm.trans hdep'')
  omega

end ControlPlane

end OtaRobot
