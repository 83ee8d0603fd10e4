import OtaRobot.Rollout.Canary

/-!
# What a report callback does

An error callback looks its row up, writes it, counts the failure and only then reads
the deployment to decide on a rollback.  The discipline of this file records how far a
callback has got with one deployment, and says what it has done when it returns.

Main results:

- Theorem {lit}`handleDeviceError_processing`: a returned error callback has counted
  the failure of its row and has stopped the deployment, or has read it below its
  threshold since.
-/

namespace OtaRobot

open Prog Transition

namespace ControlPlane

/-! ## What a callback has done -/

/-- The progress of a report callback with respect to one deployment: a statement of
it has failed, the row of the deployment it has found, whether it has written the row
and counted the failure, the deployment as it has read it since, and whether it has
seen to it that the deployment is not running. -/
structure Processing where
  failed : Bool := false
  row : Option DeploymentDevice := none
  wrote : Bool := false
  counted : Bool := false
  seen : Option Deployment := none
  stopped : Bool := false

/-- The callback reads the deployment. -/
def Processing.read (g : Processing) (dep : Deployment) : Processing :=
  { g with
    seen := some dep
    stopped := g.stopped || (g.row.isSome && decide (dep.status ≠ .running)) }

/-- The callback sets the status of the deployment. -/
def Processing.setStatus (g : Processing) (st : DeploymentStatus) : Processing :=
  { g with stopped := g.stopped || (g.row.isSome && decide (st ≠ .running)) }

/-- A statement that has not failed. -/
def Processing.statement (id : DeploymentID) (g : Processing) : (q : Query) → q.Row → Processing
  | .getActiveDeploymentDeviceByDevice _, (row : DeploymentDevice) =>
      if row.deploymentID = id then { g with row := some row } else g
  | .updateDeploymentDeviceStatus p, _ =>
      if p.deploymentID = id then { g with wrote := true } else g
  | .incrementDeploymentFailure id', _ =>
      if id' = id then { g with counted := true, seen := none } else g
  | .getDeployment id' _, (dep : Deployment) =>
      if id' = id then g.read dep else g
  | .updateDeploymentStatus id' st, _ => if id' = id then g.setStatus st else g
  | _, _ => g

/-- What is known of the processing after an operation. -/
def Processing.after (id : DeploymentID) (g : Processing) : (op : Op) → op.Ret → Processing
  | .sql q, (r : Option q.Row) =>
      match r with
      | none => { g with failed := true }
      | some row => g.statement id q row
  | _, _ => g

/-- The device a report is about. -/
def Call.reports : Call → Option DeviceID
  | .progress event => some event.deviceID
  | .error event => some event.deviceID
  | _ => none

/-- Rows and failures of the deployment are only written by callbacks that have found
a row of it. -/
def ProcessingAllowed (id : DeploymentID) (call : Call) (g : Processing) : Op → Prop
  | .sql (.getActiveDeploymentDeviceByDevice deviceID) => Call.reports call = some deviceID
  | .sql (.updateDeploymentDeviceStatus p) => p.deploymentID = id →
      ∃ row, g.row = some row ∧ Call.reports call = some p.deviceID
  | .sql (.incrementDeploymentFailure id') => id' = id →
      (∃ row, g.row = some row) ∧ Call.isErrorReport call = true
  | _ => True

/-- A callback counts before it evaluates. -/
def processingDiscipline (id : DeploymentID) (call : Call) : Discipline Op.Ret Processing where
  allowed := ProcessingAllowed id call
  rely _ := Keyed
  next := Processing.after id

/-- Everything an error callback does about the row it has found. -/
structure Evaluated (g : Processing) : Prop where
  written : ∀ row, g.row = some row →
    row.status = "success" ∨ row.status = "failed" ∨ g.wrote = true
  counted : g.wrote = true → g.counted = true
  decided : g.counted = true →
    g.stopped = true ∨ ∃ dep, g.seen = some dep ∧ dep.breached = false

/-- A callback that has returned is done, unless a statement of it has failed. -/
def Processed (g : Processing) : Prop :=
  g.failed = true ∨ Evaluated g

/-- What a thread of {lit}`call` has done when it returns. -/
def processedBy : Call → Processing → Prop
  | .error _, g => Processed g
  | _, _ => True

/-! ## Operations that neither write rows nor count failures -/

/-- The operation neither looks a row up nor writes one nor counts a failure. -/
def Op.isPlain : Op → Bool
  | .sql (.getActiveDeploymentDeviceByDevice _) | .sql (.updateDeploymentDeviceStatus _)
  | .sql (.incrementDeploymentFailure _) => false
  | _ => true

/-- A plain operation is always allowed. -/
theorem processingAllowed_of_isPlain {id : DeploymentID} {call : Call} {g : Processing}
    {op : Op} (h : Op.isPlain op = true) : ProcessingAllowed id call g op := by
  cases op with
  | sql q =>
      cases q with
      | getActiveDeploymentDeviceByDevice | updateDeploymentDeviceStatus
      | incrementDeploymentFailure => cases h
      | _ => trivial
  | _ => trivial

/-- A plain operation leaves the row and what was done about it alone. -/
theorem Processing.after_of_isPlain (id : DeploymentID) (g : Processing) {op : Op}
    (h : Op.isPlain op = true) (r : op.Ret) :
    (g.after id op r).row = g.row ∧ (g.after id op r).wrote = g.wrote ∧
      (g.after id op r).counted = g.counted := by
  have hset : ∀ (b : Prop) [Decidable b] (g' : Processing),
      (g'.row = g.row ∧ g'.wrote = g.wrote ∧ g'.counted = g.counted) →
      (if b then g' else g).row = g.row ∧ (if b then g' else g).wrote = g.wrote ∧
        (if b then g' else g).counted = g.counted := by
    intro b _ g' hg'
    split
    · exact hg'
    · exact ⟨rfl, rfl, rfl⟩
  cases op with
  | sql q =>
      have hsome : ∀ row, (g.statement id q row).row = g.row ∧
          (g.statement id q row).wrote = g.wrote ∧
            (g.statement id q row).counted = g.counted := by
        intro row
        cases q with
        | getActiveDeploymentDeviceByDevice | updateDeploymentDeviceStatus
        | incrementDeploymentFailure => cases h
        | getDeployment | updateDeploymentStatus => exact hset _ _ ⟨rfl, rfl, rfl⟩
        | _ => exact ⟨rfl, rfl, rfl⟩
      have hanswer : ∀ r : Option q.Row, (g.after id (.sql q) r).row = g.row ∧
          (g.after id (.sql q) r).wrote = g.wrote ∧
            (g.after id (.sql q) r).counted = g.counted := by
        intro r
        cases r with
        | none => exact ⟨rfl, rfl, rfl⟩
        | some row => exact hsome row
      exact hanswer r
  | _ => exact ⟨rfl, rfl, rfl⟩

/-- A statement that has failed stays failed. -/
theorem Processing.after_failed {id : DeploymentID} {g : Processing} (h : g.failed = true)
    (op : Op) (r : op.Ret) : (g.after id op r).failed = true := by
  have hset : ∀ (b : Prop) [Decidable b] (g' : Processing), g'.failed = true →
      (if b then g' else g).failed = true := by
    intro b _ g' hg'
    split
    · exact hg'
    · exact h
  cases op with
  | sql q =>
      have hanswer : ∀ r : Option q.Row, (g.after id (.sql q) r).failed = true := by
        intro r
        cases r with
        | none => rfl
        | some row =>
            cases q with
            | getActiveDeploymentDeviceByDevice | updateDeploymentDeviceStatus
            | incrementDeploymentFailure | getDeployment | updateDeploymentStatus =>
                exact hset _ _ h
            | _ => exact h
      exact hanswer r
  | _ => exact h

theorem executeRollback_plain (depID : DeploymentID) (reason : RollbackReason) :
    Always AnyAnswer (fun op => Op.isPlain op = true) (executeRollback depID reason) :=
  (executeRollback_rollbackOps depID reason).mono (fun _ _ h => h) fun _ h => by
    cases h <;> rfl

theorem evaluateFailure_plain (activeDD : DeploymentDevice) :
    Always AnyAnswer (fun op => Op.isPlain op = true) (evaluateFailure activeDD) := by
  rw [evaluateFailure, getDeployment_bind]
  refine ⟨rfl, fun (r : Option Deployment) _ => ?_⟩
  rcases r with _ | dep
  · trivial
  · dsimp only
    split
    · exact executeRollback_plain _ _
    · split
      · exact ⟨rfl, fun _ _ => trivial⟩
      · trivial

/-- A success counts no failure. -/
theorem creditSuccess_plain (event : DeviceProgressEvent) (activeDD : DeploymentDevice) :
    Always AnyAnswer (fun op => Op.isPlain op = true) (creditSuccess event activeDD) := by
  have hcomplete : ∀ depID dep,
      Always AnyAnswer (fun op => Op.isPlain op = true) (completeDeployment depID dep) := by
    intro depID dep
    rw [completeDeployment, query_bind]
    refine ⟨rfl, fun _ _ => ?_⟩
    split
    · exact ⟨rfl, fun _ _ => trivial⟩
    · trivial
  rw [creditSuccess, getDeployment_bind]
  refine ⟨rfl, fun (r : Option Deployment) _ => ?_⟩
  rcases r with _ | dep
  · trivial
  · dsimp only
    split
    · trivial
    · rw [query_bind]
      refine ⟨rfl, fun _ _ => ?_⟩
      refine Always.bind ?_ fun _ => ?_
      · refine (recordInstalledVersion_ops event dep).mono (fun _ _ h => h) fun op hop => ?_
        rcases hop with ⟨fw, rfl⟩ | ⟨v, rfl⟩ <;> rfl
      · split
        · exact (hcomplete _ dep).bind fun _ => trivial
        · trivial

/-- Reading a deployment counts nothing. -/
theorem getDeploymentHandler_plain (depID : DeploymentID) :
    Always AnyAnswer (fun op => Op.isPlain op = true) (getDeploymentHandler depID) :=
  (getDeploymentHandler_ops depID).mono (fun _ _ h => h) fun _ h => by
    cases h <;> rfl

/-- A requested rollback counts nothing. -/
theorem rollbackHandler_plain (depID : DeploymentID) :
    Always AnyAnswer (fun op => Op.isPlain op = true) (rollbackHandler depID) := by
  refine (rollbackHandler_ops depID).mono (fun _ _ h => h) fun op hop => ?_
  rcases hop with hop | ⟨r, rfl⟩
  · cases hop <;> rfl
  · rfl

/-- A request for a deployment counts nothing. -/
theorem createDeployment_plain (req : CreateDeploymentRequest) :
    Always AnyAnswer (fun op => Op.isPlain op = true) (OtaRobot.createDeployment req) :=
  (createDeployment_ops req).mono (fun _ _ h => h) fun op hop => by
    cases hop with
    | statement q hlaunch => cases q <;> first | rfl | cases hlaunch
    | _ => rfl

theorem runCanary_plain (depID : DeploymentID) (devices : List Device) (cmd : UpdateCommand) :
    Always AnyAnswer (fun op => Op.isPlain op = true) (OtaRobot.runCanary depID devices cmd) :=
  (runCanary_ops depID devices cmd).mono (fun _ _ h => h) fun _ h => by
    cases h <;> rfl

/-! ## The callbacks -/

section

variable (id : DeploymentID) (call : Call)

/-- The rest of the callback keeps to the discipline. -/
private abbrev ProcessOk {α : Type} (post : Processing → Prop) (g : Processing)
    (p : Rollout α) : Prop :=
  Obeys (processingDiscipline id call) (fun g' _ => post g') g p

/-- A procedure of plain operations keeps what they keep. -/
private theorem processOk_of_plain {α : Type} {G : Processing → Prop} {p : Rollout α}
    {g : Processing} (hp : Always AnyAnswer (fun op => Op.isPlain op = true) p)
    (hG : ∀ g op r, G g → Op.isPlain op = true → G (g.after id op r)) (hg : G g) :
    ProcessOk id call G g p :=
  hp.obeys (G := G) (fun _ _ _ _ => trivial)
    (fun _ _ _ hop => processingAllowed_of_isPlain hop) hG hg

/-- The failure of the row is counted. -/
private structure Counted (g : Processing) : Prop where
  row : g.row.isSome = true
  wrote : g.wrote = true
  counted : g.counted = true

/-- The failure is counted, and the deployment stopped unless a statement has failed. -/
private structure Stopping (g : Processing) : Prop extends Counted g where
  stopped : g.failed = true ∨ g.stopped = true

/-- A counted failure is processed when the decision is made. -/
private theorem Counted.processed {g : Processing} (h : Counted g)
    (hdecided : g.stopped = true ∨ ∃ dep, g.seen = some dep ∧ dep.breached = false) :
    Processed g :=
  Or.inr ⟨fun _ _ => Or.inr (Or.inr h.wrote), fun _ => h.counted, fun _ => hdecided⟩

/-- A failure is processed when the rollback has begun. -/
private theorem Stopping.processed {g : Processing} (h : Stopping g) : Processed g := by
  rcases h.stopped with hfailed | hstopped
  · exact Or.inl hfailed
  · exact h.toCounted.processed (Or.inl hstopped)

/-- The loop of the rollback comes after the decision. -/
private theorem revertDevices_processing (depID : DeploymentID) (reason : RollbackReason)
    (devs : List DeploymentDevice) (g : Processing) (hg : Stopping g) :
    ProcessOk id call Stopping g (revertDevices depID reason devs) := by
  refine (revertDevices_ops depID reason devs).obeys (G := Stopping) (fun _ _ _ _ => trivial)
    ?_ ?_ hg
  · intro g op _ hop
    cases hop <;> trivial
  · intro g op r hg hop
    cases hop with
    | publish => exact hg
    | version deviceID v =>
        have hafter : ∀ r : Option Device,
            Stopping (g.after id (.sql (.updateDeviceVersion deviceID v)) r) := by
          intro r
          cases r with
          | none => exact ⟨⟨hg.row, hg.wrote, hg.counted⟩, Or.inl rfl⟩
          | some dev => exact hg
        exact hafter r

/-- A read of the deployment is kept. -/
private theorem Counted.read {g : Processing} (h : Counted g) (dep : Deployment) :
    Counted (g.read dep) :=
  ⟨h.row, h.wrote, h.counted⟩

/-- A callback that reads the deployment and finds it not running has nothing left to
do. -/
private theorem Counted.stopping_read {g : Processing} (h : Counted g) {dep : Deployment}
    (hstatus : dep.status ≠ .running) : Stopping (g.read dep) :=
  ⟨h.read dep, Or.inr (by simp [Processing.read, h.row, hstatus])⟩

/-- The status is written by the rollback. -/
private theorem Counted.stopping_setStatus {g : Processing} (h : Counted g)
    {st : DeploymentStatus} (hst : st ≠ .running) : Stopping (g.setStatus st) :=
  ⟨⟨h.row, h.wrote, h.counted⟩, Or.inr (by simp [Processing.setStatus, h.row, hst])⟩

/-- The automaton after a read. -/
private theorem next_read (g : Processing) (site : ReadSite) (dep : Deployment) :
    (processingDiscipline id call).next g (.sql (.getDeployment id site)) (some dep) =
      g.read dep :=
  if_pos rfl

/-- The automaton after a status. -/
private theorem next_setStatus (g : Processing) (st : DeploymentStatus) (dep : Deployment) :
    (processingDiscipline id call).next g (.sql (.updateDeploymentStatus id st)) (some dep) =
      g.setStatus st :=
  if_pos rfl

/-- A rollback of the deployment leaves it stopped. -/
private theorem executeRollback_processing (reason : RollbackReason) (g : Processing)
    (hg : Counted g) : ProcessOk id call Processed g (executeRollback id reason) := by
  rw [executeRollback, getDeployment_bind]
  refine ⟨trivial, fun (r : Option Deployment) hkeyed => ?_⟩
  rcases r with _ | dep
  · exact Or.inl rfl
  · have hid : dep.id = id := hkeyed dep rfl
    refine Obeys.of_eq (next_read id call g .handler dep) ?_
    dsimp only
    split
    · rename_i hrolled
      exact (hg.stopping_read (by simp [hrolled])).processed
    · rw [query_bind, hid]
      refine ⟨trivial, fun (r : Option Deployment) _ => ?_⟩
      rcases r with _ | updated
      · exact Or.inl rfl
      · have hstopping : Stopping ((g.read dep).setStatus .rolledBack) :=
          (hg.read dep).stopping_setStatus (by simp)
        refine Obeys.of_eq (next_setStatus id call (g.read dep) .rolledBack updated) ?_
        dsimp only
        rw [query_bind]
        refine ⟨trivial, fun (r : Option (List DeploymentDevice)) _ => ?_⟩
        rcases r with _ | devs
        · exact Or.inl rfl
        · refine (revertDevices_processing id call id reason devs _ hstopping).bind ?_
          intro g' _ hg'
          exact hg'.processed

/-- Once its failure is counted, a callback reads the deployment and stops it if its
threshold is breached. -/
private theorem evaluateFailure_processing (activeDD : DeploymentDevice)
    (hrow : activeDD.deploymentID = id) (g : Processing) (hg : Counted g) :
    ProcessOk id call Processed g (evaluateFailure activeDD) := by
  rw [evaluateFailure, getDeployment_bind, hrow]
  refine ⟨trivial, fun (r : Option Deployment) hkeyed => ?_⟩
  rcases r with _ | dep
  · exact Or.inl rfl
  · have hid : dep.id = id := hkeyed dep rfl
    refine Obeys.of_eq (next_read id call g .handler dep) ?_
    dsimp only
    split
    · rw [hid]
      exact executeRollback_processing id call _ _ (hg.read dep)
    · rename_i hkeep
      have hprocessed : Processed (g.read dep) := by
        by_cases hstatus : dep.status = .running
        · have hbreached : dep.breached = false := by
            by_contra hne
            exact hkeep ⟨hstatus, by simpa using hne⟩
          exact (hg.read dep).processed (Or.inr ⟨dep, rfl, hbreached⟩)
        · exact (hg.stopping_read hstatus).processed
      split
      · rw [query_bind]
        refine ⟨trivial, fun (r : Option Deployment) _ => ?_⟩
        rcases r with _ | updated
        · exact Or.inl rfl
        · refine Obeys.of_eq (next_setStatus id call (g.read dep) .completed updated) ?_
          exact ((hg.read dep).stopping_setStatus (by simp)).processed
      · exact hprocessed

/-- The error callback from the row it has found on. -/
private theorem errorOnRow_processing (event : DeviceErrorEvent) (activeDD : DeploymentDevice)
    (hrow : activeDD.deploymentID = id) (g : Processing) (hg : g.row = some activeDD)
    (hnew : g.wrote = false ∧ g.counted = false) :
    ProcessOk id (.error event) Processed g (errorOnRow event activeDD) := by
  unfold errorOnRow
  split
  · rename_i hterminal
    refine Or.inr ⟨?_, by simp [hnew.1], by simp [hnew.2]⟩
    intro row hfound
    obtain rfl : activeDD = row := by simpa [hg] using hfound
    exact hterminal.imp_right Or.inl
  · rw [query_bind]
    refine ⟨fun _ => ⟨activeDD, hg, rfl⟩, fun (r : Option DeploymentDevice) _ => ?_⟩
    rcases r with _ | row
    · exact Or.inl rfl
    · have hwrote : (processingDiscipline id (.error event)).next g
          (.sql (.updateDeploymentDeviceStatus
            { deploymentID := activeDD.deploymentID
              deviceID := event.deviceID
              status := "failed"
              progress := activeDD.progress
              errorMessage := some event.error })) (some row) = { g with wrote := true } :=
        if_pos hrow
      refine Obeys.of_eq hwrote ?_
      dsimp only
      rw [query_bind]
      refine ⟨fun _ => ⟨⟨activeDD, hg⟩, rfl⟩, fun (r : Option Unit) _ => ?_⟩
      rcases r with _ | u
      · have hfailed : ProcessOk id (.error event) (fun g => g.failed = true)
            { g with wrote := true, failed := true } (evaluateFailure activeDD) :=
          processOk_of_plain id (.error event) (evaluateFailure_plain activeDD)
            (fun _ op r h _ => Processing.after_failed h op r) rfl
        exact hfailed.mono fun _ _ h => Or.inl h
      · have hcounted : (processingDiscipline id (.error event)).next { g with wrote := true }
            (.sql (.incrementDeploymentFailure activeDD.deploymentID)) (some u) =
              { g with wrote := true, counted := true, seen := none } :=
          if_pos hrow
        refine Obeys.of_eq hcounted ?_
        exact evaluateFailure_processing id _ activeDD hrow _ ⟨by simp [hg], rfl, rfl⟩

/-- The callback is about another deployment. -/
private structure Untouched (g : Processing) : Prop where
  row : g.row = none
  wrote : g.wrote = false
  counted : g.counted = false

/-- A failure of another deployment needs no processing here. -/
private theorem Untouched.processed {g : Processing} (h : Untouched g) : Processed g :=
  Or.inr ⟨by simp [h.row], by simp [h.wrote], by simp [h.counted]⟩

/-- A plain operation touches nothing. -/
private theorem Untouched.after_of_isPlain {g : Processing} (h : Untouched g) {op : Op}
    (hop : Op.isPlain op = true) (r : op.Ret) : Untouched (g.after id op r) := by
  obtain ⟨hrow, hwrote, hcounted⟩ := g.after_of_isPlain id hop r
  exact ⟨hrow.trans h.row, hwrote.trans h.wrote, hcounted.trans h.counted⟩

/-- An error on the row of another deployment touches nothing here. -/
private theorem errorOnRow_untouched (event : DeviceErrorEvent) (activeDD : DeploymentDevice)
    (hrow : activeDD.deploymentID ≠ id) (g : Processing) (hg : Untouched g) :
    ProcessOk id call Untouched g (errorOnRow event activeDD) := by
  unfold errorOnRow
  split
  · exact hg
  · rw [query_bind]
    refine ⟨fun h => absurd h hrow, fun (r : Option DeploymentDevice) _ => ?_⟩
    rcases r with _ | row
    · exact ⟨hg.row, hg.wrote, hg.counted⟩
    · refine Obeys.of_eq (if_neg hrow) ?_
      dsimp only
      rw [query_bind]
      refine ⟨fun h => absurd h hrow, fun (r : Option Unit) _ => ?_⟩
      refine processOk_of_plain id call (evaluateFailure_plain activeDD)
        (fun _ _ r h hop => h.after_of_isPlain id hop r) ?_
      rcases r with _ | u
      · exact ⟨hg.row, hg.wrote, hg.counted⟩
      · show Untouched (if activeDD.deploymentID = id then _ else g)
        rw [if_neg hrow]
        exact hg

/-- What an error callback has done when it returns. -/
theorem handleDeviceError_processing (event : DeviceErrorEvent) :
    Obeys (processingDiscipline id (.error event)) (fun g _ => Processed g) {}
      (handleDeviceError event) := by
  have hstart : Untouched {} := ⟨rfl, rfl, rfl⟩
  rw [handleDeviceError, query_bind]
  refine ⟨rfl, fun (r : Option DeploymentDevice) _ => ?_⟩
  rcases r with _ | activeDD
  · exact Or.inl rfl
  · by_cases hrow : activeDD.deploymentID = id
    · refine Obeys.of_eq (if_pos hrow) ?_
      exact errorOnRow_processing id event activeDD hrow _ rfl ⟨rfl, rfl⟩
    · refine Obeys.of_eq (if_neg hrow) ?_
      exact (errorOnRow_untouched id _ event activeDD hrow {} hstart).mono
        fun _ _ h => h.processed

/-- A progress report counts no failure. -/
theorem handleDeviceProgress_processing (event : DeviceProgressEvent) :
    Obeys (processingDiscipline id (.progress event)) (fun _ _ => True) {}
      (handleDeviceProgress event) := by
  have hplain : ∀ (activeDD : DeploymentDevice) (g : Processing),
      (activeDD.deploymentID = id → g.row = some activeDD) →
        ProcessOk id (.progress event) (fun _ => True) g (progressOnRow event activeDD) := by
    intro activeDD g hg
    rw [progressOnRow, query_bind]
    refine ⟨fun h => ⟨activeDD, hg h, rfl⟩, fun (r : Option DeploymentDevice) _ => ?_⟩
    rcases r with _ | row
    · trivial
    · dsimp only
      split
      · exact processOk_of_plain id _ (creditSuccess_plain event activeDD)
          (fun _ _ _ _ _ => trivial) trivial
      · trivial
  rw [handleDeviceProgress, query_bind]
  refine ⟨rfl, fun (r : Option DeploymentDevice) _ => ?_⟩
  rcases r with _ | activeDD
  · trivial
  · by_cases hrow : activeDD.deploymentID = id
    · exact Obeys.of_eq (if_pos hrow) (hplain activeDD _ fun _ => rfl)
    · exact Obeys.of_eq (if_neg hrow) (hplain activeDD _ fun h => absurd h hrow)

/-- Every call has processed what it has counted when it returns. -/
theorem body_processing (call : Call) :
    Obeys (processingDiscipline id call) (fun g _ => processedBy call g) {} (body call) := by
  have hplain : ∀ p : Rollout Unit, Always AnyAnswer (fun op => Op.isPlain op = true) p →
      ProcessOk id call (fun _ => True) {} p := fun p hp =>
    processOk_of_plain id call hp (fun _ _ _ _ _ => trivial) trivial
  cases call with
  | progress event =>
      refine (handleDeviceProgress_processing id event).bind fun _ _ _ => ?_
      exact ⟨trivial, fun _ _ => trivial⟩
  | error event =>
      refine (handleDeviceError_processing id event).bind fun _ _ hprocessed => ?_
      exact ⟨trivial, fun _ _ => hprocessed⟩
  | createDeployment req => exact hplain _ (createDeployment_plain req)
  | getDeployment depID => exact hplain _ (getDeploymentHandler_plain depID)
  | rollback depID => exact hplain _ (rollbackHandler_plain depID)
  | runCanary depID devices cmd => exact hplain _ (runCanary_plain depID devices cmd)

end

end ControlPlane

end OtaRobot
