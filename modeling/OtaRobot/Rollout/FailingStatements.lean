import OtaRobot.Rollout.ClosedReports

/-!
# Reports under database failure

A report handler is a sequence of statements without a transaction.  Any of them may fail;
some failures end the call, others are discarded.  What a call leaves behind depends on
which of its first four statements fail.

Main results:

- Theorems {lit}`progressOnRow_failing` and {lit}`errorOnRow_failing`: what a report does to
  the rows and counters of its deployment, by the statements that fail.
- Theorem {lit}`report_atomic`: exactly when one call leaves rows, counters and the threshold test
  in step.
-/

namespace OtaRobot

open Prog

/-! ## Calls whose statements fail -/

/-- One operation; the head of the list says whether it fails. -/
def execFailing (s : Db × List Bool) (op : Op) : op.Ret × (Db × List Bool) :=
  let answer := ControlPlane.exec { db := s.1 } op { fault := s.2.headD false }
  (answer.1, (answer.2.db, s.2.tail))

/-- A call whose operations fail as the list says, from the first on. -/
def runFailing (db : Db) (call : Call) (faults : List Bool) :
    (Db × List Bool) × List (Answered Op.Ret) :=
  ((ControlPlane.body call).run (logged execFailing) ((db, faults), [])).2

/-- Operation {lit}`i` of the call fails. -/
def fails (faults : List Bool) (i : Nat) : Bool :=
  (faults.drop i).headD false

/-- The failures from the next statement on. -/
theorem fails_tail (faults : List Bool) (i : Nat) :
    fails faults.tail i = fails faults (i + 1) := by
  rw [fails, fails, List.drop_tail]

/-! ## The threshold test -/

/-- How far an error report has come with the threshold test of a deployment: the failure has been
counted, the deployment has then been read, and the rollback has then been begun or left out. -/
inductive Testing where
  | waiting
  | counted
  | found (dep : Deployment)
  | tested (right : Bool)
deriving DecidableEq

namespace Testing

/-- {lit}`ExecuteRollback` begins with a read of the deployment. -/
def beginsRollback (id : DeploymentID) : Op → Bool
  | .sql (.getDeployment i .handler) => i = id
  | _ => false

/-- One operation of the report and its answer.  A test is right if the rollback begins exactly
if the deployment is running and its failure rate has reached the threshold. -/
def next (id : DeploymentID) : Testing → (op : Op) → op.Ret → Testing
  | .waiting, .sql (.incrementDeploymentFailure i), _ => if i = id then .counted else .waiting
  | .waiting, _, _ => .waiting
  | .counted, .sql (.getDeployment i .handler), (r : Option Deployment) =>
      if i = id then r.elim .waiting .found else .waiting
  | .counted, _, _ => .waiting
  | .found dep, op, _ =>
      .tested (beginsRollback id op = decide (dep.status = .running ∧ dep.breached))
  | .tested right, _, _ => .tested right

/-- The test has been made, and rightly. -/
def passed : Testing → Bool
  | .waiting | .counted => false
  | .found dep => ¬ (dep.status = .running ∧ dep.breached)
  | .tested right => right

/-- The operations of a call, from the first on. -/
def after (id : DeploymentID) (log : List (Answered Op.Ret)) : Testing :=
  log.foldl (fun t e => t.next id e.op e.ret) .waiting

theorem after_append (id : DeploymentID) (log : List (Answered Op.Ret)) (e : Answered Op.Ret) :
    after id (log ++ [e]) = (after id log).next id e.op e.ret := by
  rw [after, List.foldl_append]
  rfl

/-- The return of the callback neither makes nor spoils a test. -/
theorem passed_callbackReturn (id : DeploymentID) (t : Testing) :
    (t.next id .callbackReturn ()).passed = t.passed := by
  cases t with
  | found dep =>
      show (decide (false = decide (dep.status = .running ∧ dep.breached)) : Bool) = _
      by_cases hbreached : dep.status = .running ∧ dep.breached <;> simp [passed, hbreached]
  | _ => rfl

end Testing

/-- A failing statement finds nothing. -/
def Failed : (op : Op) → op.Ret → Prop
  | .sql _, r => r = (none : Option _)
  | _, _ => True

/-! ## A ledger under failing statements -/

/-- The ledger of a deployment, what is still to fail, and how far the threshold test has
come. -/
structure Watch where
  ledger : Ledger
  faults : List Bool
  testing : Testing

/-- The automaton that carries a ledger along a call some statements of which fail. -/
def failingDiscipline (id : DeploymentID) : Discipline Op.Ret Watch where
  allowed _ op := ∀ p, op ≠ .sql (.createDeploymentDevice p)
  rely g op r := if fails g.faults 0 = true then Failed op r else LedgerAnswer id g.ledger op r
  next g op r :=
    { ledger := if fails g.faults 0 = true then g.ledger else g.ledger.after id op
      faults := g.faults.tail
      testing := g.testing.next id op r }

/-- The state shows what the automaton has carried along. -/
structure Watched (id : DeploymentID) (s : (Db × List Bool) × List (Answered Op.Ret))
    (g : Watch) : Prop where
  ledger : s.1.1.ledger id = some g.ledger
  faults : s.1.2 = g.faults
  testing : g.testing = Testing.after id s.2

/-- An operation keeps the account and the automaton together. -/
theorem watched_exec {id : DeploymentID} {s : (Db × List Bool) × List (Answered Op.Ret)}
    {g : Watch} {op : Op} (hs : Watched id s g)
    (hop : ∀ p, op ≠ .sql (.createDeploymentDevice p)) :
    (failingDiscipline id).rely g op (logged execFailing s op).1 ∧
      Watched id (logged execFailing s op).2
        ((failingDiscipline id).next g op (logged execFailing s op).1) := by
  obtain ⟨⟨db, faults⟩, log⟩ := s
  obtain ⟨hledger, rfl, htesting⟩ := hs
  have hlog : g.testing.next id op (logged execFailing ((db, g.faults), log) op).1 =
      Testing.after id (logged execFailing ((db, g.faults), log) op).2.2 := by
    rw [htesting]
    exact (Testing.after_append id log ⟨op, _⟩).symm
  cases hfault : g.faults.headD false with
  | true =>
      have hfails : fails g.faults 0 = true := hfault
      refine ⟨?_, ?_, rfl, hlog⟩
      · simp only [failingDiscipline, if_pos hfails]
        cases op with
        | sql q =>
            show (ControlPlane.exec { db := db } (.sql q) { fault := g.faults.headD false }).1 = _
            rw [hfault]
            rfl
        | _ => trivial
      · simp only [failingDiscipline, if_pos hfails]
        cases op with
        | sql q =>
            show (ControlPlane.exec { db := db } (.sql q)
              { fault := g.faults.headD false }).2.db.ledger id = _
            rw [hfault]
            exact hledger
        | _ => exact hledger
  | false =>
      have hfails : ¬ fails g.faults 0 = true := by
        show ¬ g.faults.headD false = true
        rw [hfault]
        exact Bool.false_ne_true
      have hanswer := ledgerAnswer_exec (x := { fault := g.faults.headD false }) hfault hledger hop
      refine ⟨?_, ?_, rfl, hlog⟩
      · simp only [failingDiscipline, if_neg hfails]
        exact hanswer.1
      · simp only [failingDiscipline, if_neg hfails]
        exact hanswer.2

/-- Along a program that obeys the automaton the state goes where the automaton goes. -/
theorem run_watched {id : DeploymentID} {α : Type} {p : Rollout α} {post : Watch → α → Prop}
    {s : (Db × List Bool) × List (Answered Op.Ret)} {g : Watch}
    (hp : Obeys (failingDiscipline id) post g p) (hs : Watched id s g) :
    ∃ g', Watched id (p.run (logged execFailing) s).2 g' ∧
      post g' (p.run (logged execFailing) s).1 :=
  hp.run (fun _ _ _ hs hop => watched_exec hs hop) hs

/-- One operation, which fails or is answered by the database. -/
theorem failing_call {id : DeploymentID} {α : Type} {op : Op} {k : op.Ret → Rollout α}
    {post : Watch → α → Prop} {g : Watch} (hop : ∀ p, op ≠ .sql (.createDeploymentDevice p))
    (hfails : fails g.faults 0 = true → ∀ r, Failed op r →
      Obeys (failingDiscipline id) post
        ⟨g.ledger, g.faults.tail, g.testing.next id op r⟩ (k r))
    (hanswers : fails g.faults 0 = false → ∀ r, LedgerAnswer id g.ledger op r →
      Obeys (failingDiscipline id) post
        ⟨g.ledger.after id op, g.faults.tail, g.testing.next id op r⟩ (k r)) :
    Obeys (failingDiscipline id) post g (.call op k) := by
  refine ⟨hop, fun r hr => ?_⟩
  by_cases hfault : fails g.faults 0 = true
  · simp only [failingDiscipline, if_pos hfault] at hr ⊢
    exact hfails hfault r hr
  · simp only [failingDiscipline, if_neg hfault] at hr ⊢
    exact hanswers (Bool.eq_false_iff.mpr hfault) r hr

/-! ## Programs that write no rows and no counters -/

/-- The operation keeps the rows and the counters of deployment {lit}`id`. -/
structure Recordless (id : DeploymentID) (op : Op) : Prop where
  noInsert : ∀ p, op ≠ .sql (.createDeploymentDevice p)
  keeps : ∀ l : Ledger, (l.after id op).record = l.record

/-- Such a program keeps the rows and the counters, whatever fails, and forgets no test. -/
theorem recordless_obeys {id : DeploymentID} {α : Type} {p : Rollout α}
    (hp : Always AnyAnswer (Recordless id) p) (g : Watch) :
    Obeys (failingDiscipline id)
      (fun g' _ => g'.ledger.record = g.ledger.record ∧
        ∀ right, g.testing = .tested right → g'.testing = .tested right) g p := by
  apply hp.obeys (G := fun g' : Watch => g'.ledger.record = g.ledger.record ∧
    ∀ right, g.testing = .tested right → g'.testing = .tested right) (fun _ _ _ _ => trivial)
  · intro g' op _ hop
    exact hop.noInsert
  · intro g' op r hg' hop
    constructor
    · simp only [failingDiscipline]
      split
      · exact hg'.1
      · exact (hop.keeps g'.ledger).trans hg'.1
    · intro right htested
      simp only [failingDiscipline]
      rw [hg'.2 right htested]
      rfl
  · exact ⟨rfl, fun _ htested => htested⟩

/-! ### The operations of the handlers -/

/-- An operation that leaves the account alone records nothing. -/
theorem recordless_of_eq {id : DeploymentID} {op : Op}
    (hop : ∀ p, op ≠ .sql (.createDeploymentDevice p))
    (hkeep : ∀ l : Ledger, l.after id op = l) : Recordless id op :=
  ⟨hop, fun l => congrArg Ledger.record (hkeep l)⟩

/-- The status of a deployment is no record of a robot. -/
theorem updateDeploymentStatus_recordless (id depID : DeploymentID) (status : DeploymentStatus) :
    Recordless id (.sql (.updateDeploymentStatus depID status)) := by
  constructor
  · simp
  · intro l
    simp only [Ledger.after]
    split <;> rfl

/-- A rollback records nothing about robots. -/
theorem RollbackOp.recordless {op : Op} (h : RollbackOp op) (id : DeploymentID) :
    Recordless id op := by
  cases h with
  | rolledBack depID => exact updateDeploymentStatus_recordless id depID _
  | _ => exact recordless_of_eq (by simp) fun _ => rfl

/-- After the failure is counted, rows and counters stay as they are. -/
theorem evaluateFailure_recordless (id : DeploymentID) (activeDD : DeploymentDevice) :
    Always AnyAnswer (Recordless id) (evaluateFailure activeDD) := by
  rw [evaluateFailure, getDeployment_bind]
  refine ⟨recordless_of_eq (by simp) fun _ => rfl, fun (r : Option Deployment) _ => ?_⟩
  cases r with
  | none => trivial
  | some dep =>
      dsimp only
      split
      · exact (executeRollback_rollbackOps _ _).mono (fun _ _ h => h) fun _ h => h.recordless id
      · split
        · exact ⟨updateDeploymentStatus_recordless id _ _, fun _ _ => trivial⟩
        · trivial

/-- The version in the registry is no record of the deployment. -/
theorem recordInstalledVersion_recordless (id : DeploymentID) (event : DeviceProgressEvent)
    (dep : Deployment) : Always AnyAnswer (Recordless id) (recordInstalledVersion event dep) := by
  apply (recordInstalledVersion_ops event dep).mono (fun _ _ h => h)
  intro op hop
  rcases hop with ⟨fw, rfl⟩ | ⟨v, rfl⟩
  · exact recordless_of_eq (by simp) fun _ => rfl
  · exact recordless_of_eq (by simp) fun _ => rfl

/-- A completion records nothing about robots. -/
theorem completeDeployment_recordless (id depID : DeploymentID) (dep : Deployment) :
    Always AnyAnswer (Recordless id) (completeDeployment depID dep) := by
  rw [completeDeployment, query_bind]
  refine ⟨updateDeploymentStatus_recordless id depID _, fun _ _ => ?_⟩
  split
  · exact ⟨recordless_of_eq (by simp) fun _ => rfl, fun _ _ => trivial⟩
  · trivial

/-- After the success is counted, rows and counters stay as they are. -/
theorem afterCount_recordless (id : DeploymentID) (event : DeviceProgressEvent)
    (activeDD : DeploymentDevice) (dep : Deployment) :
    Always AnyAnswer (Recordless id) (do
      recordInstalledVersion event dep
      if dep.successCount + 1 + dep.failureCount ≥ dep.totalDevices then
        completeDeployment activeDD.deploymentID dep
        return (.ok () : Outcome)
      else
        return .ok ()) := by
  apply (recordInstalledVersion_recordless id event dep).bind
  intro _
  split
  · exact (completeDeployment_recordless id _ dep).bind fun _ => trivial
  · trivial

section

variable {id : DeploymentID} {activeDD : DeploymentDevice}

/-- A progress report leaves the records of other deployments alone. -/
theorem progressOnRow_recordless (event : DeviceProgressEvent)
    (hne : activeDD.deploymentID ≠ id) :
    Always AnyAnswer (Recordless id) (progressOnRow event activeDD) := by
  rw [progressOnRow, query_bind]
  refine ⟨recordless_of_eq (by simp) fun _ => if_neg hne, fun (r : Option DeploymentDevice) _ => ?_⟩
  cases r with
  | none => trivial
  | some row =>
      dsimp only
      split
      · rw [creditSuccess, getDeployment_bind]
        refine ⟨recordless_of_eq (by simp) fun _ => rfl, fun (r : Option Deployment) _ => ?_⟩
        cases r with
        | none => trivial
        | some dep =>
            dsimp only
            split
            · trivial
            · rw [query_bind]
              refine ⟨recordless_of_eq (by simp) fun _ => if_neg hne, fun _ _ => ?_⟩
              exact afterCount_recordless id event activeDD dep
      · trivial

/-- An error report leaves the records of other deployments alone. -/
theorem errorOnRow_recordless (event : DeviceErrorEvent) (hne : activeDD.deploymentID ≠ id) :
    Always AnyAnswer (Recordless id) (errorOnRow event activeDD) := by
  unfold errorOnRow
  split
  · trivial
  · rw [query_bind]
    refine ⟨recordless_of_eq (by simp) fun _ => if_neg hne,
      fun (r : Option DeploymentDevice) _ => ?_⟩
    cases r with
    | none => trivial
    | some row =>
        dsimp only
        rw [query_bind]
        refine ⟨recordless_of_eq (by simp) fun _ => if_neg hne, fun _ _ => ?_⟩
        exact evaluateFailure_recordless id activeDD

end

/-! ## What a report leaves behind -/

namespace Ledger

/-- {lit}`a` more successes and {lit}`b` more failures are counted. -/
def count (l : Ledger) (a b : Nat) : Ledger :=
  { l with successCount := l.successCount + a, failureCount := l.failureCount + b }

/-- How many rows of a robot pass a test. -/
def robotRows (l : Ledger) (deviceID : DeviceID) (q : DeploymentDevice → Bool) : Nat :=
  l.rows.countP fun row => row.deviceID = deviceID && q row

section

variable {id : DeploymentID} {l : Ledger}

/-- An update of the rows of a robot changes a count by the rows of this robot. -/
theorem countP_setRow_robot (hrows : ∀ row ∈ l.rows, row.deploymentID = id)
    {p : UpdateDeploymentDeviceStatusParams} (hp : p.deploymentID = id)
    (q : DeploymentDevice → Bool) :
    (l.setRow p).rows.countP q + l.robotRows p.deviceID q =
      l.rows.countP q + l.robotRows p.deviceID fun row => q (p.set row) := by
  have hsel : ∀ q' : DeploymentDevice → Bool, l.robotRows p.deviceID q' =
      l.rows.countP fun row => p.selects row && q' row := by
    intro q'
    apply List.countP_congr
    intro row hrow
    simp [UpdateDeploymentDeviceStatusParams.selects, hrows row hrow, hp]
  rw [hsel, hsel]
  exact countP_update l.rows p.selects q p.set

/-- An update of the rows of a robot, with some successes and failures counted, keeps the
account exactly when as many rows are won and lost as are counted. -/
theorem accounted_count_setRow (hl : l.Accounted) (hrows : ∀ row ∈ l.rows, row.deploymentID = id)
    {p : UpdateDeploymentDeviceStatusParams} (hp : p.deploymentID = id) (a b : Nat) :
    ((l.setRow p).count a b).Accounted ↔
      l.robotRows p.deviceID (fun row => row.status = "success") + a =
          (if p.status = "success" then l.robotRows p.deviceID (fun _ => true) else 0) ∧
        l.robotRows p.deviceID (fun row => row.status = "failed") + b =
          if p.status = "failed" then l.robotRows p.deviceID (fun _ => true) else 0 := by
  have hset : ∀ status : String,
      l.robotRows p.deviceID (fun row => (p.set row).status = status) =
        if p.status = status then l.robotRows p.deviceID (fun _ => true) else 0 := by
    intro status
    by_cases hstatus : p.status = status
    · simp [robotRows, UpdateDeploymentDeviceStatusParams.set, hstatus]
    · simp [robotRows, UpdateDeploymentDeviceStatusParams.set, hstatus]
  have hsuccess := countP_setRow_robot hrows hp fun row => decide (row.status = "success")
  have hfailed := countP_setRow_robot hrows hp fun row => decide (row.status = "failed")
  rw [hset] at hsuccess hfailed
  have hS := hl.success
  have hF := hl.failure
  rw [accounted_iff]
  simp only [count, setRow_successCount, setRow_failureCount]
  omega

end

end Ledger

/-- What a progress report writes into the row. -/
def DeviceProgressEvent.params (event : DeviceProgressEvent) (id : DeploymentID) :
    UpdateDeploymentDeviceStatusParams where
  deploymentID := id
  deviceID := event.deviceID
  status := event.status
  progress := event.progress
  errorMessage := none

/-- What an error report writes into the row. -/
def DeviceErrorEvent.params (event : DeviceErrorEvent) (activeDD : DeploymentDevice) :
    UpdateDeploymentDeviceStatusParams where
  deploymentID := activeDD.deploymentID
  deviceID := event.deviceID
  status := "failed"
  progress := activeDD.progress
  errorMessage := some event.error

/-- The successes a credit counts: its read and its increment have to succeed. -/
def credited (l : Ledger) (faults : List Bool) : Nat :=
  if fails faults 0 = false ∧ fails faults 1 = false ∧
      ¬ (l.status = .rolledBack ∨ l.status = .failed) then 1
  else 0

section

variable {id : DeploymentID} {l : Ledger} {faults : List Bool} {testing : Testing}
  {activeDD : DeploymentDevice}

/-- The rest of the call leaves this record. -/
private abbrev Records {α : Type} (id : DeploymentID) (l' : Ledger) (g : Watch)
    (p : Rollout α) : Prop :=
  Obeys (failingDiscipline id) (fun g' _ => g'.ledger.record = l'.record) g p

/-- What records nothing leaves the record as it is. -/
theorem recordless_records {α : Type} {p : Rollout α} {l' : Ledger} {g : Watch}
    (hp : Always AnyAnswer (Recordless id) p) (hl : g.ledger.record = l'.record) :
    Records id l' g p :=
  (recordless_obeys hp g).mono fun _ _ h => h.1.trans hl

/-- A credit counts at most one success. -/
theorem creditSuccess_failing (event : DeviceProgressEvent) (hid : activeDD.deploymentID = id) :
    Records id (l.count (credited l faults) 0) ⟨l, faults, testing⟩
      (creditSuccess event activeDD) := by
  rw [creditSuccess, getDeployment_bind]
  apply failing_call (by simp)
  · intro hread r hr
    obtain rfl : r = (none : Option Deployment) := hr
    have hcredited : credited l faults = 0 := by simp [credited, show fails faults 0 = true from hread]
    rw [hcredited]
    rfl
  · intro hread r hr
    obtain ⟨dep, rfl, hshows⟩ := hr.2 hid
    have hread : fails faults 0 = false := hread
    dsimp only
    split
    · rename_i hover
      have hcredited : credited l faults = 0 := by
        rw [hshows.eq.1] at hover
        simp [credited, hover]
      rw [hcredited]
      rfl
    · rename_i hopen
      rw [hshows.eq.1] at hopen
      rw [query_bind]
      apply failing_call (by simp)
      · intro hincrement r _
        have hcredited : credited l faults = 0 := by
          have hfault : fails faults 1 = true := by rw [← fails_tail]; exact hincrement
          simp [credited, hfault]
        rw [hcredited]
        exact recordless_records (afterCount_recordless id event activeDD dep) rfl
      · intro hincrement r _
        have hcredited : credited l faults = 1 := by
          have hfault : fails faults 1 = false := by rw [← fails_tail]; exact hincrement
          simp [credited, hread, hfault, hopen]
        rw [hcredited]
        apply recordless_records (afterCount_recordless id event activeDD dep)
        simp only [Ledger.after, hid, if_true]
        rfl

variable (l faults testing) in
/-- A progress report writes the rows of its robot, and counts a success. -/
theorem progressOnRow_failing (event : DeviceProgressEvent) (hid : activeDD.deploymentID = id)
    (hrow : activeDD ∈ l.rows) (hdevice : activeDD.deviceID = event.deviceID) :
    Records id
      (if fails faults 0 = true then l
        else (l.setRow (event.params id)).count
          (if event.status = "success" ∧ event.progress = 100 then credited l faults.tail else 0) 0)
      ⟨l, faults, testing⟩ (progressOnRow event activeDD) := by
  have hparams : (⟨activeDD.deploymentID, event.deviceID, event.status, event.progress, none⟩ :
      UpdateDeploymentDeviceStatusParams) = event.params id := by
    rw [hid]
    rfl
  rw [progressOnRow, query_bind, hparams]
  apply failing_call (by simp)
  · intro hupdate r hr
    obtain rfl : r = (none : Option DeploymentDevice) := hr
    rw [if_pos hupdate]
    rfl
  · intro hupdate r hr
    have hsel : (event.params id).selects activeDD = true := by
      simp [UpdateDeploymentDeviceStatusParams.selects, DeviceProgressEvent.params, hid, hdevice]
    obtain ⟨updated, rfl⟩ := hr ⟨activeDD, hrow, hsel⟩
    have hupdate : fails faults 0 = false := hupdate
    have hset : l.after id (.sql (.updateDeploymentDeviceStatus (event.params id))) =
        l.setRow (event.params id) := if_pos rfl
    rw [if_neg (by simp [hupdate]), hset]
    dsimp only
    split
    · exact creditSuccess_failing event hid
    · rfl

/-- A rollback that is begun after the read of a running deployment that has reached its threshold
is the right answer to the test. -/
theorem executeRollback_failing {dep : Deployment} (hid : dep.id = id)
    (hbreached : dep.status = .running ∧ dep.breached) :
    Obeys (failingDiscipline id)
      (fun g' _ => g'.ledger.record = l.record ∧ g'.testing.passed = true)
      ⟨l, faults, .found dep⟩
      (executeRollback dep.id (.breached dep.failureRate dep.rollbackThreshold)) := by
  have hrest := (executeRollback_rollbackOps dep.id
    (.breached dep.failureRate dep.rollbackThreshold)).mono (fun _ _ h => h)
      fun _ h => h.recordless id
  rw [executeRollback, getDeployment_bind] at hrest ⊢
  have hnext : ∀ r : Option Deployment,
      (Testing.found dep).next id (.sql (.getDeployment dep.id .handler)) r = .tested true := by
    intro r
    simp [Testing.next, Testing.beginsRollback, hid, hbreached]
  have hend : ∀ (l' : Ledger) (r : Option Deployment), l'.record = l.record →
      Obeys (failingDiscipline id)
        (fun g' _ => g'.ledger.record = l.record ∧ g'.testing.passed = true)
        ⟨l', faults.tail, (Testing.found dep).next id (.sql (.getDeployment dep.id .handler)) r⟩ _ :=
    fun l' r hl' => (recordless_obeys (hrest.2 r trivial) _).mono fun g' _ hg' =>
      ⟨hg'.1.trans hl', by rw [hg'.2 true (hnext r)]; rfl⟩
  apply failing_call (by simp)
  · intro _ r _
    exact hend _ r rfl
  · intro _ r _
    exact hend _ r (hrest.1.keeps l)

/-- The threshold test writes no record, and is made if its read succeeds. -/
theorem evaluateFailure_failing (hid : activeDD.deploymentID = id) :
    Obeys (failingDiscipline id)
      (fun g' _ => g'.ledger.record = l.record ∧ (g'.testing.passed = true ↔ fails faults 0 = false))
      ⟨l, faults, .counted⟩ (evaluateFailure activeDD) := by
  rw [evaluateFailure, getDeployment_bind]
  apply failing_call (by simp)
  · intro hread r hr
    obtain rfl : r = (none : Option Deployment) := hr
    have hread : fails faults 0 = true := hread
    show l.record = l.record ∧ ((if activeDD.deploymentID = id then Testing.waiting
      else .waiting).passed = true ↔ fails faults 0 = false)
    simp [Testing.passed, hread]
  · intro hread r hr
    obtain ⟨dep, rfl, -⟩ := hr.2 hid
    have hread : fails faults 0 = false := hread
    have hdep : dep.id = id := (hr.1 dep rfl).trans hid
    show Obeys (failingDiscipline id) _
      ⟨l, faults.tail, if activeDD.deploymentID = id then .found dep else .waiting⟩ _
    rw [if_pos hid]
    dsimp only
    split
    · rename_i hbreached
      exact (executeRollback_failing hdep hbreached).mono fun g' _ hg' =>
        ⟨hg'.1, by simp [hg'.2, hread]⟩
    · rename_i hholds
      split
      · -- The next statement is no rollback.
        rw [query_bind]
        have hpassed : ∀ r : Option Deployment, ((Testing.found dep).next id
            (.sql (.updateDeploymentStatus activeDD.deploymentID .completed)) r).passed = true := by
          intro r
          simp [Testing.next, Testing.beginsRollback, Testing.passed, hholds]
        have hkeep := (updateDeploymentStatus_recordless id activeDD.deploymentID .completed).keeps
        apply failing_call (by simp)
        · intro _ r _
          exact ⟨rfl, iff_of_true (hpassed r) hread⟩
        · intro _ r _
          exact ⟨hkeep l, iff_of_true (hpassed r) hread⟩
      · exact ⟨rfl, by simp [Testing.passed, hholds, hread]⟩

variable (l faults) in
/-- An error report for a row that is not terminal fails the rows of its robot, counts a
failure and makes the threshold test, as far as no statement fails. -/
theorem errorOnRow_failing (event : DeviceErrorEvent) (hid : activeDD.deploymentID = id)
    (hrow : activeDD ∈ l.rows) (hdevice : activeDD.deviceID = event.deviceID)
    (hopen : ¬ (activeDD.status = "success" ∨ activeDD.status = "failed")) :
    Obeys (failingDiscipline id)
      (fun g' _ => g'.ledger.record =
          (if fails faults 0 = true then l
            else (l.setRow (event.params activeDD)).count 0
              (if fails faults 1 = true then 0 else 1)).record ∧
        (g'.testing.passed = true ↔ fails faults 0 = false ∧ fails faults 2 = false))
      ⟨l, faults, .waiting⟩ (errorOnRow event activeDD) := by
  rw [errorOnRow, if_neg hopen, query_bind]
  apply failing_call (by simp)
  · intro hupdate r hr
    have hupdate : fails faults 0 = true := hupdate
    obtain rfl : r = (none : Option DeploymentDevice) := hr
    simp [hupdate, Testing.next, Testing.passed]
  · intro hupdate r hr
    have hupdate : fails faults 0 = false := hupdate
    have hsel : (event.params activeDD).selects activeDD = true := by
      simp [UpdateDeploymentDeviceStatusParams.selects, DeviceErrorEvent.params, hdevice]
    obtain ⟨updated, rfl⟩ := hr ⟨activeDD, hrow, hsel⟩
    have hset : l.after id (.sql (.updateDeploymentDeviceStatus
        ⟨activeDD.deploymentID, event.deviceID, "failed", activeDD.progress, some event.error⟩)) =
          l.setRow (event.params activeDD) := if_pos hid
    rw [hset]
    have htwice : fails faults.tail.tail 0 = fails faults 2 := by
      rw [fails_tail, fails_tail]
    dsimp only
    rw [query_bind]
    apply failing_call (by simp)
    · intro hincrement r _
      have hfault : fails faults 1 = true := by rw [← fails_tail]; exact hincrement
      show Obeys (failingDiscipline id) _
        ⟨l.setRow (event.params activeDD), faults.tail.tail,
          if activeDD.deploymentID = id then .counted else .waiting⟩ _
      rw [if_pos hid]
      apply (evaluateFailure_failing hid).mono
      intro g' _ hg'
      rw [if_neg (by simp [hupdate]), if_pos hfault, ← htwice, hg'.2]
      exact ⟨hg'.1, by simp [hupdate]⟩
    · intro hincrement r _
      have hfault : fails faults 1 = false := by rw [← fails_tail]; exact hincrement
      show Obeys (failingDiscipline id) _
        ⟨(l.setRow (event.params activeDD)).after id
            (.sql (.incrementDeploymentFailure activeDD.deploymentID)), faults.tail.tail,
          if activeDD.deploymentID = id then .counted else .waiting⟩ _
      rw [if_pos hid]
      apply (evaluateFailure_failing hid).mono
      intro g' _ hg'
      rw [if_neg (by simp [hupdate]), if_neg (by simp [hfault]), ← htwice, hg'.2]
      refine ⟨hg'.1.trans ?_, by simp [hupdate]⟩
      simp only [Ledger.after, hid, if_true]
      rfl

end

/-! ## Whole calls -/

/-- The return of the callback changes nothing. -/
theorem callback_failing {id : DeploymentID} {post : Ledger → Bool → Prop} {g : Watch}
    {handler : Rollout Outcome}
    (hp : Obeys (failingDiscipline id) (fun g _ => post g.ledger g.testing.passed) g handler) :
    Obeys (failingDiscipline id) (fun g _ => post g.ledger g.testing.passed) g
      (ControlPlane.callback handler) := by
  apply hp.bind
  intro g' outcome hg'
  rw [← Testing.passed_callbackReturn id] at hg'
  exact failing_call (by simp) (fun _ _ _ => hg') fun _ _ _ => hg'

section

variable {id : DeploymentID} {db : Db} {l : Ledger} {faults : List Bool}

/-- The row a report finds, if its lookup does not fail. -/
def lookupFailing (db : Db) (deviceID : DeviceID) (faults : List Bool) :
    Option DeploymentDevice :=
  if fails faults 0 = true then none else db.activeRow deviceID

/-- A report is handled on the row its lookup finds. -/
theorem runFailing_lookup (call : Call) (post : Ledger → Bool → Prop) {deviceID : DeviceID}
    {k : Option DeploymentDevice → Rollout Outcome}
    (hbody : ControlPlane.body call =
      ControlPlane.callback (.call (.sql (.getActiveDeploymentDeviceByDevice deviceID)) k))
    (hl : db.ledger id = some l)
    (hk : Obeys (failingDiscipline id) (fun g _ => post g.ledger g.testing.passed)
      ⟨l, faults.tail, .waiting⟩ (k (lookupFailing db deviceID faults))) :
    ∃ g, Watched id (runFailing db call faults) g ∧ post g.ledger g.testing.passed := by
  have hrun : ∃ log, Testing.after id log = .waiting ∧
      runFailing db call faults =
        ((ControlPlane.callback (k (lookupFailing db deviceID faults))).run (logged execFailing)
          ((db, faults.tail), log)).2 := by
    rw [runFailing, hbody]
    refine ⟨[⟨.sql (.getActiveDeploymentDeviceByDevice deviceID),
      lookupFailing db deviceID faults⟩], rfl, ?_⟩
    cases faults with
    | nil => rfl
    | cons fault faults => cases fault <;> rfl
  obtain ⟨log, hlog, hrun⟩ := hrun
  have hstart : Watched id ((db, faults.tail), log) ⟨l, faults.tail, .waiting⟩ :=
    ⟨hl, rfl, hlog.symm⟩
  obtain ⟨g, hg, hend⟩ := run_watched (callback_failing hk) hstart
  rw [hrun]
  exact ⟨g, hg, hend⟩

/-- The row of deployment {lit}`id` in which the report is recorded: the lookup finds it, and
the update does not fail. -/
def recordedRow (id : DeploymentID) (db : Db) (deviceID : DeviceID) (faults : List Bool) :
    Option DeploymentDevice :=
  if fails faults 0 = true ∨ fails faults 1 = true then none else db.activeRowOf id deviceID

/-- A report on another deployment records no row here. -/
theorem recordedRow_of_ne {deviceID : DeviceID} {row : DeploymentDevice}
    (hrow : db.activeRow deviceID = some row) (hne : row.deploymentID ≠ id) :
    recordedRow id db deviceID faults = none := by
  simp [recordedRow, Db.activeRowOf, hrow, Option.filter_some, hne]

/-- A report on this deployment records its row unless the statement fails. -/
theorem recordedRow_of_eq {deviceID : DeviceID} {row : DeploymentDevice}
    (hrow : db.activeRow deviceID = some row) (hid : row.deploymentID = id)
    (hlookup : fails faults 0 = false) :
    recordedRow id db deviceID faults = if fails faults 1 = true then none else some row := by
  simp [recordedRow, Db.activeRowOf, hrow, Option.filter_some, hid, hlookup]

/-- What the lookup of a report finds, seen from one deployment. -/
theorem lookupFailing_cases (hl : db.ledger id = some l) (deviceID : DeviceID) :
    (lookupFailing db deviceID faults = none ∧ recordedRow id db deviceID faults = none) ∨
      ∃ row, lookupFailing db deviceID faults = some row ∧
        ((row.deploymentID ≠ id ∧ recordedRow id db deviceID faults = none) ∨
          (row.deploymentID = id ∧ row ∈ l.rows ∧ row.deviceID = deviceID ∧
            recordedRow id db deviceID faults =
              if fails faults 1 = true then none else some row)) := by
  cases hlookup : fails faults 0 with
  | true =>
      left
      simp [lookupFailing, recordedRow, hlookup]
  | false =>
      cases hrow : db.activeRow deviceID with
      | none =>
          left
          simp [lookupFailing, recordedRow, Db.activeRowOf, hlookup, hrow]
      | some row =>
          right
          refine ⟨row, by simp [lookupFailing, hlookup, hrow], ?_⟩
          by_cases hid : row.deploymentID = id
          · right
            obtain ⟨hmem, hactive⟩ := Db.activeRow_spec hrow
            refine ⟨hid, ?_, ((db.isActive_iff _ _).mp hactive).1, recordedRow_of_eq hrow hid hlookup⟩
            rw [Db.rows_of_ledger hl]
            exact Db.mem_rowsOf.mpr ⟨hmem, hid⟩
          · left
            exact ⟨hid, recordedRow_of_ne hrow hid⟩

/-- The successes a progress report counts. -/
def progressCredit (l : Ledger) (event : DeviceProgressEvent) (faults : List Bool) : Nat :=
  if event.status = "success" ∧ event.progress = 100 then credited l (faults.drop 2) else 0

variable (faults) in
/-- What a progress report leaves behind. -/
theorem runFailing_progress (event : DeviceProgressEvent) (hl : db.ledger id = some l) :
    ∃ g, Watched id (runFailing db (.progress event) faults) g ∧
      g.ledger.record =
        (match recordedRow id db event.deviceID faults with
          | none => l
          | some _ => (l.setRow (event.params id)).count (progressCredit l event faults) 0).record := by
  refine runFailing_lookup (.progress event) (fun l' _ => l'.record =
    (match recordedRow id db event.deviceID faults with
      | none => l
      | some _ =>
          (l.setRow (event.params id)).count (progressCredit l event faults) 0).record) rfl hl ?_
  rcases lookupFailing_cases hl event.deviceID with
    ⟨hnone, hrecorded⟩ | ⟨row, hsome, ⟨hne, hrecorded⟩ | ⟨hid, hmem, hdevice, hrecorded⟩⟩
  · rw [hnone, hrecorded]
    rfl
  · rw [hsome, hrecorded]
    exact recordless_records (progressOnRow_recordless event hne) rfl
  · rw [hsome, hrecorded]
    have hrow := progressOnRow_failing l faults.tail .waiting event hid hmem
      hdevice
    rw [fails_tail] at hrow
    split at hrow
    · rename_i hupdate
      rw [if_pos hupdate]
      exact hrow
    · rename_i hupdate
      have hdrop : faults.tail.tail = faults.drop 2 := by
        rw [← List.drop_one, ← List.drop_one, List.drop_drop]
      rw [if_neg hupdate]
      rw [hdrop] at hrow
      exact hrow

/-- The row of an error report that is counted: it is recorded, and was not terminal. -/
def countedRow (id : DeploymentID) (db : Db) (deviceID : DeviceID) (faults : List Bool) :
    Option DeploymentDevice :=
  (recordedRow id db deviceID faults).filter fun row =>
    ¬ (row.status = "success" ∨ row.status = "failed")

variable (faults) in
/-- What an error report leaves behind, and whether the threshold test is made. -/
theorem runFailing_error (event : DeviceErrorEvent) (hl : db.ledger id = some l) :
    ∃ g, Watched id (runFailing db (.error event) faults) g ∧
      (match countedRow id db event.deviceID faults with
        | none => g.ledger.record = l.record
        | some row =>
            g.ledger.record = ((l.setRow (event.params row)).count 0
              (if fails faults 2 = true then 0 else 1)).record ∧
            (g.testing.passed = true ↔ fails faults 3 = false)) := by
  refine runFailing_lookup (.error event) (fun l' passed =>
    match countedRow id db event.deviceID faults with
      | none => l'.record = l.record
      | some row =>
          l'.record = ((l.setRow (event.params row)).count 0
            (if fails faults 2 = true then 0 else 1)).record ∧
          (passed = true ↔ fails faults 3 = false)) rfl hl ?_
  rcases lookupFailing_cases hl event.deviceID with
    ⟨hnone, hrecorded⟩ | ⟨row, hsome, ⟨hne, hrecorded⟩ | ⟨hid, hmem, hdevice, hrecorded⟩⟩
  · rw [hnone, countedRow, hrecorded]
    rfl
  · rw [hsome, countedRow, hrecorded]
    exact recordless_records (errorOnRow_recordless event hne) rfl
  · rw [hsome, countedRow, hrecorded]
    by_cases hterminal : row.status = "success" ∨ row.status = "failed"
    · have hcounted : (if fails faults 1 = true then none else some row).filter
          (fun row : DeploymentDevice =>
            decide ¬ (row.status = "success" ∨ row.status = "failed")) = none := by
        split
        · rfl
        · simp only [Option.filter_some, hterminal, not_true_eq_false, decide_false,
            Bool.false_eq_true, if_false]
      rw [hcounted]
      have hdone : errorOnRow event row = .done (.ok ()) := by
        rw [errorOnRow, if_pos hterminal]
        rfl
      show Obeys _ _ _ (errorOnRow event row)
      rw [hdone]
      rfl
    · have hrow := errorOnRow_failing l faults.tail event hid hmem hdevice
        hterminal
      rw [fails_tail, fails_tail, fails_tail] at hrow
      by_cases hupdate : fails faults 1 = true
      · simp only [if_pos hupdate] at hrow ⊢
        exact hrow.mono fun _ _ h => h.1
      · have hupdate' : fails faults 1 = false := Bool.eq_false_iff.mpr hupdate
        have hcounted : (some row).filter (fun row : DeploymentDevice =>
            decide ¬ (row.status = "success" ∨ row.status = "failed")) = some row := by
          simp only [Option.filter_some, hterminal, not_false_eq_true, decide_true, if_true]
        simp only [if_neg hupdate, hcounted]
        apply hrow.mono
        intro g _ hg
        rw [if_neg hupdate] at hg
        exact ⟨hg.1, by rw [hg.2]; simp [hupdate']⟩

end

/-! ## Redelivery -/

/-- The operation counts no failure of deployment {lit}`id`. -/
structure Uncounted (id : DeploymentID) (op : Op) : Prop where
  noInsert : ∀ p, op ≠ .sql (.createDeploymentDevice p)
  noCount : op ≠ .sql (.incrementDeploymentFailure id)

/-- The threshold test counts no failure. -/
theorem evaluateFailure_uncounted (id : DeploymentID) (activeDD : DeploymentDevice) :
    Always AnyAnswer (Uncounted id) (evaluateFailure activeDD) := by
  rw [evaluateFailure, getDeployment_bind]
  refine ⟨⟨by simp, by simp⟩, fun (r : Option Deployment) _ => ?_⟩
  cases r with
  | none => trivial
  | some dep =>
      dsimp only
      split
      · apply (executeRollback_rollbackOps _ _).mono (fun _ _ h => h)
        intro op hop
        cases hop <;> exact ⟨by simp, by simp⟩
      · split
        · exact ⟨⟨by simp, by simp⟩, fun _ _ => trivial⟩
        · trivial

/-- An error report counts a failure of the deployment of its row only. -/
theorem errorOnRow_uncounted {id : DeploymentID} {activeDD : DeploymentDevice}
    (hne : activeDD.deploymentID ≠ id) (event : DeviceErrorEvent) :
    Always AnyAnswer (Uncounted id) (errorOnRow event activeDD) := by
  unfold errorOnRow
  split
  · trivial
  · rw [query_bind]
    refine ⟨⟨by simp, by simp⟩, fun (r : Option DeploymentDevice) _ => ?_⟩
    cases r with
    | none => trivial
    | some row =>
        dsimp only
        rw [query_bind]
        exact ⟨⟨by simp, by simpa using hne⟩, fun _ _ => evaluateFailure_uncounted id activeDD⟩

/-- A program that counts no failure makes no threshold test. -/
theorem uncounted_obeys {id : DeploymentID} {α : Type} {p : Rollout α}
    (hp : Always AnyAnswer (Uncounted id) p) {g : Watch} (hg : g.testing = .waiting) :
    Obeys (failingDiscipline id) (fun g' _ => g'.testing = .waiting) g p := by
  apply hp.obeys (G := fun g' : Watch => g'.testing = .waiting) (fun _ _ _ _ => trivial)
  · intro g' op _ hop
    exact hop.noInsert
  · intro g' op r hg' hop
    simp only [failingDiscipline]
    rw [hg']
    cases op with
    | sql q =>
        cases q with
        | incrementDeploymentFailure i =>
            have hne : i ≠ id := by
              rintro rfl
              exact hop.noCount rfl
            simp [Testing.next, hne]
        | _ => rfl
    | _ => rfl
  · exact hg

/-- An error report that finds every row of its robot failed makes no threshold test. -/
theorem runFailing_redelivered {id : DeploymentID} {db : Db} {l : Ledger} {faults : List Bool}
    (event : DeviceErrorEvent) (hl : db.ledger id = some l)
    (hfailed : ∀ row ∈ l.rows, row.deviceID = event.deviceID → row.status = "failed") :
    (Testing.after id (runFailing db (.error event) faults).2).passed = false := by
  have hend : ∃ g, Watched id (runFailing db (.error event) faults) g ∧
      g.testing.passed = false := by
    refine runFailing_lookup (.error event) (fun _ passed => passed = false) rfl hl ?_
    rcases lookupFailing_cases hl event.deviceID with
      ⟨hnone, -⟩ | ⟨row, hsome, ⟨hne, -⟩ | ⟨-, hmem, hdevice, -⟩⟩
    · rw [hnone]
      rfl
    · rw [hsome]
      apply (uncounted_obeys (errorOnRow_uncounted hne event) rfl).mono
      intro g' _ hg'
      rw [hg']
      rfl
    · rw [hsome]
      have hdone : errorOnRow event row = .done (.ok ()) := by
        rw [errorOnRow, if_pos (Or.inr (hfailed row hmem hdevice))]
        rfl
      show Obeys _ _ _ (errorOnRow event row)
      rw [hdone]
      rfl
  obtain ⟨g, hg, hpassed⟩ := hend
  rw [← hg.testing, hpassed]

/-! ## One call -/

/-- The failure has been counted, the deployment has been read after that, and the rollback has
been begun exactly if the deployment was running and had reached its threshold. -/
def testsThreshold (id : DeploymentID) (log : List (Answered Op.Ret)) : Bool :=
  (Testing.after id log).passed

/-- After the call rows and counters agree, and a failure that has been recorded while the
deployment was running has been tested against the threshold, or is when the same report
is delivered again. -/
def ReportAtomic (id : DeploymentID) (db : Db) (call : Call) (faults : List Bool) : Prop :=
  AccountKept id (runFailing db call faults).1.1 ∧
    ∀ l l', db.ledger id = some l → (runFailing db call faults).1.1.ledger id = some l' →
      l.status = .running → ∀ deviceID,
        l.robotRows deviceID (fun row => row.status = "failed") <
            l'.robotRows deviceID (fun row => row.status = "failed") →
          testsThreshold id (runFailing db call faults).2 = true ∨
            testsThreshold id (runFailing (runFailing db call faults).1.1 call []).2 = true

/-- The robot's rows that become {lit}`'success'` are counted, and none of them ceases to be
{lit}`'success'`, becomes {lit}`'failed'` or ceases to be {lit}`'failed'`. -/
def ProgressCounted (l : Ledger) (event : DeviceProgressEvent) (faults : List Bool) : Prop :=
  if event.status = "success" then
    l.robotRows event.deviceID (fun row => row.status = "failed") = 0 ∧
      l.robotRows event.deviceID (fun row => row.status ≠ "success") =
        progressCredit l event faults
  else if event.status = "failed" then
    l.robotRows event.deviceID (fun row => row.status ≠ "failed") = 0
  else
    l.robotRows event.deviceID (fun row => row.status = "success") = 0 ∧
      l.robotRows event.deviceID (fun row => row.status = "failed") = 0

/-- The robot has one row that is not failed yet, the increment does not fail, and while the
deployment is running neither does the read that follows. -/
structure ErrorCounted (l : Ledger) (event : DeviceErrorEvent) (faults : List Bool) : Prop where
  row : l.robotRows event.deviceID (fun row => row.status ≠ "failed") = 1
  increment : fails faults 2 = false
  read : l.status = .running → fails faults 3 = false

/-- The condition on a report, if it is recorded in a row of the deployment. -/
def FullyRecorded (id : DeploymentID) (db : Db) (faults : List Bool) (l : Ledger) : Call → Prop
  | .progress event =>
      recordedRow id db event.deviceID faults ≠ none → ProgressCounted l event faults
  | .error event => countedRow id db event.deviceID faults ≠ none → ErrorCounted l event faults
  | _ => True

/-- The rows of a robot, by two opposite tests. -/
theorem Ledger.robotRows_add (l : Ledger) (deviceID : DeviceID) (status : String) :
    l.robotRows deviceID (fun row => row.status = status) +
        l.robotRows deviceID (fun row => row.status ≠ status) =
      l.robotRows deviceID fun _ => true := by
  have hsplit := List.countP_eq_countP_filter_add l.rows
    (fun row => decide (row.deviceID = deviceID) && true) (fun row => decide (row.status = status))
  rw [List.countP_filter, List.countP_filter] at hsplit
  unfold robotRows
  rw [hsplit]
  congr 1
  · apply List.countP_congr
    intro row _
    simp
  · apply List.countP_congr
    intro row _
    simp

/-- Rows with one status do not have another. -/
theorem Ledger.robotRows_disjoint (l : Ledger) (deviceID : DeviceID) {status status' : String}
    (hne : status ≠ status') :
    l.robotRows deviceID (fun row => row.status = status) ≤
      l.robotRows deviceID fun row => row.status ≠ status' := by
  apply List.countP_mono_left
  intro row _ hrow
  simp only [Bool.and_eq_true, decide_eq_true_eq] at hrow ⊢
  exact ⟨hrow.1, by rw [hrow.2]; exact hne⟩

/-- Whether the account is kept depends on the record only. -/
theorem AccountKept.iff_of_record {id : DeploymentID} {db : Db} {l l' : Ledger}
    (hl : db.ledger id = some l) (hrecord : l.record = l'.record) :
    AccountKept id db ↔ l'.Accounted := by
  have hsame : l.Accounted ↔ l'.Accounted := by
    simp only [Ledger.record, Prod.mk.injEq] at hrecord
    rw [Ledger.accounted_iff, Ledger.accounted_iff, hrecord.1, hrecord.2.1, hrecord.2.2]
  rw [← hsame]
  constructor
  · intro hkept
    exact hkept l hl
  · intro haccounted l'' hl''
    rw [hl] at hl''
    exact Option.some.inj hl'' ▸ haccounted

section

variable {id : DeploymentID} {db : Db} {l : Ledger} {faults : List Bool}

/-- A report without success is no credit. -/
theorem progressCredit_of_ne {event : DeviceProgressEvent} (h : event.status ≠ "success") :
    progressCredit l event faults = 0 := by
  simp [progressCredit, h]

/-- A recorded progress report keeps the account exactly when what it wins is counted. -/
theorem accounted_progress (hl : l.Accounted) (hrows : ∀ row ∈ l.rows, row.deploymentID = id)
    (event : DeviceProgressEvent) :
    ((l.setRow (event.params id)).count (progressCredit l event faults) 0).Accounted ↔
      ProgressCounted l event faults := by
  have hstatus : (event.params id).status = event.status := rfl
  rw [Ledger.accounted_count_setRow hl hrows rfl,
    show (event.params id).deviceID = event.deviceID from rfl]
  have hsuccess := l.robotRows_add event.deviceID "success"
  have hfailed := l.robotRows_add event.deviceID "failed"
  have hdisjoint := l.robotRows_disjoint event.deviceID (show "success" ≠ "failed" by decide)
  unfold ProgressCounted
  by_cases hs : event.status = "success"
  · have hf : event.status ≠ "failed" := by rw [hs]; decide
    rw [if_pos hs, if_pos (hstatus.trans hs), if_neg (hstatus ▸ hf)]
    omega
  · rw [if_neg hs, if_neg (hstatus ▸ hs), progressCredit_of_ne hs]
    by_cases hf : event.status = "failed"
    · rw [if_pos hf, if_pos (hstatus.trans hf)]
      omega
    · rw [if_neg hf, if_neg (hstatus ▸ hf)]
      omega

/-- The failed rows of a robot after its rows have been updated. -/
theorem failedRows_setRow (hrows : ∀ row ∈ l.rows, row.deploymentID = id)
    {p : UpdateDeploymentDeviceStatusParams} (hp : p.deploymentID = id) (deviceID : DeviceID) :
    (l.setRow p).robotRows deviceID (fun row => row.status = "failed") =
      if deviceID = p.deviceID then
        (if p.status = "failed" then l.robotRows deviceID (fun _ => true) else 0)
      else l.robotRows deviceID fun row => row.status = "failed" := by
  have hmap : (l.setRow p).robotRows deviceID (fun row => row.status = "failed") =
      l.rows.countP fun row => row.deviceID = deviceID &&
        ((if p.selects row then p.set row else row).status = "failed" : Bool) := by
    unfold Ledger.robotRows Ledger.setRow
    rw [List.countP_map]
    apply List.countP_congr
    intro row _
    by_cases hsel : p.selects row = true
    · simp [hsel, UpdateDeploymentDeviceStatusParams.set]
    · simp [hsel]
  rw [hmap]
  by_cases hdevice : deviceID = p.deviceID
  · subst hdevice
    rw [if_pos rfl]
    by_cases hstatus : p.status = "failed"
    · rw [if_pos hstatus]
      apply List.countP_congr
      intro row hrow
      by_cases hd : row.deviceID = p.deviceID
      · have hsel : p.selects row = true := by
          simp [UpdateDeploymentDeviceStatusParams.selects, hd, hrows row hrow, hp]
        simp [hd, hsel, UpdateDeploymentDeviceStatusParams.set, hstatus]
      · simp [hd]
    · rw [if_neg hstatus, List.countP_eq_zero]
      intro row hrow
      by_cases hd : row.deviceID = p.deviceID
      · have hsel : p.selects row = true := by
          simp [UpdateDeploymentDeviceStatusParams.selects, hd, hrows row hrow, hp]
        simp [hd, hsel, UpdateDeploymentDeviceStatusParams.set, hstatus]
      · simp [hd]
  · rw [if_neg hdevice]
    apply List.countP_congr
    intro row _
    by_cases hd : row.deviceID = deviceID
    · have hsel : p.selects row = false := by
        simp [UpdateDeploymentDeviceStatusParams.selects, hd, hdevice]
      simp [hd, hsel]
    · simp [hd]

/-- A row that is neither {lit}`'success'` nor {lit}`'failed'` is not one of the successes. -/
theorem Ledger.robotRows_open {row : DeploymentDevice} (hrow : row ∈ l.rows)
    (hopen : ¬ (row.status = "success" ∨ row.status = "failed")) :
    l.robotRows row.deviceID (fun row => row.status = "success") + 1 ≤
      l.robotRows row.deviceID fun row => row.status ≠ "failed" := by
  have hsplit := List.countP_eq_countP_filter_add l.rows
    (fun r => decide (r.deviceID = row.deviceID) && decide (r.status ≠ "failed"))
    (fun r => decide (r.status = "success"))
  rw [List.countP_filter, List.countP_filter] at hsplit
  have hsuccess : (l.robotRows row.deviceID fun row => row.status = "success") =
      l.rows.countP fun r => (decide (r.deviceID = row.deviceID) && decide (r.status ≠ "failed")) &&
        decide (r.status = "success") := by
    apply List.countP_congr
    intro r _
    by_cases hr : r.status = "success" <;> simp [hr]
  have hpos : 0 < l.rows.countP fun r =>
      (decide (r.deviceID = row.deviceID) && decide (r.status ≠ "failed")) &&
        !decide (r.status = "success") := by
    rw [List.countP_pos_iff]
    refine ⟨row, hrow, ?_⟩
    rw [not_or] at hopen
    simp [hopen]
  unfold Ledger.robotRows at hsuccess ⊢
  dsimp only at hsplit hsuccess ⊢
  omega

/-- A counted error report keeps the account exactly when it fails one row and counts it. -/
theorem accounted_error (hl : l.Accounted) (hrows : ∀ row ∈ l.rows, row.deploymentID = id)
    {row : DeploymentDevice} (hrow : row ∈ l.rows) {event : DeviceErrorEvent}
    (hdevice : row.deviceID = event.deviceID)
    (hopen : ¬ (row.status = "success" ∨ row.status = "failed")) (b : Nat) (hb : b ≤ 1) :
    ((l.setRow (event.params row)).count 0 b).Accounted ↔
      l.robotRows event.deviceID (fun row => row.status ≠ "failed") = 1 ∧ b = 1 := by
  have hstatus : (event.params row).status = "failed" := rfl
  rw [Ledger.accounted_count_setRow hl hrows (hrows row hrow),
    show (event.params row).deviceID = event.deviceID from rfl, if_pos hstatus,
    if_neg (by rw [hstatus]; decide)]
  have hfailed := l.robotRows_add event.deviceID "failed"
  have hpos := Ledger.robotRows_open hrow hopen
  rw [hdevice] at hpos
  omega

/-- A row that is counted is the active one of the robot. -/
theorem countedRow_spec {deviceID : DeviceID} {row : DeploymentDevice}
    (hl : db.ledger id = some l) (h : countedRow id db deviceID faults = some row) :
    row ∈ l.rows ∧ row.deviceID = deviceID ∧
      ¬ (row.status = "success" ∨ row.status = "failed") := by
  rw [countedRow, Option.filter_eq_some_iff] at h
  obtain ⟨hrecorded, hopen⟩ := h
  rw [recordedRow] at hrecorded
  split at hrecorded
  · cases hrecorded
  · obtain ⟨hmem, -, hdevice, -⟩ := Db.activeRowOf_ledger hl hrecorded
    exact ⟨hmem, hdevice, by simpa using hopen⟩

/-- The rows of a robot are part of the record. -/
theorem Ledger.robotRows_congr {l' : Ledger} (h : l'.record = l.record) (deviceID : DeviceID)
    (q : DeploymentDevice → Bool) : l'.robotRows deviceID q = l.robotRows deviceID q := by
  have hrows : l'.rows = l.rows := congrArg Prod.fst h
  rw [robotRows, robotRows, hrows]

/-- One progress report. -/
theorem progress_atomic (event : DeviceProgressEvent) (hl : db.ledger id = some l)
    (haccounted : l.Accounted) :
    ReportAtomic id db (.progress event) faults ↔
      FullyRecorded id db faults l (.progress event) := by
  have hrows : ∀ row ∈ l.rows, row.deploymentID = id := by
    intro row hrow
    rw [Db.rows_of_ledger hl] at hrow
    exact (Db.mem_rowsOf.mp hrow).2
  obtain ⟨g, hg, hrecord⟩ := runFailing_progress faults event hl
  rw [ReportAtomic, AccountKept.iff_of_record hg.ledger hrecord, FullyRecorded]
  cases hrow : recordedRow id db event.deviceID faults with
  | none =>
      simp only [hrow] at hrecord
      simp only [ne_eq, not_true_eq_false, false_implies, iff_true]
      refine ⟨haccounted, ?_⟩
      intro l₀ l' hl₀ hl' _ deviceID hmore
      obtain rfl : l = l₀ := by simpa [hl] using hl₀
      obtain rfl : g.ledger = l' := by simpa [hg.ledger] using hl'
      rw [Ledger.robotRows_congr hrecord] at hmore
      exact absurd hmore (Nat.lt_irrefl _)
  | some row =>
      simp only [hrow] at hrecord
      rw [accounted_progress haccounted hrows event]
      simp only [ne_eq, reduceCtorEq, not_false_eq_true, forall_const, and_iff_left_iff_imp]
      intro hcounted l₀ l' hl₀ hl' _ deviceID hmore
      obtain rfl : l = l₀ := by simpa [hl] using hl₀
      obtain rfl : g.ledger = l' := by simpa [hg.ledger] using hl'
      have hset : ((l.setRow (event.params id)).count (progressCredit l event faults) 0).robotRows
          deviceID (fun row => row.status = "failed") =
            (l.setRow (event.params id)).robotRows deviceID fun row => row.status = "failed" := rfl
      rw [Ledger.robotRows_congr hrecord, hset, failedRows_setRow hrows rfl] at hmore
      have hadd := l.robotRows_add deviceID "failed"
      unfold ProgressCounted at hcounted
      have hdeviceID : (event.params id).deviceID = event.deviceID := rfl
      have hstatus : (event.params id).status = event.status := rfl
      rw [hdeviceID, hstatus] at hmore
      split at hmore
      · rename_i hdevice
        rw [hdevice] at hmore hadd
        split at hmore
        · rename_i hf
          have hs : event.status ≠ "success" := by rw [hf]; decide
          rw [if_neg hs, if_pos hf] at hcounted
          omega
        · exact absurd hmore (Nat.not_lt_zero _)
      · exact absurd hmore (Nat.lt_irrefl _)

/-- Once an error has been recorded, all rows of its robot are failed. -/
theorem failed_of_mem_setRow {event : DeviceErrorEvent} {row : DeploymentDevice}
    (hrows : ∀ row ∈ l.rows, row.deploymentID = id) (hid : row.deploymentID = id) :
    ∀ r ∈ (l.setRow (event.params row)).rows, r.deviceID = event.deviceID →
      r.status = "failed" := by
  intro r hr hdevice
  obtain ⟨r₀, hr₀, rfl⟩ := List.mem_map.mp hr
  by_cases hselected : (event.params row).selects r₀ = true
  · rw [if_pos hselected]
    rfl
  · rw [if_neg hselected] at hdevice
    simp [UpdateDeploymentDeviceStatusParams.selects, DeviceErrorEvent.params, hdevice,
      hrows r₀ hr₀, hid] at hselected

/-- One error report. -/
theorem error_atomic (event : DeviceErrorEvent) (hl : db.ledger id = some l)
    (haccounted : l.Accounted) :
    ReportAtomic id db (.error event) faults ↔ FullyRecorded id db faults l (.error event) := by
  have hrows : ∀ row ∈ l.rows, row.deploymentID = id := by
    intro row hrow
    rw [Db.rows_of_ledger hl] at hrow
    exact (Db.mem_rowsOf.mp hrow).2
  obtain ⟨g, hg, hend⟩ := runFailing_error faults event hl
  rw [ReportAtomic, FullyRecorded]
  cases hrow : countedRow id db event.deviceID faults with
  | none =>
      simp only [hrow] at hend
      rw [AccountKept.iff_of_record hg.ledger hend]
      simp only [ne_eq, not_true_eq_false, false_implies, iff_true]
      refine ⟨haccounted, ?_⟩
      intro l₀ l' hl₀ hl' _ deviceID hmore
      obtain rfl : l = l₀ := by simpa [hl] using hl₀
      obtain rfl : g.ledger = l' := by simpa [hg.ledger] using hl'
      rw [Ledger.robotRows_congr hend] at hmore
      exact absurd hmore (Nat.lt_irrefl _)
  | some row =>
      simp only [hrow] at hend
      obtain ⟨hrecord, hpassed⟩ := hend
      obtain ⟨hmem, hdevice, hopen⟩ := countedRow_spec hl hrow
      have hcount : (if fails faults 2 = true then 0 else 1) ≤ 1 := by split <;> omega
      rw [AccountKept.iff_of_record hg.ledger hrecord,
        accounted_error haccounted hrows hmem hdevice hopen _ hcount]
      rw [imp_iff_right (Option.some_ne_none row)]
      have hlog : testsThreshold id (runFailing db (.error event) faults).2 = g.testing.passed := by
        rw [testsThreshold, hg.testing]
      have hset : ∀ deviceID, g.ledger.robotRows deviceID (fun row => row.status = "failed") =
          if deviceID = event.deviceID then l.robotRows deviceID (fun _ => true)
          else l.robotRows deviceID fun row => row.status = "failed" := by
        intro deviceID
        rw [Ledger.robotRows_congr hrecord]
        exact failedRows_setRow hrows (hrows row hmem) deviceID
      constructor
      · rintro ⟨⟨hone, hincrement⟩, htested⟩
        refine ⟨hone, ?_, ?_⟩
        · cases hfault : fails faults 2 with
          | true => simp [hfault] at hincrement
          | false => rfl
        · intro hrunning
          have hmore : l.robotRows event.deviceID (fun row => row.status = "failed") <
              g.ledger.robotRows event.deviceID fun row => row.status = "failed" := by
            rw [hset, if_pos rfl]
            have hadd := l.robotRows_add event.deviceID "failed"
            omega
          rcases htested l g.ledger hl hg.ledger hrunning event.deviceID hmore with hnow | hlater
          · rw [hlog, hpassed] at hnow
            exact hnow
          · -- The redelivered report finds the row failed, and returns.
            have hall : ∀ row ∈ g.ledger.rows, row.deviceID = event.deviceID →
                row.status = "failed" := by
              rw [show g.ledger.rows = (l.setRow (event.params row)).rows from
                congrArg Prod.fst hrecord]
              exact failed_of_mem_setRow hrows (hrows row hmem)
            rw [testsThreshold, runFailing_redelivered event hg.ledger hall] at hlater
            cases hlater
      · intro hcounted
        refine ⟨⟨hcounted.row, by rw [hcounted.increment]; rfl⟩, ?_⟩
        intro l₀ l' hl₀ hl' hrunning deviceID hmore
        obtain rfl : l = l₀ := by simpa [hl] using hl₀
        left
        rw [hlog, hpassed]
        exact hcounted.read hrunning

/-- Exactly which failures of statements, and which reports, a report handler survives. -/
theorem report_atomic {call : Call} (hl : db.ledger id = some l) (haccounted : l.Accounted)
    (hreport : call.isReport = true) :
    ReportAtomic id db call faults ↔ FullyRecorded id db faults l call := by
  cases call with
  | progress event => exact progress_atomic event hl haccounted
  | error event => exact error_atomic event hl haccounted
  | _ => cases hreport

end

/-! ## Reports to a rollout to five robots -/

/-- A rollout to five robots that has just been created. -/
def fiveRobotsDb : Db :=
  rolloutDb (ControlPlane.rolloutRequest "full") ["r1", "r2", "r3", "r4", "r5"] (by decide)

/-- The account of the deployment with five robots. -/
theorem fiveRobotsDb_ledger :
    ∃ l, fiveRobotsDb.ledger 0 = some l ∧ l.Accounted ∧
      l.robotRows "r1" (fun row => row.status ≠ "failed") = 1 ∧ l.status = .running := by
  obtain ⟨l, hl⟩ := Option.isSome_iff_exists.mp
    (show (fiveRobotsDb.ledger 0).isSome = true by decide +kernel)
  have htests : (fiveRobotsDb.ledger 0).all (fun l =>
      l.robotRows "r1" (fun row => row.status ≠ "failed") = 1 && l.status = .running) = true := by
    decide +kernel
  rw [hl, Option.all_some, Bool.and_eq_true, decide_eq_true_eq, decide_eq_true_eq] at htests
  exact ⟨l, hl, (rolloutDb_fresh List.nodup_nil hl).accounted, htests⟩

/-- An error report whose rollback cannot list the rows is recorded and tested all the
same. -/
theorem report_atomic_late_failure :
    ReportAtomic 0 fiveRobotsDb (.error ⟨"r1", "checksum mismatch"⟩)
      [false, false, false, false, false, false, true] := by
  obtain ⟨l, hl, haccounted, hrow, -⟩ := fiveRobotsDb_ledger
  refine (report_atomic hl haccounted rfl).mpr ?_
  exact fun _ => ⟨hrow, rfl, fun _ => rfl⟩

/-- If the increment fails, a failed row is not counted; if the read after it fails, the
failure is counted, and never tested against the threshold. -/
theorem report_not_atomic :
    (∃ l, fiveRobotsDb.ledger 0 = some l ∧ l.Accounted) ∧
      ¬ ReportAtomic 0 fiveRobotsDb (.error ⟨"r1", "checksum mismatch"⟩) [false, false, true] ∧
      ¬ ReportAtomic 0 fiveRobotsDb (.error ⟨"r1", "checksum mismatch"⟩)
        [false, false, false, true] := by
  obtain ⟨l, hl, haccounted, -, hrunning⟩ := fiveRobotsDb_ledger
  have hcounted : ∀ faults, fails faults 0 = false → fails faults 1 = false →
      countedRow 0 fiveRobotsDb "r1" faults ≠ none := by
    intro faults hlookup hupdate
    rw [countedRow, recordedRow, if_neg (by simp [hlookup, hupdate])]
    decide +kernel
  refine ⟨⟨l, hl, haccounted⟩, ?_, ?_⟩
  · rw [error_atomic _ hl haccounted]
    intro hsafe
    have hincrement := (hsafe (hcounted [false, false, true] rfl rfl)).increment
    cases hincrement
  · rw [error_atomic _ hl haccounted]
    intro hsafe
    have hread := (hsafe (hcounted [false, false, false, true] rfl rfl)).read hrunning
    cases hread

end OtaRobot
