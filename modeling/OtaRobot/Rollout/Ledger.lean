import OtaRobot.Rollout.Operations

/-!
# The ledger of a deployment

What the manager decides on is a small part of the database: of the deployment its
status, size, threshold and counters, and its rows.  This part is the *ledger*.  The
report handlers act on it as the functions {lit}`Ledger.afterProgress` and
{lit}`Ledger.afterError` say; what other deployments or the canary goroutine do at the
same time does not matter.

Main results:

- Theorem {lit}`ledger_exec`: what one operation does to the ledger.
- Theorems {lit}`progressOnRow_ledger` and {lit}`errorOnRow_ledger`: the report
  handlers compute {lit}`Ledger.afterProgress` and {lit}`Ledger.afterError`.
- Theorems {lit}`rollbackHandler_ledger` and {lit}`getDeploymentHandler_ledger`: the
  HTTP handlers write the status column at most.
-/

namespace OtaRobot

open Prog

/-! ## Ledgers -/

/-- The columns of a deployment that are decided on, and its rows. -/
structure Ledger where
  status : DeploymentStatus
  totalDevices : Nat
  rollbackThreshold : ℚ
  successCount : Nat
  failureCount : Nat
  rows : List DeploymentDevice

/-- The ledger that a deployment row and its device rows show. -/
def Deployment.ledger (d : Deployment) (rows : List DeploymentDevice) : Ledger where
  status := d.status
  totalDevices := d.totalDevices
  rollbackThreshold := d.rollbackThreshold
  successCount := d.successCount
  failureCount := d.failureCount
  rows := rows

/-- The account of a deployment in the tables. -/
def Db.ledger (db : Db) (id : DeploymentID) : Option Ledger :=
  (db.deployment id).map fun d => d.ledger (db.rowsOf id)

namespace Ledger

/-- The row agrees with the ledger on all columns that are decided on. -/
def Shows (l : Ledger) (d : Deployment) : Prop :=
  d.ledger l.rows = l

/-- {lit}`UpdateDeploymentDeviceStatus` on the rows of the deployment. -/
def setRow (l : Ledger) (p : UpdateDeploymentDeviceStatusParams) : Ledger :=
  { l with rows := l.rows.map fun row => if p.selects row then p.set row else row }

@[simp]
theorem setRow_status (l : Ledger) (p : UpdateDeploymentDeviceStatusParams) :
    (l.setRow p).status = l.status :=
  rfl

@[simp]
theorem setRow_totalDevices (l : Ledger) (p : UpdateDeploymentDeviceStatusParams) :
    (l.setRow p).totalDevices = l.totalDevices :=
  rfl

@[simp]
theorem setRow_rollbackThreshold (l : Ledger) (p : UpdateDeploymentDeviceStatusParams) :
    (l.setRow p).rollbackThreshold = l.rollbackThreshold :=
  rfl

@[simp]
theorem setRow_successCount (l : Ledger) (p : UpdateDeploymentDeviceStatusParams) :
    (l.setRow p).successCount = l.successCount :=
  rfl

@[simp]
theorem setRow_failureCount (l : Ledger) (p : UpdateDeploymentDeviceStatusParams) :
    (l.setRow p).failureCount = l.failureCount :=
  rfl

/-- What an operation of a handler does to the ledger of deployment {lit}`id`. -/
def after (id : DeploymentID) (l : Ledger) : Op → Ledger
  | .sql (.updateDeploymentStatus i status) => if i = id then { l with status := status } else l
  | .sql (.incrementDeploymentSuccess i) =>
      if i = id then { l with successCount := l.successCount + 1 } else l
  | .sql (.incrementDeploymentFailure i) =>
      if i = id then { l with failureCount := l.failureCount + 1 } else l
  | .sql (.updateDeploymentDeviceStatus p) => if p.deploymentID = id then l.setRow p else l
  | _ => l

/-! ## What the handlers do to the ledger -/

/-- A success is credited unless the deployment is over, and the last one completes
the deployment. -/
def creditSuccess (l : Ledger) : Ledger :=
  if l.status = .rolledBack ∨ l.status = .failed then l
  else if l.successCount + 1 + l.failureCount ≥ l.totalDevices then
    { l with successCount := l.successCount + 1, status := .completed }
  else { l with successCount := l.successCount + 1 }

/-- A progress report whose active row belongs to the deployment. -/
def afterProgress (id : DeploymentID) (l : Ledger) (event : DeviceProgressEvent) : Ledger :=
  let l := l.setRow
    { deploymentID := id
      deviceID := event.deviceID
      status := event.status
      progress := event.progress
      errorMessage := none }
  if event.status = "success" ∧ event.progress = 100 then l.creditSuccess else l

/-- The failure rate as {lit}`HandleDeviceError` computes it from the counted failures. -/
def failureRate (l : Ledger) : ℚ :=
  ((l.failureCount + 1 : Nat) : ℚ) / (l.totalDevices : ℚ)

/-- The failure rate has reached the threshold. -/
def breached (l : Ledger) : Bool :=
  l.failureRate ≥ l.rollbackThreshold

/-- A counted failure rolls the deployment back, completes it, or does neither. -/
def evaluateFailure (l : Ledger) : Ledger :=
  if l.status = .running ∧ l.breached then { l with status := .rolledBack }
  else if l.successCount + l.failureCount + 1 ≥ l.totalDevices then
    { l with status := .completed }
  else l

/-- The failed row and the counted failure of an error report. -/
def countFailure (id : DeploymentID) (l : Ledger) (activeDD : DeploymentDevice)
    (event : DeviceErrorEvent) : Ledger :=
  let l := l.setRow
    { deploymentID := id
      deviceID := event.deviceID
      status := "failed"
      progress := activeDD.progress
      errorMessage := some event.error }
  { l with failureCount := l.failureCount + 1 }

/-- An error report whose active row is {lit}`activeDD`, of the deployment. -/
def afterError (id : DeploymentID) (l : Ledger) (activeDD : DeploymentDevice)
    (event : DeviceErrorEvent) : Ledger :=
  if activeDD.status = "success" ∨ activeDD.status = "failed" then l
  else (l.countFailure id activeDD event).evaluateFailure

/-- A rollback writes the status and nothing else. -/
def afterRollback (l : Ledger) : Ledger :=
  { l with status := .rolledBack }

/-- The reconciliation completes a counted-out deployment that is not over. -/
def afterReconcile (l : Ledger) : Ledger :=
  if l.totalDevices > 0 ∧ l.successCount + l.failureCount ≥ l.totalDevices ∧
      l.status ≠ .rolledBack ∧ l.status ≠ .failed then
    { l with status := .completed }
  else l

@[simp]
theorem creditSuccess_rows (l : Ledger) : l.creditSuccess.rows = l.rows := by
  unfold creditSuccess
  split
  · rfl
  · split <;> rfl

@[simp]
theorem creditSuccess_totalDevices (l : Ledger) :
    l.creditSuccess.totalDevices = l.totalDevices := by
  unfold creditSuccess
  split
  · rfl
  · split <;> rfl

/-- One more success completes the deployment if it was the last one missing. -/
theorem creditSuccess_status {l : Ledger}
    (hopen : ¬ (l.status = .rolledBack ∨ l.status = .failed)) :
    l.creditSuccess.status =
      if l.successCount + 1 + l.failureCount ≥ l.totalDevices then .completed
      else l.status := by
  rw [creditSuccess, if_neg hopen]
  split <;> rfl

@[simp]
theorem evaluateFailure_totalDevices (l : Ledger) :
    l.evaluateFailure.totalDevices = l.totalDevices := by
  unfold evaluateFailure
  split
  · rfl
  · split <;> rfl

@[simp]
theorem evaluateFailure_rows (l : Ledger) : l.evaluateFailure.rows = l.rows := by
  unfold evaluateFailure
  split
  · rfl
  · split <;> rfl

@[simp]
theorem afterReconcile_rows (l : Ledger) : l.afterReconcile.rows = l.rows := by
  unfold afterReconcile
  split <;> rfl

@[simp]
theorem afterRollback_rows (l : Ledger) : l.afterRollback.rows = l.rows :=
  rfl

/-- What a read of the deployment shows is in its account. -/
theorem Shows.eq {l : Ledger} {d : Deployment} (h : l.Shows d) :
    d.status = l.status ∧ d.totalDevices = l.totalDevices ∧
      d.rollbackThreshold = l.rollbackThreshold ∧ d.successCount = l.successCount ∧
        d.failureCount = l.failureCount := by
  rw [← h]
  exact ⟨rfl, rfl, rfl, rfl, rfl⟩

/-- A read of the deployment gives the same test. -/
theorem Shows.breached_eq {l : Ledger} {d : Deployment} (h : l.Shows d) :
    d.breached = l.breached := by
  obtain ⟨-, htotal, hthreshold, -, hfailure⟩ := h.eq
  simp [Deployment.breached, Deployment.failureRate, Ledger.breached, Ledger.failureRate,
    htotal, hthreshold, hfailure]

end Ledger

/-! ## The ledger and the database -/

/-- An account is that of a deployment in its table. -/
theorem Db.ledger_eq_some {db : Db} {id : DeploymentID} {l : Ledger} :
    db.ledger id = some l ↔
      ∃ d, db.deployment id = some d ∧ d.ledger (db.rowsOf id) = l := by
  simp [Db.ledger]

/-- The deployment row shows the ledger. -/
theorem Db.shows_of_ledger {db : Db} {id : DeploymentID} {l : Ledger}
    (h : db.ledger id = some l) : ∃ d, db.deployment id = some d ∧ d.id = id ∧ l.Shows d := by
  obtain ⟨d, hd, rfl⟩ := Db.ledger_eq_some.mp h
  exact ⟨d, hd, Db.deployment_id hd, rfl⟩

/-- The rows of the account. -/
theorem Db.rows_of_ledger {db : Db} {id : DeploymentID} {l : Ledger}
    (h : db.ledger id = some l) : l.rows = db.rowsOf id := by
  obtain ⟨d, hd, rfl⟩ := Db.ledger_eq_some.mp h
  rfl

/-- A statement that is not an insert into the rows of the deployment does to the
ledger what {lit}`Ledger.after` says. -/
theorem Db.ledger_exec {db : Db} {uuid : DeploymentID} {q : Query} {id : DeploymentID}
    {l : Ledger} (h : db.ledger id = some l)
    (hq : ∀ p, q = .createDeploymentDevice p → p.deploymentID ≠ id) :
    (db.exec uuid q).2.ledger id = some (l.after id (.sql q)) := by
  obtain ⟨d, hd, rfl⟩ := Db.ledger_eq_some.mp h
  have hid : d.id = id := Db.deployment_id hd
  have hafter : (db.exec uuid q).2.deployment id = some (q.onDeployment d) :=
    Db.deployment_exec hd
  rw [Db.ledger, hafter, Option.map_some]
  congr 1
  by_cases hrows : ∃ p, q = .updateDeploymentDeviceStatus p ∧ p.deploymentID = id
  · obtain ⟨p, rfl, hp⟩ := hrows
    have hset : ((db.exec uuid (.updateDeploymentDeviceStatus p)).2.rowsOf id) =
        (db.rowsOf id).map fun row => if p.selects row then p.set row else row :=
      Db.rowsOf_updateDeploymentDeviceStatus db p id
    simp only [Ledger.after, hp, if_true, hset]
    rfl
  · have hupdate : ∀ p, q = .updateDeploymentDeviceStatus p → p.deploymentID ≠ id := by
      intro p hp hpid
      exact hrows ⟨p, hp, hpid⟩
    rw [Db.rowsOf_exec hq hupdate]
    cases q with
    | updateDeploymentStatus i status =>
        simp only [Query.onDeployment, Ledger.after, hid]
        split <;> rfl
    | updateDeploymentPhase i phase percentage =>
        simp only [Query.onDeployment, Ledger.after]
        split <;> rfl
    | incrementDeploymentSuccess i =>
        simp only [Query.onDeployment, Ledger.after, hid]
        split <;> rfl
    | incrementDeploymentFailure i =>
        simp only [Query.onDeployment, Ledger.after, hid]
        split <;> rfl
    | updateDeploymentDeviceStatus p =>
        simp only [Query.onDeployment, Ledger.after, if_neg (hupdate p rfl)]
    | _ => rfl

/-! ## The handlers as seen from the ledger -/

/-- The answers of a database that shows the ledger and fails no statement. -/
def LedgerAnswer (id : DeploymentID) (l : Ledger) : (op : Op) → op.Ret → Prop
  | .sql (.getDeployment i _), r =>
      (∀ d : Deployment, r = some d → d.id = i) ∧
        (i = id → ∃ d : Deployment, r = some d ∧ l.Shows d)
  | .sql (.updateDeploymentStatus i _), r => i = id → ∃ d : Deployment, r = some d
  | .sql (.listDeploymentDevices _), r => ∃ devs : List DeploymentDevice, r = some devs
  | .sql (.updateDeploymentDeviceStatus p), r =>
      (∃ row ∈ l.rows, p.selects row = true) → ∃ row : DeploymentDevice, r = some row
  | _, _ => True

/-- The automaton that carries the ledger along a handler. -/
def ledgerDiscipline (id : DeploymentID) : Discipline Op.Ret Ledger where
  allowed _ op := ∀ p, op ≠ .sql (.createDeploymentDevice p)
  rely := LedgerAnswer id
  next l op _ := l.after id op

/-- The program takes the ledger {lit}`l` to {lit}`l'`. -/
def TakesLedger {α : Type} (id : DeploymentID) (l l' : Ledger) (p : Rollout α) : Prop :=
  Obeys (ledgerDiscipline id) (fun final _ => final = l') l p

/-- The operation belongs to another deployment, or to none. -/
structure Unledgered (id : DeploymentID) (op : Op) : Prop where
  noInsert : ∀ p, op ≠ .sql (.createDeploymentDevice p)
  keeps : ∀ l : Ledger, l.after id op = l

section

variable {id : DeploymentID} {l l' l'' : Ledger} {α β : Type}

/-- One procedure after the other. -/
theorem TakesLedger.bind {p : Rollout α} {f : α → Rollout β} (hp : TakesLedger id l l' p)
    (hf : ∀ a, TakesLedger id l' l'' (f a)) : TakesLedger id l l'' (p >>= f) := by
  refine Obeys.bind hp ?_
  intro final a hfinal
  rw [hfinal]
  exact hf a

/-- Doing nothing changes no account. -/
theorem takesLedger_done (a : α) : TakesLedger id l l (Prog.done a : Rollout α) :=
  rfl

/-- One operation, answered by the database. -/
theorem takesLedger_call {op : Op} {k : op.Ret → Rollout α}
    (hop : ∀ p, op ≠ .sql (.createDeploymentDevice p))
    (hk : ∀ r, LedgerAnswer id l op r → TakesLedger id (l.after id op) l' (k r)) :
    TakesLedger id l l' (Prog.call op k) :=
  ⟨hop, hk⟩

/-- Programs whose operations belong to other deployments keep the ledger. -/
theorem takesLedger_of_unledgered {Q : Op → Prop} {p : Rollout α}
    (hp : Always AnyAnswer Q p) (hQ : ∀ op, Q op → Unledgered id op) : TakesLedger id l l p := by
  refine hp.obeys (G := fun g => g = l) (fun _ _ _ _ => trivial) ?_ ?_ rfl
  · intro g op hg hop
    exact (hQ op hop).noInsert
  · intro g op r hg hop
    rw [hg]
    exact (hQ op hop).keeps l

/-- Sending rollback commands changes no account. -/
theorem revertDevices_ledger (depID : DeploymentID) (reason : RollbackReason)
    (devs : List DeploymentDevice) : TakesLedger id l l (revertDevices depID reason devs) := by
  refine takesLedger_of_unledgered (revertDevices_ops depID reason devs) ?_
  intro op hop
  cases hop <;> exact ⟨by simp, fun _ => rfl⟩

/-- A rollback writes the status column of its deployment. -/
theorem executeRollback_ledger (reason : RollbackReason) :
    TakesLedger id l l.afterRollback (executeRollback id reason) := by
  rw [executeRollback, getDeployment_bind]
  refine takesLedger_call (by simp) ?_
  intro r hr
  obtain ⟨dep, rfl, hshows⟩ := hr.2 rfl
  have hdep : dep.id = id := hr.1 dep rfl
  dsimp only
  split
  · rename_i hstatus
    have hsame : l.afterRollback = l := by
      have hrolled : l.status = .rolledBack := by rw [← hshows.eq.1, hstatus]
      rw [Ledger.afterRollback, ← hrolled]
    rw [hsame]
    exact takesLedger_done _
  · rw [query_bind]
    refine takesLedger_call (by simp) ?_
    intro r hr
    obtain ⟨updated, rfl⟩ := hr hdep
    dsimp only
    rw [query_bind]
    refine takesLedger_call (by simp) ?_
    intro r hr
    obtain ⟨devs, rfl⟩ := hr
    have hafter : (l.after id (.sql (.getDeployment id .handler))).after id
        (.sql (.updateDeploymentStatus dep.id .rolledBack)) = l.afterRollback := by
      simp [Ledger.after, Ledger.afterRollback, hdep]
    rw [hafter]
    exact (revertDevices_ledger _ _ devs).bind fun _ => takesLedger_done _

/-- A rollback of another deployment keeps the ledger. -/
theorem executeRollback_ledger_ne {depID : DeploymentID} (hne : depID ≠ id)
    (reason : RollbackReason) : TakesLedger id l l (executeRollback depID reason) := by
  rw [executeRollback, getDeployment_bind]
  refine takesLedger_call (by simp) ?_
  rintro (_ | dep) hr
  · exact takesLedger_done _
  · have hdep : dep.id = depID := hr.1 dep rfl
    dsimp only
    split
    · exact takesLedger_done _
    · rw [query_bind]
      refine takesLedger_call (by simp) ?_
      have hafter : (l.after id (.sql (.getDeployment depID .handler))).after id
          (.sql (.updateDeploymentStatus dep.id .rolledBack)) = l := by
        simp [Ledger.after, hdep, hne]
      rw [hafter]
      rintro (_ | updated) -
      · exact takesLedger_done _
      · dsimp only
        rw [query_bind]
        refine takesLedger_call (by simp) ?_
        rintro (_ | devs) -
        · exact takesLedger_done _
        · exact (revertDevices_ledger _ _ devs).bind fun _ => takesLedger_done _

/-- Recording a version changes no account. -/
theorem recordInstalledVersion_ledger (event : DeviceProgressEvent) (dep : Deployment) :
    TakesLedger id l l (recordInstalledVersion event dep) := by
  refine takesLedger_of_unledgered (recordInstalledVersion_ops event dep) ?_
  rintro op (⟨fw, rfl⟩ | ⟨v, rfl⟩) <;> exact ⟨by simp, fun _ => rfl⟩

/-- A completion writes the status. -/
theorem completeDeployment_ledger (dep : Deployment) :
    TakesLedger id l { l with status := .completed } (completeDeployment id dep) := by
  rw [completeDeployment, query_bind]
  refine takesLedger_call (by simp) ?_
  intro r hr
  have hafter : l.after id (.sql (.updateDeploymentStatus id .completed)) =
      { l with status := .completed } := by
    simp [Ledger.after]
  rw [hafter]
  split
  · rw [query_bind]
    exact takesLedger_call (by simp) fun _ _ => takesLedger_done _
  · exact takesLedger_done _

/-- A success report credits its own deployment. -/
theorem creditSuccess_ledger (event : DeviceProgressEvent) {activeDD : DeploymentDevice}
    (hactive : activeDD.deploymentID = id) :
    TakesLedger id l l.creditSuccess (creditSuccess event activeDD) := by
  rw [creditSuccess, getDeployment_bind]
  refine takesLedger_call (by simp) ?_
  intro r hr
  obtain ⟨dep, rfl, hshows⟩ := hr.2 hactive
  obtain ⟨hstatus, htotal, -, hsuccess, hfailure⟩ := hshows.eq
  dsimp only
  rw [hstatus, Ledger.creditSuccess]
  split
  · exact takesLedger_done _
  · rw [query_bind]
    refine takesLedger_call (by simp) ?_
    intro r hr
    have hafter : (l.after id (.sql (.getDeployment activeDD.deploymentID .handler))).after id
        (.sql (.incrementDeploymentSuccess activeDD.deploymentID)) =
          { l with successCount := l.successCount + 1 } := by
      simp [Ledger.after, hactive]
    rw [hafter]
    refine (recordInstalledVersion_ledger event dep).bind ?_
    intro _
    rw [hsuccess, hfailure, htotal]
    split
    · rw [hactive]
      exact (completeDeployment_ledger dep).bind fun _ => takesLedger_done _
    · exact takesLedger_done _

/-- The completion branch of another deployment keeps the ledger. -/
theorem completeDeployment_ledger_ne {depID : DeploymentID} (hne : depID ≠ id)
    (dep : Deployment) : TakesLedger id l l (completeDeployment depID dep) := by
  rw [completeDeployment, query_bind]
  refine takesLedger_call (by simp) ?_
  intro r hr
  have hafter : l.after id (.sql (.updateDeploymentStatus depID .completed)) = l := by
    simp [Ledger.after, hne]
  rw [hafter]
  split
  · rw [query_bind]
    exact takesLedger_call (by simp) fun _ _ => takesLedger_done _
  · exact takesLedger_done _

/-- A success of another deployment changes nothing here. -/
theorem creditSuccess_ledger_ne (event : DeviceProgressEvent) {activeDD : DeploymentDevice}
    (hne : activeDD.deploymentID ≠ id) : TakesLedger id l l (creditSuccess event activeDD) := by
  rw [creditSuccess, getDeployment_bind]
  refine takesLedger_call (by simp) ?_
  rintro (_ | dep) -
  · exact takesLedger_done _
  · dsimp only
    split
    · exact takesLedger_done _
    · rw [query_bind]
      refine takesLedger_call (by simp) ?_
      intro r hr
      have hafter : (l.after id (.sql (.getDeployment activeDD.deploymentID .handler))).after id
          (.sql (.incrementDeploymentSuccess activeDD.deploymentID)) = l := by
        simp [Ledger.after, hne]
      rw [hafter]
      refine (recordInstalledVersion_ledger event dep).bind ?_
      intro _
      split
      · exact (completeDeployment_ledger_ne hne dep).bind fun _ => takesLedger_done _
      · exact takesLedger_done _

/-- A progress report acts on the ledger of its active row. -/
theorem progressOnRow_ledger (event : DeviceProgressEvent) {activeDD : DeploymentDevice}
    (hactive : activeDD.deploymentID = id) (hmem : activeDD ∈ l.rows)
    (hdevice : activeDD.deviceID = event.deviceID) :
    TakesLedger id l (l.afterProgress id event) (progressOnRow event activeDD) := by
  rw [progressOnRow, query_bind, hactive]
  refine takesLedger_call (by simp) ?_
  intro r hr
  obtain ⟨row, rfl⟩ := hr ⟨activeDD, hmem, by
    simp [UpdateDeploymentDeviceStatusParams.selects, hactive, hdevice]⟩
  have hafter : l.after id (.sql (.updateDeploymentDeviceStatus
      { deploymentID := id
        deviceID := event.deviceID
        status := event.status
        progress := event.progress
        errorMessage := none })) = l.setRow
      { deploymentID := id
        deviceID := event.deviceID
        status := event.status
        progress := event.progress
        errorMessage := none } := if_pos rfl
  rw [hafter]
  dsimp only [Ledger.afterProgress]
  split
  · exact creditSuccess_ledger event hactive
  · exact takesLedger_done _

/-- A progress report on another deployment changes nothing here. -/
theorem progressOnRow_ledger_ne (event : DeviceProgressEvent) {activeDD : DeploymentDevice}
    (hne : activeDD.deploymentID ≠ id) :
    TakesLedger id l l (progressOnRow event activeDD) := by
  rw [progressOnRow, query_bind]
  refine takesLedger_call (by simp) ?_
  have hafter : l.after id (.sql (.updateDeploymentDeviceStatus
      { deploymentID := activeDD.deploymentID
        deviceID := event.deviceID
        status := event.status
        progress := event.progress
        errorMessage := none })) = l := if_neg hne
  rw [hafter]
  rintro (_ | row) -
  · exact takesLedger_done _
  · dsimp only
    split
    · exact creditSuccess_ledger_ne event hne
    · exact takesLedger_done _

/-- What a failure of the deployment does to its account. -/
theorem evaluateFailure_ledger {activeDD : DeploymentDevice}
    (hactive : activeDD.deploymentID = id) :
    TakesLedger id l l.evaluateFailure (evaluateFailure activeDD) := by
  rw [evaluateFailure, getDeployment_bind]
  refine takesLedger_call (by simp) ?_
  intro r hr
  obtain ⟨dep, rfl, hshows⟩ := hr.2 hactive
  have hdep : dep.id = id := (hr.1 dep rfl).trans hactive
  obtain ⟨hstatus, htotal, -, hsuccess, hfailure⟩ := hshows.eq
  dsimp only
  rw [hstatus, hshows.breached_eq, hsuccess, hfailure, htotal, Ledger.evaluateFailure]
  split
  · rw [hdep]
    exact executeRollback_ledger _
  · split
    · rw [query_bind]
      refine takesLedger_call (by simp) ?_
      intro r hr
      have hafter : (l.after id (.sql (.getDeployment activeDD.deploymentID .handler))).after id
          (.sql (.updateDeploymentStatus activeDD.deploymentID .completed)) =
            { l with status := .completed } := by
        simp [Ledger.after, hactive]
      rw [hafter]
      exact takesLedger_done _
    · exact takesLedger_done _

/-- A failure of another deployment changes nothing here. -/
theorem evaluateFailure_ledger_ne {activeDD : DeploymentDevice}
    (hne : activeDD.deploymentID ≠ id) : TakesLedger id l l (evaluateFailure activeDD) := by
  rw [evaluateFailure, getDeployment_bind]
  refine takesLedger_call (by simp) ?_
  rintro (_ | dep) hr
  · exact takesLedger_done _
  · have hdep : dep.id = activeDD.deploymentID := hr.1 dep rfl
    dsimp only
    split
    · exact executeRollback_ledger_ne (hdep ▸ hne) _
    · split
      · rw [query_bind]
        refine takesLedger_call (by simp) ?_
        intro r hr
        have hafter : (l.after id (.sql (.getDeployment activeDD.deploymentID .handler))).after
            id (.sql (.updateDeploymentStatus activeDD.deploymentID .completed)) = l := by
          simp [Ledger.after, hne]
        rw [hafter]
        exact takesLedger_done _
      · exact takesLedger_done _

/-- An error report acts on the ledger of its active row. -/
theorem errorOnRow_ledger (event : DeviceErrorEvent) {activeDD : DeploymentDevice}
    (hactive : activeDD.deploymentID = id) (hmem : activeDD ∈ l.rows)
    (hdevice : activeDD.deviceID = event.deviceID) :
    TakesLedger id l (l.afterError id activeDD event) (errorOnRow event activeDD) := by
  unfold errorOnRow Ledger.afterError
  split
  · exact takesLedger_done _
  · rw [query_bind]
    refine takesLedger_call (by simp) ?_
    intro r hr
    obtain ⟨row, rfl⟩ := hr ⟨activeDD, hmem, by
      simp [UpdateDeploymentDeviceStatusParams.selects, hdevice]⟩
    dsimp only
    rw [query_bind]
    refine takesLedger_call (by simp) ?_
    intro r hr
    have hafter : (l.after id (.sql (.updateDeploymentDeviceStatus
        { deploymentID := activeDD.deploymentID
          deviceID := event.deviceID
          status := "failed"
          progress := activeDD.progress
          errorMessage := some event.error }))).after id
            (.sql (.incrementDeploymentFailure activeDD.deploymentID)) =
        l.countFailure id activeDD event := by
      simp [Ledger.after, hactive, Ledger.countFailure]
    rw [hafter]
    exact evaluateFailure_ledger hactive

/-- An error report on another deployment changes nothing here. -/
theorem errorOnRow_ledger_ne (event : DeviceErrorEvent) {activeDD : DeploymentDevice}
    (hne : activeDD.deploymentID ≠ id) : TakesLedger id l l (errorOnRow event activeDD) := by
  unfold errorOnRow
  split
  · exact takesLedger_done _
  · rw [query_bind]
    refine takesLedger_call (by simp) ?_
    have hafter : l.after id (.sql (.updateDeploymentDeviceStatus
        { deploymentID := activeDD.deploymentID
          deviceID := event.deviceID
          status := "failed"
          progress := activeDD.progress
          errorMessage := some event.error })) = l := if_neg hne
    rw [hafter]
    rintro (_ | row) -
    · exact takesLedger_done _
    · dsimp only
      rw [query_bind]
      refine takesLedger_call (by simp) ?_
      intro r hr
      have hcount : l.after id (.sql (.incrementDeploymentFailure activeDD.deploymentID)) = l :=
        if_neg hne
      rw [hcount]
      exact evaluateFailure_ledger_ne hne

/-! ## The HTTP handlers -/

/-- The phase is not in the account. -/
private theorem reconcilePhase_ledger (dep : Deployment) :
    TakesLedger id l l (reconcilePhase dep) := by
  refine takesLedger_of_unledgered (reconcilePhase_ops dep) ?_
  rintro op rfl
  exact ⟨by simp, fun _ => rfl⟩

/-- What reading the deployment does to its account. -/
theorem reconcile_ledger : TakesLedger id l l.afterReconcile (reconcile id) := by
  rw [reconcile, getDeployment_bind]
  refine takesLedger_call (by simp) ?_
  intro r hr
  obtain ⟨dep, rfl, hshows⟩ := hr.2 rfl
  have hdep : dep.id = id := hr.1 dep rfl
  obtain ⟨hstatus, htotal, -, hsuccess, hfailure⟩ := hshows.eq
  dsimp only
  rw [hstatus, htotal, hsuccess, hfailure, Ledger.afterReconcile]
  split
  · split
    · rw [query_bind]
      refine takesLedger_call (by simp) ?_
      intro r hr
      have hafter : (l.after id (.sql (.getDeployment id .handler))).after id
          (.sql (.updateDeploymentStatus dep.id .completed)) =
            { l with status := .completed } := by
        simp [Ledger.after, hdep]
      rw [hafter]
      exact (reconcilePhase_ledger _).bind fun _ => takesLedger_done _
    · rename_i hcompleted
      have hsame : l = { l with status := .completed } := by
        rw [← not_not.mp hcompleted]
      rw [← hsame]
      exact (reconcilePhase_ledger _).bind fun _ => takesLedger_done _
  · exact takesLedger_done _

/-- Reading another deployment changes nothing here. -/
theorem reconcile_ledger_ne {depID : DeploymentID} (hne : depID ≠ id) :
    TakesLedger id l l (reconcile depID) := by
  rw [reconcile, getDeployment_bind]
  refine takesLedger_call (by simp) ?_
  rintro (_ | dep) hr
  · exact takesLedger_done _
  · have hdep : dep.id = depID := hr.1 dep rfl
    dsimp only
    split
    · split
      · rw [query_bind]
        refine takesLedger_call (by simp) ?_
        intro r hr
        have hafter : (l.after id (.sql (.getDeployment depID .handler))).after id
            (.sql (.updateDeploymentStatus dep.id .completed)) = l := by
          simp [Ledger.after, hdep, hne]
        rw [hafter]
        exact (reconcilePhase_ledger _).bind fun _ => takesLedger_done _
      · exact (reconcilePhase_ledger _).bind fun _ => takesLedger_done _
    · exact takesLedger_done _

/-- The answer to a request reads only. -/
private theorem answerDeployment_ledger (dep : Deployment) :
    TakesLedger id l l (do
      let some devs ← query (.listDeploymentDevices dep.id)
        | reply (.error 500 "failed to list deployment devices")
      let version ← targetVersion dep.firmwareVersionID
      reply (.deployment dep devs version)) := by
  rw [query_bind]
  refine takesLedger_call (by simp) ?_
  rintro (_ | devs) -
  · exact takesLedger_call (by simp) fun _ _ => takesLedger_done _
  · refine (takesLedger_of_unledgered (targetVersion_ops _) ?_).bind ?_
    · rintro op rfl
      exact ⟨by simp, fun _ => rfl⟩
    · exact fun _ => takesLedger_call (by simp) fun _ _ => takesLedger_done _

/-- {lit}`GET /deployments/:id` reconciles the deployment. -/
theorem getDeploymentHandler_ledger :
    TakesLedger id l l.afterReconcile (getDeploymentHandler id) := by
  rw [getDeploymentHandler, getDeployment_bind]
  refine takesLedger_call (by simp) ?_
  intro r hr
  obtain ⟨dep, rfl, -⟩ := hr.2 rfl
  have hdep : dep.id = id := hr.1 dep rfl
  dsimp only
  rw [hdep]
  exact reconcile_ledger.bind fun _ => answerDeployment_ledger _

/-- A request for another deployment changes nothing here. -/
theorem getDeploymentHandler_ledger_ne {depID : DeploymentID} (hne : depID ≠ id) :
    TakesLedger id l l (getDeploymentHandler depID) := by
  rw [getDeploymentHandler, getDeployment_bind]
  refine takesLedger_call (by simp) ?_
  rintro (_ | dep) hr
  · exact takesLedger_call (by simp) fun _ _ => takesLedger_done _
  · have hdep : dep.id = depID := hr.1 dep rfl
    exact (reconcile_ledger_ne (hdep ▸ hne)).bind fun _ => answerDeployment_ledger _

/-- The answer to a requested rollback writes nothing. -/
private theorem answerRollback_ledger (depID : DeploymentID) (outcome : Outcome) :
    TakesLedger id l l (match outcome with
      | .error text => reply (.error 500 ("failed to execute rollback: " ++ text))
      | .ok () => reply (.rolledBack depID)) := by
  cases outcome <;> exact takesLedger_call (by simp) fun _ _ => takesLedger_done _

/-- {lit}`POST /deployments/:id/rollback` rolls the deployment back. -/
theorem rollbackHandler_ledger : TakesLedger id l l.afterRollback (rollbackHandler id) :=
  (executeRollback_ledger _).bind fun outcome => answerRollback_ledger id outcome

/-- A requested rollback of another deployment changes nothing here. -/
theorem rollbackHandler_ledger_ne {depID : DeploymentID} (hne : depID ≠ id) :
    TakesLedger id l l (rollbackHandler depID) :=
  (executeRollback_ledger_ne hne _).bind fun outcome => answerRollback_ledger depID outcome

end

end OtaRobot
