import OtaRobot.Rollout.Accounting

/-!
# Reports after a rollback

{lit}`ExecuteRollback` writes the status of the deployment and leaves its rows as they are.
A row that was not terminal keeps being active, so that the next report of its robot is
still recorded in it, and a failure is still counted.

Main results:

- Theorem {lit}`executeRollback_ok`: a rollback that answers without an error has left the
  deployment rolled back.
- Theorems {lit}`Ledger.record_afterProgress` and {lit}`Ledger.record_afterError`: which
  reports change the rows or the counters of a rolled-back deployment.
- Theorem {lit}`rolledBack_closed`: exactly which sequences of reports leave a rolled-back
  deployment as it is.
-/

namespace OtaRobot

open Prog Transition

/-! ## What a rollback leaves behind -/

/-- A rollback that answers without an error has left the deployment rolled back. -/
theorem executeRollback_ok {x : Choice} (hx : x.fault = false) {id : DeploymentID}
    {reason : RollbackReason} {db : Db} {canary : List (List PhaseWrite)}
    {s : Db × List (List PhaseWrite)}
    (h : (executeRollback id reason).run (execQuiet x) (db, canary) = (.ok (), s)) :
    ∃ l, s.1.ledger id = some l ∧ l.status = .rolledBack := by
  cases hl : db.ledger id with
  | none =>
      have hmissing : (db.writePhases (canary.headD [])).deployment id = none := by
        have hstatus : ∀ (ws : List PhaseWrite) (db : Db), db.deployment id = none →
            (db.writePhases ws).deployment id = none := by
          intro ws
          induction ws with
          | nil => exact fun _ hnone => hnone
          | cons w ws ih =>
              intro db hnone
              apply ih (db.writePhase w)
              have hkeep := db.deployment_writePhase_status w id
              rw [hnone] at hkeep
              exact Option.map_eq_none_iff.mp hkeep
        exact hstatus _ db (Option.map_eq_none_iff.mp hl)
      have hanswer : (execQuiet x (db, canary) (.sql (.getDeployment id .handler))).1 =
          (none : Option Deployment) := by
        show (ControlPlane.exec _ _ x).1 = _
        rw [ControlPlane.exec_sql, if_neg (by simp [hx])]
        exact hmissing
      have herror : ((executeRollback id reason).run (execQuiet x) (db, canary)).1 =
          .error "failed to retrieve deployment for rollback" :=
        congrArg Prod.fst (run_call_of_answer hanswer)
      rw [h] at herror
      cases herror
  | some l =>
      obtain ⟨final, hfinal, heq⟩ := Obeys.run (ledger_execQuiet hx)
        (executeRollback_ledger (l := l) reason) (s := (db, canary))
        (R := fun s l => s.1.ledger id = some l) hl
      rw [h] at hfinal
      exact ⟨final, hfinal, by rw [heq]; rfl⟩

/-! ## What a report changes -/

/-- The rows of a deployment and its counters. -/
def Ledger.record (l : Ledger) : List DeploymentDevice × Nat × Nat :=
  (l.rows, l.successCount, l.failureCount)

/-- Every row of the robot says already what the report says. -/
def Ledger.Repeated (l : Ledger) (event : DeviceProgressEvent) : Prop :=
  ∀ row ∈ l.rows, row.deviceID = event.deviceID →
    row.status = event.status ∧ row.progress = event.progress ∧ row.errorMessage = none

/-- When a report leaves a row as it is. -/
theorem UpdateDeploymentDeviceStatusParams.set_eq_self_iff
    (p : UpdateDeploymentDeviceStatusParams) (row : DeploymentDevice) :
    p.set row = row ↔
      row.status = p.status ∧ row.progress = p.progress ∧ row.errorMessage = p.errorMessage := by
  cases row
  simp only [set, DeploymentDevice.mk.injEq, true_and, and_true]
  constructor
  · rintro ⟨rfl, rfl, rfl⟩
    exact ⟨rfl, rfl, rfl⟩
  · rintro ⟨rfl, rfl, rfl⟩
    exact ⟨rfl, rfl, rfl⟩

namespace Ledger

section

variable {id : DeploymentID} {l : Ledger}

/-- An update of the rows of one robot changes none of them exactly when they show it. -/
theorem setRow_rows_eq_iff (hrows : ∀ row ∈ l.rows, row.deploymentID = id)
    {p : UpdateDeploymentDeviceStatusParams} (hp : p.deploymentID = id) :
    (l.setRow p).rows = l.rows ↔ ∀ row ∈ l.rows, row.deviceID = p.deviceID →
      row.status = p.status ∧ row.progress = p.progress ∧ row.errorMessage = p.errorMessage := by
  have hid : (l.rows.map fun row => row) = l.rows := List.map_id' l.rows
  have hmap : (l.setRow p).rows = l.rows ↔
      ∀ row ∈ l.rows, (if p.selects row then p.set row else row) = row := by
    conv_lhs => rhs; rw [← hid]
    exact List.map_inj_left
  rw [hmap]
  apply forall₂_congr
  intro row hrow
  have hsel : p.selects row = true ↔ row.deviceID = p.deviceID := by
    simp [UpdateDeploymentDeviceStatusParams.selects, hrows row hrow, hp]
  by_cases hdevice : row.deviceID = p.deviceID
  · rw [if_pos (hsel.mpr hdevice), p.set_eq_self_iff]
    simp [hdevice]
  · rw [if_neg (fun h => hdevice (hsel.mp h))]
    simp [hdevice]

/-- A progress report for a rolled-back deployment changes nothing exactly when it repeats
what the rows say. -/
theorem record_afterProgress (hrows : ∀ row ∈ l.rows, row.deploymentID = id)
    (hstatus : l.status = .rolledBack) (event : DeviceProgressEvent) :
    (l.afterProgress id event).status = .rolledBack ∧
      ((l.afterProgress id event).record = l.record ↔ l.Repeated event) := by
  have hafter : l.afterProgress id event = l.setRow
      { deploymentID := id
        deviceID := event.deviceID
        status := event.status
        progress := event.progress
        errorMessage := none } := by
    simp only [afterProgress, creditSuccess, setRow_status, hstatus, true_or, if_true, ite_self]
  rw [hafter]
  constructor
  · exact hstatus
  · simp only [record, setRow_successCount, setRow_failureCount, Prod.mk.injEq, and_true]
    exact setRow_rows_eq_iff hrows rfl

/-- An error report for an active row of a rolled-back deployment is counted. -/
theorem record_afterError {row : DeploymentDevice} (hactive : row.status ∉ terminalRowStatuses)
    (event : DeviceErrorEvent) : (l.afterError id row event).record ≠ l.record := by
  have hopen : ¬ (row.status = "success" ∨ row.status = "failed") := by
    intro hterminal
    apply hactive
    rcases hterminal with h | h <;> simp [terminalRowStatuses, h]
  have hcount : (l.afterError id row event).failureCount = l.failureCount + 1 := by
    rw [afterError, if_neg hopen, (evaluateFailure_counts _).2.1]
    rfl
  intro hsame
  have hfailure : (l.afterError id row event).failureCount = l.failureCount :=
    congrArg (fun r => r.2.2) hsame
  omega

end

end Ledger

/-! ## Sequences of reports -/

/-- The call is a report of a robot. -/
def Call.isReport : Call → Bool
  | .progress _ | .error _ => true
  | _ => false

/-- Rows and counters of the deployment are what they were in {lit}`db`. -/
def SameRecord (id : DeploymentID) (db db' : Db) : Prop :=
  (db'.ledger id).map Ledger.record = (db.ledger id).map Ledger.record

/-- The report does not find a row of the deployment, or it is a progress report that
repeats what the row says. -/
def Unanswered (id : DeploymentID) (db : Db) (h : Handling) : Prop :=
  match h.call with
  | .progress event =>
      db.activeRowOf id event.deviceID = none ∨ ∀ l, db.ledger id = some l → l.Repeated event
  | .error event => db.activeRowOf id event.deviceID = none
  | _ => True

/-- One report. -/
theorem sameRecord_handle {id : DeploymentID} {db : Db} {l : Ledger} {h : Handling}
    (hl : db.ledger id = some l) (hstatus : l.status = .rolledBack)
    (hreport : h.call.isReport = true) :
    (SameRecord id db (handle db h) ↔ Unanswered id db h) ∧
      (Unanswered id db h →
        ∃ l', (handle db h).ledger id = some l' ∧ l'.status = .rolledBack) := by
  have hhandler : h.call.isHandler = true := by
    cases hcall : h.call <;> simp [hcall, Call.isReport, Call.isHandler] at hreport ⊢
  have hafter : (handle db h).ledger id = some (db.ledgerAfter id l h.call) :=
    ledger_handle hl hhandler
  have hsame : SameRecord id db (handle db h) ↔
      (db.ledgerAfter id l h.call).record = l.record := by
    simp [SameRecord, hafter, hl]
  have hrows : ∀ row ∈ l.rows, row.deploymentID = id := by
    intro row hrow
    rw [Db.rows_of_ledger hl] at hrow
    exact (Db.mem_rowsOf.mp hrow).2
  rw [hsame, hafter]
  cases hcall : h.call with
  | progress event =>
      simp only [Unanswered, hcall, Db.ledgerAfter]
      cases hrow : db.activeRowOf id event.deviceID with
      | none => simp [hstatus]
      | some row =>
          obtain ⟨hkeep, hrecord⟩ := Ledger.record_afterProgress hrows hstatus event
          simp [hl, hrecord, hkeep]
  | error event =>
      simp only [Unanswered, hcall, Db.ledgerAfter]
      cases hrow : db.activeRowOf id event.deviceID with
      | none => simp [hstatus]
      | some row =>
          obtain ⟨-, -, -, hactive⟩ := Db.activeRowOf_ledger hl hrow
          have hopen : row.status ∉ terminalRowStatuses := by
            rcases hactive with hrunning | hopen
            · rw [hstatus] at hrunning
              cases hrunning
            · exact hopen
          simp [Ledger.record_afterError hopen event]
  | _ => simp [hcall, Call.isReport] at hreport

/-- After a rollback that answers without an error, reports leave the rows and the counters
of the deployment as they are exactly as long as none of them finds one of its rows, except
to write what is there. -/
theorem rolledBack_closed {id : DeploymentID} {reason : RollbackReason} {x : Choice}
    {db₀ db : Db} {canary canary' : List (List PhaseWrite)} {hs : List Handling}
    (hx : x.fault = false)
    (hrollback : (executeRollback id reason).run (execQuiet x) (db₀, canary) =
      (.ok (), (db, canary')))
    (hreports : ∀ h ∈ hs, h.call.isReport = true) :
    EveryState handleStep (SameRecord id db) db hs ↔
      EachStep handleStep (Unanswered id) db hs := by
  obtain ⟨l, hl, hstatus⟩ := executeRollback_ok hx hrollback
  -- The invariant: the deployment is rolled back and as it was, and only reports are to come.
  refine everyState_iff_eachStep (I := fun db' hs =>
    (∃ l', db'.ledger id = some l' ∧ l'.status = .rolledBack) ∧ SameRecord id db db' ∧
      ∀ h ∈ hs, h.call.isReport = true) ?_ ?_ ?_ ?_ ?_
  · intro db' h hs _
    exact ⟨_, rfl⟩
  · rintro db' h hs db'' ⟨⟨l', hl', hstatus'⟩, hsame, hreports⟩ hstep
    cases hstep
    rw [SameRecord, ← hsame]
    exact (sameRecord_handle hl' hstatus' (hreports h List.mem_cons_self)).1
  · rintro db' h hs db'' ⟨⟨l', hl', hstatus'⟩, hsame, hreports⟩ hstep hunanswered
    cases hstep
    obtain ⟨hiff, hnext⟩ := sameRecord_handle hl' hstatus' (hreports h List.mem_cons_self)
    refine ⟨hnext hunanswered, ?_, fun h' hh' => hreports h' (List.mem_cons_of_mem _ hh')⟩
    rw [SameRecord, ← hsame]
    exact hiff.mpr hunanswered
  · rintro db' hs ⟨-, hsame, -⟩
    exact hsame
  · exact ⟨⟨l, hl, hstatus⟩, rfl, hreports⟩

/-! ## Concrete sequences -/

/-- The executable form of {lit}`Unanswered`, without the reports that repeat a row. -/
def unanswered (id : DeploymentID) (db : Db) (h : Handling) : Bool :=
  match h.call with
  | .progress event => (db.activeRowOf id event.deviceID).isNone
  | .error event => (db.activeRowOf id event.deviceID).isNone
  | _ => true

theorem unanswered_spec {id : DeploymentID} {db : Db} {h : Handling}
    (hcheck : unanswered id db h = true) : Unanswered id db h := by
  unfold unanswered at hcheck
  unfold Unanswered
  split at hcheck
  · exact Or.inl (Option.isNone_iff_eq_none.mp hcheck)
  · exact Option.isNone_iff_eq_none.mp hcheck
  · trivial

/-- Two robots; the first has installed the update when the operator rolls it back. -/
def halfInstalledDb : Db :=
  handle (rolloutDb (ControlPlane.rolloutRequest "full") ["r1", "r2"] (by decide))
    { call := .progress ⟨"r1", "success", 100⟩ }

/-- The rollback of the deployment, alone. -/
def rollbackRun (db : Db) : Outcome × Db × List (List PhaseWrite) :=
  (executeRollback 0 .manualOperatorRequest).run (execQuiet {}) (db, [])

theorem halfInstalledDb_rollback : (rollbackRun halfInstalledDb).1 = .ok () := by
  have hok : (match (rollbackRun halfInstalledDb).1 with
    | .ok _ => true
    | .error _ => false) = true := by decide +kernel
  split at hok
  · assumption
  · cases hok

/-- The reports of a robot that had finished. -/
theorem rolledBack_closed_finished_robot :
    EveryState handleStep (SameRecord 0 (rollbackRun halfInstalledDb).2.1)
      (rollbackRun halfInstalledDb).2.1
      [{ call := .progress ⟨"r1", "rolling_back", 50⟩ },
        { call := .progress ⟨"r1", "success", 100⟩ },
        { call := .error ⟨"r1", "invalid agent state for update: IDLE"⟩ }] := by
  have hrollback : (executeRollback 0 .manualOperatorRequest).run (execQuiet {})
      (halfInstalledDb, []) =
        (.ok (), ((rollbackRun halfInstalledDb).2.1, (rollbackRun halfInstalledDb).2.2)) :=
    Prod.ext halfInstalledDb_rollback rfl
  refine (rolledBack_closed rfl hrollback (by simp [Call.isReport])).mpr ?_
  exact EachStep.of_eachStep (fun _ _ => unanswered_spec) (by decide +kernel)

/-- A robot that had not started: the report it sends while it rolls back is recorded in its
row of the rolled-back deployment. -/
theorem rolledBack_not_closed :
    (rollbackRun halfInstalledDb).1 = .ok () ∧
      ¬ EveryState handleStep (SameRecord 0 (rollbackRun halfInstalledDb).2.1)
        (rollbackRun halfInstalledDb).2.1 [{ call := .progress ⟨"r2", "rolling_back", 50⟩ }] := by
  refine ⟨halfInstalledDb_rollback, ?_⟩
  intro hclosed
  have hsame : SameRecord 0 (rollbackRun halfInstalledDb).2.1
      (handle (rollbackRun halfInstalledDb).2.1 { call := .progress ⟨"r2", "rolling_back", 50⟩ }) :=
    hclosed.2 _ rfl
  revert hsame
  simp only [SameRecord]
  decide +kernel

end OtaRobot
