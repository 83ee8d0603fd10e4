import OtaRobot.Rollout.Creation

/-!
# Report accounting

{lit}`success_count` and {lit}`failure_count` are meant to count the rows in status
{lit}`success` and {lit}`failed`.  {lit}`HandleDeviceError` skips a row that is
terminal already; {lit}`HandleDeviceProgress` does not, and it writes the row before it
looks at the deployment.

Main results:

- Theorem {lit}`Ledger.accounted_afterProgress`: when a progress report keeps the
  account.
- Theorem {lit}`report_accounting`: the account is kept in every state between reports
  exactly when no progress report comes too late.
-/

namespace OtaRobot

open Prog Transition

/-! ## The account -/

namespace Ledger

/-- The counters say how many rows have succeeded and failed. -/
structure Accounted (l : Ledger) : Prop where
  success : l.successCount = l.rows.countP fun row => row.status = "success"
  failure : l.failureCount = l.rows.countP fun row => row.status = "failed"
  once : l.successCount + l.failureCount ≤ l.rows.length

/-- Success and failure exclude each other, so no row is counted twice. -/
theorem accounted_iff {l : Ledger} :
    l.Accounted ↔
      l.successCount = l.rows.countP (fun row => row.status = "success") ∧
        l.failureCount = l.rows.countP fun row => row.status = "failed" := by
  constructor
  · intro h
    exact ⟨h.success, h.failure⟩
  · rintro ⟨hsuccess, hfailure⟩
    refine ⟨hsuccess, hfailure, ?_⟩
    have hlength := List.length_eq_countP_add_countP
      (fun row : DeploymentDevice => decide (row.status = "success")) (l := l.rows)
    have hexclude : l.rows.countP (fun row => row.status = "failed") ≤
        l.rows.countP fun row => decide ¬ decide (row.status = "success") = true := by
      apply List.countP_mono_left
      intro row _ hrow
      have hfailed : row.status = "failed" := by simpa using hrow
      simp [hfailed]
    omega

/-- A new deployment is accounted for. -/
theorem Fresh.accounted {l : Ledger} (h : l.Fresh) : l.Accounted := by
  have hnone : ∀ status : String, status ≠ "pending" →
      l.rows.countP (fun row => row.status = status) = 0 := by
    intro status hstatus
    rw [List.countP_eq_zero]
    intro row hrow
    simp [h.pending row hrow, Ne.symm hstatus]
  rw [accounted_iff, h.success, h.failure]
  exact ⟨(hnone "success" (by decide)).symm, (hnone "failed" (by decide)).symm⟩

/-- A status update rewrites the row of its device, and no other. -/
theorem countP_setRow {l : Ledger} {p : UpdateDeploymentDeviceStatusParams}
    {row : DeploymentDevice} (hdevices : (l.rows.map fun row => row.deviceID).Nodup)
    (hrow : row ∈ l.rows) (hsel : p.selects row = true) (q : DeploymentDevice → Bool) :
    (l.setRow p).rows.countP q + (if q row then 1 else 0) =
      l.rows.countP q + if q (p.set row) then 1 else 0 := by
  have hdevice : ∀ r : DeploymentDevice, p.selects r = true → r.deviceID = p.deviceID := by
    intro r hr
    simp [UpdateDeploymentDeviceStatusParams.selects] at hr
    exact hr.2
  have hunique : (l.rows.filter p.selects).length ≤ 1 := by
    have hsub : ((l.rows.filter p.selects).map fun r => r.deviceID).Nodup :=
      hdevices.sublist (List.filter_sublist.map _)
    have hconst : ((l.rows.filter p.selects).map fun r => r.deviceID) =
        List.replicate (l.rows.filter p.selects).length p.deviceID := by
      rw [List.eq_replicate_iff]
      refine ⟨by simp, ?_⟩
      intro d hd
      obtain ⟨r, hr, rfl⟩ := List.mem_map.mp hd
      exact hdevice r (List.mem_filter.mp hr).2
    rw [hconst, List.nodup_replicate] at hsub
    exact hsub
  exact countP_update_unique hrow hsel hunique

/-- Writing a row changes no robot. -/
@[simp]
theorem devices_setRow (l : Ledger) (p : UpdateDeploymentDeviceStatusParams) :
    ((l.setRow p).rows.map fun row => row.deviceID) = l.rows.map fun row => row.deviceID := by
  simp only [setRow, List.map_map]
  apply List.map_congr_left
  intro row _
  simp only [Function.comp]
  split <;> rfl

end Ledger

/-! ## Reports -/

/-- The pairs of status and progress an agent publishes. -/
def DeviceProgressEvent.ofAgent (event : DeviceProgressEvent) : Prop :=
  (event.status = "downloading" ∧ event.progress = 0) ∨
    (event.status = "verified" ∧ event.progress = 20) ∨
      (event.status = "installing" ∧ 25 ≤ event.progress ∧ event.progress ≤ 90) ∨
        (event.status = "rolling_back" ∧ event.progress = 50) ∨
          (event.status = "success" ∧ event.progress = 100)

/-- The call is a report as agents send them. -/
def Call.IsReport : Call → Prop
  | .progress event => event.ofAgent
  | .error _ => True
  | _ => False

/-- The progress report is not late: its row is not terminal, and a success finds the
deployment neither rolled back nor failed. -/
structure InTime (l : Ledger) (row : DeploymentDevice) (event : DeviceProgressEvent) : Prop where
  row : row.status ≠ "success" ∧ row.status ≠ "failed"
  deployment : event.status = "success" → l.status ≠ .rolledBack ∧ l.status ≠ .failed

namespace Ledger

variable {id : DeploymentID} {l : Ledger} {row : DeploymentDevice}

/-- How a row update changes the two counts. -/
theorem counts_setRow (hl : l.Accounted)
    (hdevices : (l.rows.map fun row => row.deviceID).Nodup) (hrow : row ∈ l.rows)
    {p : UpdateDeploymentDeviceStatusParams} (hsel : p.selects row = true) :
    (l.setRow p).rows.countP (fun row => row.status = "success") +
        (if row.status = "success" then 1 else 0) =
          l.successCount + (if p.status = "success" then 1 else 0) ∧
      (l.setRow p).rows.countP (fun row => row.status = "failed") +
        (if row.status = "failed" then 1 else 0) =
          l.failureCount + if p.status = "failed" then 1 else 0 := by
  have hsuccess := countP_setRow hdevices hrow hsel fun row => row.status = "success"
  have hfailed := countP_setRow hdevices hrow hsel fun row => row.status = "failed"
  rw [← hl.success] at hsuccess
  rw [← hl.failure] at hfailed
  simp only [decide_eq_true_eq] at hsuccess hfailed
  exact ⟨hsuccess, hfailed⟩

/-- A credited success counts one more; the rows are kept. -/
theorem creditSuccess_counts (hopen : ¬ (l.status = .rolledBack ∨ l.status = .failed)) :
    l.creditSuccess.rows = l.rows ∧ l.creditSuccess.failureCount = l.failureCount ∧
      l.creditSuccess.successCount = l.successCount + 1 := by
  rw [creditSuccess, if_neg hopen]
  split <;> exact ⟨rfl, rfl, rfl⟩

/-- The evaluation of a failure counts nothing. -/
theorem evaluateFailure_counts (l : Ledger) :
    l.evaluateFailure.rows = l.rows ∧ l.evaluateFailure.failureCount = l.failureCount ∧
      l.evaluateFailure.successCount = l.successCount := by
  unfold evaluateFailure
  split
  · exact ⟨rfl, rfl, rfl⟩
  · split <;> exact ⟨rfl, rfl, rfl⟩

/-- A row update without a credit keeps the account exactly when the row was open. -/
theorem accounted_setRow (hl : l.Accounted)
    (hdevices : (l.rows.map fun row => row.deviceID).Nodup) (hrow : row ∈ l.rows)
    {p : UpdateDeploymentDeviceStatusParams} (hsel : p.selects row = true)
    (hsuccess : p.status ≠ "success") (hfailed : p.status ≠ "failed") :
    (l.setRow p).Accounted ↔ row.status ≠ "success" ∧ row.status ≠ "failed" := by
  obtain ⟨hS, hF⟩ := counts_setRow hl hdevices hrow hsel
  rw [if_neg hsuccess] at hS
  rw [if_neg hfailed] at hF
  rw [accounted_iff, setRow_successCount, setRow_failureCount]
  constructor
  · rintro ⟨hS', hF'⟩
    constructor
    · intro hrow
      rw [if_pos hrow] at hS
      omega
    · intro hrow
      rw [if_pos hrow] at hF
      omega
  · rintro ⟨hopen, hopen'⟩
    rw [if_neg hopen] at hS
    rw [if_neg hopen'] at hF
    omega

/-- A success report keeps the account exactly when row and deployment were open. -/
theorem accounted_creditSuccess (hl : l.Accounted)
    (hdevices : (l.rows.map fun row => row.deviceID).Nodup) (hrow : row ∈ l.rows)
    {p : UpdateDeploymentDeviceStatusParams} (hsel : p.selects row = true)
    (hp : p.status = "success")
    (hactive : l.status = .running ∨ row.status ∉ terminalRowStatuses) :
    (l.setRow p).creditSuccess.Accounted ↔
      (row.status ≠ "success" ∧ row.status ≠ "failed") ∧
        l.status ≠ .rolledBack ∧ l.status ≠ .failed := by
  obtain ⟨hS, hF⟩ := counts_setRow hl hdevices hrow hsel
  have hfailed : p.status ≠ "failed" := by rw [hp]; decide
  rw [if_pos hp] at hS
  rw [if_neg hfailed] at hF
  by_cases hover : l.status = .rolledBack ∨ l.status = .failed
  · -- The row is active although the deployment does not run, so it was open; now it
    -- is a success that is not counted.
    have hrowsuccess : row.status ≠ "success" := by
      intro hrow
      have hopen : row.status ∉ terminalRowStatuses := by
        refine hactive.resolve_left ?_
        rcases hover with h | h <;> simp [h]
      simp [terminalRowStatuses, hrow] at hopen
    rw [if_neg hrowsuccess] at hS
    have hsame : (l.setRow p).creditSuccess = l.setRow p := if_pos hover
    rw [hsame, accounted_iff, setRow_successCount, setRow_failureCount]
    constructor
    · rintro ⟨hS', -⟩
      omega
    · rintro ⟨-, hrolled, hfailed⟩
      exact absurd hover (by simp [hrolled, hfailed])
  · obtain ⟨hrows, hfailure, hcredit⟩ := creditSuccess_counts (l := l.setRow p) hover
    rw [accounted_iff, hrows, hfailure, hcredit, setRow_successCount, setRow_failureCount]
    constructor
    · rintro ⟨hS', hF'⟩
      refine ⟨⟨?_, ?_⟩, not_or.mp hover⟩
      · intro hrow
        rw [if_pos hrow] at hS
        omega
      · intro hrow
        rw [if_pos hrow] at hF
        omega
    · rintro ⟨⟨hopen, hopen'⟩, -⟩
      rw [if_neg hopen] at hS
      rw [if_neg hopen'] at hF
      omega

/-- A progress report keeps the account exactly when it is in time. -/
theorem accounted_afterProgress (hl : l.Accounted)
    (hdevices : (l.rows.map fun row => row.deviceID).Nodup) (hrow : row ∈ l.rows)
    (hid : row.deploymentID = id) {event : DeviceProgressEvent}
    (hdevice : row.deviceID = event.deviceID) (hagent : event.ofAgent)
    (hactive : l.status = .running ∨ row.status ∉ terminalRowStatuses) :
    (l.afterProgress id event).Accounted ↔ InTime l row event := by
  have hsel : (⟨id, event.deviceID, event.status, event.progress, none⟩ :
      UpdateDeploymentDeviceStatusParams).selects row = true := by
    simp [UpdateDeploymentDeviceStatusParams.selects, hid, hdevice]
  by_cases hevent : event.status = "success"
  · have hprogress : event.progress = 100 := by
      rcases hagent with h | h | h | h | h
      all_goals simp [hevent] at h
      exact h
    rw [afterProgress, if_pos ⟨hevent, hprogress⟩,
      accounted_creditSuccess hl hdevices hrow hsel hevent hactive]
    exact ⟨fun h => ⟨h.1, fun _ => h.2⟩, fun h => ⟨h.row, h.deployment hevent⟩⟩
  · have hnotfailed : event.status ≠ "failed" := by
      rcases hagent with h | h | h | h | h <;> rw [h.1] <;> decide
    rw [afterProgress, if_neg (fun h => hevent h.1),
      accounted_setRow hl hdevices hrow hsel hevent hnotfailed]
    exact ⟨fun h => ⟨h, fun h' => absurd h' hevent⟩, fun h => h.row⟩

/-- An error report keeps the account. -/
theorem accounted_afterError (hl : l.Accounted)
    (hdevices : (l.rows.map fun row => row.deviceID).Nodup) (hrow : row ∈ l.rows)
    (hid : row.deploymentID = id) {event : DeviceErrorEvent}
    (hdevice : row.deviceID = event.deviceID) : (l.afterError id row event).Accounted := by
  unfold afterError
  split
  · exact hl
  · rename_i hopen
    obtain ⟨hsuccess, hfailed⟩ := counts_setRow hl hdevices hrow
      (p := ⟨id, event.deviceID, "failed", row.progress, some event.error⟩)
      (by simp [UpdateDeploymentDeviceStatusParams.selects, hid, hdevice])
    rw [if_neg (fun h => hopen (Or.inl h)), if_neg (by simp)] at hsuccess
    rw [if_neg (fun h => hopen (Or.inr h)), if_pos rfl] at hfailed
    obtain ⟨hrows, hfailure, hsame⟩ := evaluateFailure_counts (l.countFailure id row event)
    rw [accounted_iff, hrows, hfailure, hsame]
    exact ⟨by simpa [countFailure, setRow] using hsuccess.symm,
      by simpa [countFailure, setRow] using hfailed.symm⟩

end Ledger

/-! ## Along a sequence of reports -/

/-- No progress report comes too late for its row of the deployment. -/
def NoLateProgress (id : DeploymentID) (db : Db) (h : Handling) : Prop :=
  ∀ event row l, h.call = .progress event → db.activeRowOf id event.deviceID = some row →
    db.ledger id = some l → InTime l row event

/-- The counters of the deployment account for its rows. -/
def AccountKept (id : DeploymentID) (db : Db) : Prop :=
  ∀ l, db.ledger id = some l → l.Accounted

/-- The deployment has a row for each of pairwise distinct devices. -/
def DistinctDevices (id : DeploymentID) (db : Db) : Prop :=
  ∃ l, db.ledger id = some l ∧ (l.rows.map fun row => row.deviceID).Nodup

/-- What the active-row lookup says about a row of the deployment. -/
theorem Db.activeRowOf_ledger {db : Db} {id : DeploymentID} {l : Ledger} {deviceID : DeviceID}
    {row : DeploymentDevice} (hl : db.ledger id = some l)
    (h : db.activeRowOf id deviceID = some row) :
    row ∈ l.rows ∧ row.deploymentID = id ∧ row.deviceID = deviceID ∧
      (l.status = .running ∨ row.status ∉ terminalRowStatuses) := by
  obtain ⟨hrow, hactive⟩ := Db.activeRowOf_spec h
  obtain ⟨-, hid⟩ := Db.mem_rowsOf.mp hrow
  obtain ⟨hdevice, d, hd, hopen⟩ := (db.isActive_iff _ _).mp hactive
  obtain ⟨d', hd', rfl⟩ := Db.ledger_eq_some.mp hl
  obtain rfl : d = d' := by
    rw [hid, hd'] at hd
    exact (Option.some.inj hd).symm
  exact ⟨hrow, hid, hdevice, hopen⟩

/-- No call changes the devices of a deployment. -/
theorem devices_ledgerAfter (db : Db) (id : DeploymentID) (l : Ledger) (call : Call) :
    ((db.ledgerAfter id l call).rows.map fun row => row.deviceID) =
      l.rows.map fun row => row.deviceID := by
  unfold Db.ledgerAfter
  split
  · split
    · rfl
    · simp only [Ledger.afterProgress]
      split <;> simp
  · split
    · rfl
    · simp only [Ledger.afterError]
      split
      · rfl
      · simp [Ledger.countFailure]
  · split <;> simp
  · split <;> simp
  · rfl

/-- One report. -/
theorem accountKept_handle {db : Db} {id : DeploymentID} {h : Handling}
    (hdistinct : DistinctDevices id db) (hkept : AccountKept id db) (hreport : h.call.IsReport) :
    DistinctDevices id (handle db h) ∧
      (AccountKept id (handle db h) ↔ NoLateProgress id db h) := by
  obtain ⟨l, hl, hdevices⟩ := hdistinct
  have haccounted : l.Accounted := hkept l hl
  have hhandler : h.call.isHandler = true := by
    cases hcall : h.call <;> simp [hcall, Call.IsReport, Call.isHandler] at hreport ⊢
  have hafter := ledger_handle hl hhandler
  have hkept' : AccountKept id (handle db h) ↔ (db.ledgerAfter id l h.call).Accounted := by
    constructor
    · exact fun h => h _ hafter
    · intro h l' hl'
      rw [hafter] at hl'
      exact Option.some.inj hl' ▸ h
  refine ⟨⟨_, hafter, by rw [devices_ledgerAfter]; exact hdevices⟩, ?_⟩
  rw [hkept']
  cases hcall : h.call with
  | progress event =>
      have hagent : event.ofAgent := by simpa [hcall, Call.IsReport] using hreport
      cases hrow : db.activeRowOf id event.deviceID with
      | none =>
          simp only [Db.ledgerAfter, hrow, haccounted, true_iff]
          intro event' row l' hevent hrow'
          rw [hcall] at hevent
          cases hevent
          simp [hrow] at hrow'
      | some row =>
          obtain ⟨hmem, hid, hdevice, hactive⟩ := Db.activeRowOf_ledger hl hrow
          simp only [Db.ledgerAfter, hrow]
          rw [Ledger.accounted_afterProgress haccounted hdevices hmem hid hdevice hagent hactive]
          constructor
          · intro hintime event' row' l' hevent hrow' hl'
            rw [hcall] at hevent
            cases hevent
            rw [hrow] at hrow'
            rw [hl] at hl'
            cases hrow'
            cases hl'
            exact hintime
          · intro hlate
            exact hlate event row l hcall hrow hl
  | error event =>
      have hlate : NoLateProgress id db h := by
        intro event' row l' hevent
        rw [hcall] at hevent
        cases hevent
      simp only [hlate, iff_true]
      cases hrow : db.activeRowOf id event.deviceID with
      | none => simpa only [Db.ledgerAfter, hrow] using haccounted
      | some row =>
          obtain ⟨hmem, hid, hdevice, -⟩ := Db.activeRowOf_ledger hl hrow
          simpa only [Db.ledgerAfter, hrow] using
            Ledger.accounted_afterError haccounted hdevices hmem hid hdevice
  | _ => simp [hcall, Call.IsReport] at hreport

/-- The success and failure counts of a deployment over distinct devices say, in every
state between reports, how many of its rows have succeeded and failed, exactly when no
progress report is late: none finds its row terminal, and no success report finds the
deployment rolled back. -/
theorem report_accounting {db : Db} {id : DeploymentID} {l : Ledger} {hs : List Handling}
    (hl : db.ledger id = some l) (hfresh : l.Fresh) (hreports : ∀ h ∈ hs, h.call.IsReport) :
    EveryState handleStep (AccountKept id) db hs ↔
      EachStep handleStep (NoLateProgress id) db hs := by
  -- The invariant: distinct devices, a kept account, and only reports to come.
  refine everyState_iff_eachStep (I := fun db hs =>
    DistinctDevices id db ∧ AccountKept id db ∧ ∀ h ∈ hs, h.call.IsReport) ?_ ?_ ?_ ?_ ?_
  · intro db h hs _
    exact ⟨_, rfl⟩
  · rintro db h hs db' ⟨hdistinct, hkept, hreports⟩ hstep
    cases hstep
    exact (accountKept_handle hdistinct hkept (hreports h List.mem_cons_self)).2
  · rintro db h hs db' ⟨hdistinct, hkept, hreports⟩ hstep hintime
    cases hstep
    obtain ⟨hdistinct', hiff⟩ :=
      accountKept_handle hdistinct hkept (hreports h List.mem_cons_self)
    exact ⟨hdistinct', hiff.mpr hintime, fun h' hh' => hreports h' (List.mem_cons_of_mem _ hh')⟩
  · rintro db hs ⟨-, hkept, -⟩
    exact hkept
  · refine ⟨⟨l, hl, hfresh.devices⟩, ?_, hreports⟩
    intro l' hl'
    rw [hl] at hl'
    exact Option.some.inj hl' ▸ hfresh.accounted

/-! ## The account on concrete sequences -/

/-- The executable form of {lit}`AccountKept`. -/
def accountKept (id : DeploymentID) (db : Db) : Bool :=
  match db.ledger id with
  | none => true
  | some l =>
      l.successCount == l.rows.countP (fun row => row.status = "success") &&
        l.failureCount == l.rows.countP fun row => row.status = "failed"

/-- The property implies the executable form. -/
theorem accountKept_of_kept {id : DeploymentID} {db : Db} (h : AccountKept id db) :
    accountKept id db = true := by
  unfold accountKept
  split
  · rfl
  · rename_i l hl
    have haccounted : l.Accounted := h l hl
    simp [← haccounted.success, ← haccounted.failure]

/-- The executable form of {lit}`NoLateProgress`. -/
def noLateProgress (id : DeploymentID) (db : Db) (h : Handling) : Bool :=
  match h.call with
  | .progress event =>
      match db.activeRowOf id event.deviceID, db.ledger id with
      | some row, some l =>
          row.status ≠ "success" && row.status ≠ "failed" &&
            (event.status ≠ "success" || (l.status ≠ .rolledBack && l.status ≠ .failed))
      | _, _ => true
  | _ => true

theorem noLateProgress_spec {id : DeploymentID} {db : Db} {h : Handling}
    (hcheck : noLateProgress id db h = true) : NoLateProgress id db h := by
  intro event row l hevent hrow hl
  simp only [noLateProgress, hevent, hrow, hl, Bool.and_eq_true, Bool.or_eq_true,
    decide_eq_true_eq] at hcheck
  exact ⟨hcheck.1, fun hsuccess => hcheck.2.resolve_left (fun hne => hne hsuccess)⟩

/-- The hypotheses are met by a rollout to three robots of which one succeeds, one
fails, and one is on its way. -/
theorem report_accounting_three_robots :
    EveryState handleStep (AccountKept 0) (rolloutDb (ControlPlane.rolloutRequest "full") ["r1", "r2", "r3"] (by decide))
      [{ call := .progress ⟨"r1", "downloading", 0⟩ },
       { call := .progress ⟨"r1", "success", 100⟩ },
       { call := .error ⟨"r2", "checksum mismatch"⟩ },
       { call := .progress ⟨"r3", "installing", 40⟩ }] := by
  obtain ⟨l, hl⟩ := Option.isSome_iff_exists.mp
    (show ((rolloutDb (ControlPlane.rolloutRequest "full") ["r1", "r2", "r3"] (by decide)).ledger 0).isSome = true by
      decide +kernel)
  refine (report_accounting hl (rolloutDb_fresh List.nodup_nil hl) ?_).mpr ?_
  · simp [Call.IsReport, DeviceProgressEvent.ofAgent]
  · exact EachStep.of_eachStep (fun _ _ => noLateProgress_spec) (by decide +kernel)

/-- A success report that is delivered twice is counted twice. -/
theorem report_accounting_redelivered :
    ¬ ∀ (db : Db) (id : DeploymentID) (l : Ledger) (hs : List Handling),
      db.ledger id = some l → l.Fresh → (∀ h ∈ hs, h.call.IsReport) →
        EveryState handleStep (AccountKept id) db hs := by
  intro h
  obtain ⟨l, hl⟩ := Option.isSome_iff_exists.mp
    (show ((rolloutDb (ControlPlane.rolloutRequest "full") ["r1", "r2"] (by decide)).ledger 0).isSome = true by
      decide +kernel)
  have hkept := h (rolloutDb (ControlPlane.rolloutRequest "full") ["r1", "r2"] (by decide)) 0 l
    [{ call := .progress ⟨"r1", "success", 100⟩ }, { call := .progress ⟨"r1", "success", 100⟩ }]
    hl (rolloutDb_fresh List.nodup_nil hl) (by simp [Call.IsReport, DeviceProgressEvent.ofAgent])
  have hlast := accountKept_of_kept ((hkept.2 _ rfl).2 _ rfl)
  revert hlast
  decide +kernel

end OtaRobot
