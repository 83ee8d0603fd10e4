import OtaRobot.Rollout.FailingStatements

/-!
# The rollback threshold

{lit}`HandleDeviceError` reads the deployment after it has counted the failure and adds one once
more.  The rollback starts at the threshold, or one failure before it.

Main results:

- Theorem {lit}`invokesRollback_iff`: when an error report starts the rollback.
- Theorem {lit}`rollback_at_threshold`: this is the threshold exactly outside one interval.
-/

namespace OtaRobot

open Prog

/-! ## Calls in which nothing fails -/

/-- The state of a call in which nothing fails: the database and what has been executed. -/
abbrev Alone {α : Type} (post : List (Answered Op.Ret) → α → Prop) (db : Db)
    (log : List (Answered Op.Ret)) (p : Rollout α) : Prop :=
  Obeys (tracking (logged execFailing)) (fun s a => post s.2 a) ((db, []), log) p

/-- A statement of a call that runs alone. -/
theorem alone_statement {α : Type} {post : List (Answered Op.Ret) → α → Prop} {db db' : Db}
    {log : List (Answered Op.Ret)} {q : Query} {k : (Op.sql q).Ret → Rollout α}
    {r : (Op.sql q).Ret} (h : db.exec 0 q = (r, db'))
    (hk : Alone post db' (log ++ [⟨.sql q, r⟩]) (k r)) : Alone post db log (.call (.sql q) k) := by
  apply tracking_call (r := r) _ hk
  show ((db.exec 0 q).1, (((db.exec 0 q).2, ([] : List Bool)),
    log ++ [(⟨.sql q, (db.exec 0 q).1⟩ : Answered Op.Ret)])) = _
  rw [h]
  rfl

/-- The error report makes {lit}`HandleDeviceError` invoke {lit}`ExecuteRollback`, which alone
sets a deployment rolled back. -/
def InvokesRollback (db : Db) (id : DeploymentID) (event : DeviceErrorEvent) : Prop :=
  ∃ e ∈ (runFailing db (.error event) []).2, e.op = .sql (.updateDeploymentStatus id .rolledBack)

/-- The failures of a deployment are counted, and the report is about a row of it that is the
active row of its device and still open. -/
structure Awaits (db : Db) (d : Deployment) (row : DeploymentDevice) (event : DeviceErrorEvent)
    (f : Nat) : Prop where
  stored : db.deployment d.id = some d
  running : d.status = .running
  devices : 1 ≤ d.totalDevices
  threshold : 1 / 20 ≤ d.rollbackThreshold ∧ d.rollbackThreshold ≤ 1 / 2
  counted : d.failureCount = f ∧ f = (db.rowsOf d.id).countP fun row => row.status = "failed"
  active : db.activeRow event.deviceID = some row
  own : row.deploymentID = d.id
  isOpen : row.status ∉ terminalRowStatuses

/-! ## One error report -/

/-- The deployment once the failure is counted. -/
def Deployment.failed (d : Deployment) : Deployment :=
  { d with failureCount := d.failureCount + 1 }

/-- The log shows the rollback of the deployment exactly if {lit}`b` says so. -/
def ShowsRollback (id : DeploymentID) (b : Prop) (log : List (Answered Op.Ret)) : Prop :=
  (∃ e ∈ log, e.op = .sql (.updateDeploymentStatus id .rolledBack)) ↔ b

section

variable {db : Db} {d : Deployment} {row : DeploymentDevice} {event : DeviceErrorEvent} {f : Nat}
  {log : List (Answered Op.Ret)}

/-- A rollback of a deployment that is not rolled back writes its status. -/
theorem executeRollback_shows (hd : db.deployment d.id = some d) (hstatus : d.status ≠ .rolledBack)
    (reason : RollbackReason) :
    Alone (fun log (_ : Outcome) => ShowsRollback d.id True log) db log
      (executeRollback d.id reason) := by
  rw [executeRollback, getDeployment_bind]
  refine alone_statement (Prod.ext hd rfl) ?_
  dsimp only
  rw [if_neg hstatus, query_bind]
  refine alone_statement (Prod.ext rfl rfl) ?_
  apply obeys_tracking.mpr
  obtain ⟨more, hmore⟩ := run_logged_append execFailing _ _
  apply iff_true_intro
  rw [hmore]
  exact ⟨_, List.mem_append_left _ (List.mem_append_right _ (List.mem_singleton_self _)), rfl⟩

/-- The threshold test, on the deployment as it is read after the count. -/
theorem evaluateFailure_shows (hd : db.deployment d.id = some d) (hrunning : d.status = .running)
    (hown : row.deploymentID = d.id)
    (hlog : ∀ e ∈ log, e.op ≠ .sql (.updateDeploymentStatus d.id .rolledBack)) :
    Alone (fun log (_ : Outcome) => ShowsRollback d.id (d.breached = true) log) db log
      (evaluateFailure row) := by
  rw [evaluateFailure, getDeployment_bind, hown]
  refine alone_statement (Prod.ext hd rfl) ?_
  have hlog' : ∀ more : List (Answered Op.Ret),
      (∀ e ∈ more, e.op ≠ .sql (.updateDeploymentStatus d.id .rolledBack)) → ¬ d.breached = true →
        ShowsRollback d.id (d.breached = true) (log ++ more) := by
    intro more hmore hbreached
    refine iff_of_false ?_ hbreached
    rintro ⟨e, he, hop⟩
    rcases List.mem_append.mp he with he | he
    · exact hlog e he hop
    · exact hmore e he hop
  dsimp only
  split
  · rename_i hbreached
    refine (executeRollback_shows hd (by simp [hrunning]) _).mono ?_
    intro s _ hshows
    exact hshows.trans (iff_of_true trivial hbreached.2)
  · rename_i hbelow
    have hbreached : ¬ d.breached = true := fun h => hbelow ⟨hrunning, h⟩
    split
    · rw [query_bind]
      refine alone_statement (Prod.ext rfl rfl) ?_
      show ShowsRollback d.id _ (log ++ [_] ++ [_])
      rw [List.append_assoc]
      exact hlog' _ (by simp) hbreached
    · exact hlog' [_] (by simp) hbreached

/-- An error report rolls the deployment back if the deployment, as it is once the failure is
counted, has reached the threshold with one more failure. -/
theorem handleDeviceError_shows (h : Awaits db d row event f) :
    Alone (fun log (_ : Outcome) => ShowsRollback d.id (d.failed.breached = true) log) db []
      (handleDeviceError event) := by
  obtain ⟨hmem, hactive⟩ := Db.activeRow_spec h.active
  have hdevice : row.deviceID = event.deviceID := ((db.isActive_iff _ _).mp hactive).1
  have hopen : ¬ (row.status = "success" ∨ row.status = "failed") := by
    intro hterminal
    apply h.isOpen
    rcases hterminal with hrow | hrow <;> simp [terminalRowStatuses, hrow]
  let p : UpdateDeploymentDeviceStatusParams :=
    { deploymentID := row.deploymentID
      deviceID := event.deviceID
      status := "failed"
      progress := row.progress
      errorMessage := some event.error }
  have hselects : p.selects row = true := by
    simp [UpdateDeploymentDeviceStatusParams.selects, p, hdevice]
  obtain ⟨row', hrow'⟩ := Db.updateDeploymentDeviceStatus_isSome hmem hselects
  have hread : (db.exec 0 (.updateDeploymentDeviceStatus p)).2.deployment d.id = some d :=
    h.stored
  have hcounted : ((db.exec 0 (.updateDeploymentDeviceStatus p)).2.exec 0
      (.incrementDeploymentFailure row.deploymentID)).2.deployment d.id = some d.failed := by
    rw [Db.deployment_exec hread, Query.onDeployment, if_pos h.own]
    rfl
  rw [handleDeviceError, query_bind]
  refine alone_statement (Prod.ext h.active rfl) ?_
  dsimp only
  rw [errorOnRow, if_neg hopen, query_bind]
  refine alone_statement (Prod.ext hrow' rfl) ?_
  dsimp only
  rw [query_bind]
  refine alone_statement (Prod.ext rfl rfl) ?_
  exact evaluateFailure_shows (d := d.failed) hcounted h.running h.own (by simp)

/-- When an error report starts the rollback. -/
theorem invokesRollback_iff (h : Awaits db d row event f) :
    InvokesRollback db d.id event ↔
      d.rollbackThreshold ≤ ((f + 2 : Nat) : ℚ) / (d.totalDevices : ℚ) := by
  have hcall : Alone (fun log (_ : Unit) => ShowsRollback d.id (d.failed.breached = true) log) db []
      (ControlPlane.callback (handleDeviceError event)) := by
    refine (handleDeviceError_shows h).bind fun s _ hshows => ⟨trivial, fun _ _ => ?_⟩
    refine Iff.trans ?_ hshows
    simp [tracking, logged]
  have hshows := obeys_tracking.mp hcall
  refine hshows.trans ?_
  have hrate : d.failed.failureRate = ((f + 2 : Nat) : ℚ) / (d.totalDevices : ℚ) := by
    rw [← h.counted.1]
    rfl
  rw [Deployment.breached, hrate]
  exact decide_eq_true_iff

/-- An error report starts the rollback exactly at the threshold, unless the failures are one
below it: not yet at the threshold, and at the threshold with one more. -/
theorem rollback_at_threshold (h : Awaits db d row event f) :
    (InvokesRollback db d.id event ↔
        d.rollbackThreshold ≤ ((f + 1 : Nat) : ℚ) / (d.totalDevices : ℚ)) ↔
      ¬ (((f + 1 : Nat) : ℚ) / (d.totalDevices : ℚ) < d.rollbackThreshold ∧
        d.rollbackThreshold ≤ ((f + 2 : Nat) : ℚ) / (d.totalDevices : ℚ)) := by
  have hpos : (0 : ℚ) < (d.totalDevices : ℚ) := Nat.cast_pos.mpr h.devices
  have hnext : ((f + 1 : Nat) : ℚ) / (d.totalDevices : ℚ) ≤
      ((f + 2 : Nat) : ℚ) / (d.totalDevices : ℚ) := by
    apply div_le_div_of_nonneg_right _ hpos.le
    exact_mod_cast Nat.le_succ (f + 1)
  rw [invokesRollback_iff h]
  constructor
  · intro hexact hbelow
    exact absurd (hexact.mp hbelow.2) (not_le.mpr hbelow.1)
  · intro hbelow
    constructor
    · intro hreached
      by_contra hthreshold
      exact hbelow ⟨not_le.mp hthreshold, hreached⟩
    · intro hthreshold
      exact hthreshold.trans hnext

end

/-! ## Concrete reports -/

/-- A running deployment to ten robots, with its threshold. -/
def tenDevices (threshold : ℚ) : Deployment where
  id := 0
  firmwareVersionID := 0
  status := .running
  totalDevices := 10
  rollbackThreshold := threshold

/-- The deployment and the row of one of its robots. -/
def tenDevicesDb (threshold : ℚ) : Db where
  firmware := Table.empty
  devices := Table.single { id := "r1", currentVersion := "1.0.0", status := "updating" }
  deployments := Table.single (tenDevices threshold)
  deploymentDevices := [{ deploymentID := 0, deviceID := "r1" }]

/-- Ten devices await their first failure. -/
theorem tenDevicesDb_awaits {threshold : ℚ} (h : 1 / 20 ≤ threshold ∧ threshold ≤ 1 / 2) :
    Awaits (tenDevicesDb threshold) (tenDevices threshold) { deploymentID := 0, deviceID := "r1" }
      ⟨"r1", "verification failed"⟩ 0 where
  stored := rfl
  running := rfl
  devices := Nat.succ_le_succ (Nat.zero_le 9)
  threshold := h
  counted := ⟨rfl, rfl⟩
  active := rfl
  own := rfl
  isOpen := by decide

/-- One failure of ten starts the rollback at a threshold of one tenth. -/
theorem rollback_at_threshold_tenth :
    InvokesRollback (tenDevicesDb (1 / 10)) 0 ⟨"r1", "verification failed"⟩ := by
  have hawaits := tenDevicesDb_awaits (show (1 : ℚ) / 20 ≤ 1 / 10 ∧ (1 : ℚ) / 10 ≤ 1 / 2 by norm_num)
  have hexact := (rollback_at_threshold hawaits).mpr (by norm_num [tenDevices])
  exact hexact.mpr (by norm_num [tenDevices])

/-- One failure of ten starts the rollback at a threshold of one fifth as well. -/
theorem rollback_before_threshold :
    ¬ ∀ (db : Db) (d : Deployment) (row : DeploymentDevice) (event : DeviceErrorEvent) (f : Nat),
      Awaits db d row event f →
        (InvokesRollback db d.id event ↔
          d.rollbackThreshold ≤ ((f + 1 : Nat) : ℚ) / (d.totalDevices : ℚ)) := by
  intro hexact
  have hawaits := tenDevicesDb_awaits (show (1 : ℚ) / 20 ≤ 1 / 5 ∧ (1 : ℚ) / 5 ≤ 1 / 2 by norm_num)
  have hearly := (invokesRollback_iff hawaits).mpr (by norm_num [tenDevices])
  have hthreshold := (hexact _ _ _ _ _ hawaits).mp hearly
  norm_num [tenDevices] at hthreshold

end OtaRobot
