import OtaRobot.Rollout.Threshold
import OtaRobot.Rollout.Undo

/-!
# Retrying a rollback

{lit}`ExecuteRollback` writes the status before it lists the rows, and the status is what makes
the next call return at once.  A call can be repeated as long as it fails before the status is
written, or gets past the list.

Main results:

- Theorems {lit}`executeRollback_stopped`, {lit}`executeRollback_unlisted`,
  {lit}`executeRollback_reverts` and {lit}`executeRollback_repeated`: what a call does, by the
  statements that fail.
- Theorem {lit}`rollback_retried`: when every row is processed before a call returns without an
  error.
-/

namespace OtaRobot

open Prog Transition

/-! ## Calls -/

/-- A call of {lit}`ExecuteRollback`; the list says which of its operations fail. -/
structure Attempt where
  reason : RollbackReason := .manualOperatorRequest
  faults : List Bool := []
deriving DecidableEq, Repr

/-- What a call returns, the database it leaves and what it has executed. -/
def runRollback (id : DeploymentID) (db : Db) (a : Attempt) :
    Outcome × Db × List (Answered Op.Ret) :=
  let final := (executeRollback id a.reason).run (logged execFailing) ((db, a.faults), [])
  (final.1, final.2.1.1, final.2.2)

/-- The call has returned no error. -/
def Outcome.isOk : Outcome → Bool
  | .ok _ => true
  | .error _ => false

/-- The database, what all calls so far have executed, and whether they returned without an
error. -/
structure Attempts where
  db : Db
  executed : List (Answered Op.Ret) := []
  outcomes : List Bool := []

/-- A call is always possible. -/
def attemptStep (id : DeploymentID) (s : Attempts) (a : Attempt) : Option Attempts :=
  let result := runRollback id s.db a
  some
    { db := result.2.1
      executed := s.executed ++ result.2.2
      outcomes := s.outcomes ++ [result.1.isOk] }

/-! ## Processed rows -/

/-- The rollback command of the row has been issued. -/
def Commanded (id : DeploymentID) (row : DeploymentDevice) (log : List (Answered Op.Ret)) : Prop :=
  ∃ e ∈ log, ∃ reason, e.op = .publishCommand id row.deviceID (.rollback row.prevVer reason)

/-- The row has been through the loop. -/
def Processed (id : DeploymentID) (row : DeploymentDevice) (log : List (Answered Op.Ret)) : Prop :=
  Commanded id row log ∧ ∃ e ∈ log, e.op = .sql (.updateDeviceVersion row.deviceID row.prevVer)

/-- The version the last row of a device is rolled back to. -/
def lastVersion (rows : List DeploymentDevice) (deviceID : DeviceID) : Option String :=
  (rows.filter fun row => row.deviceID = deviceID).getLast?.map fun row => row.prevVer

/-- A call has issued the command of every row and restored the versions of the devices. -/
def RevertsAll (id : DeploymentID) (rows : List DeploymentDevice)
    (result : Outcome × Db × List (Answered Op.Ret)) : Prop :=
  ∀ row ∈ rows, Commanded id row result.2.2 ∧
    (result.2.1.device row.deviceID).map (fun dev => dev.currentVersion) =
      lastVersion rows row.deviceID

/-- A call that has returned without an error, and those before it, have processed every row; as
long as all calls have returned an error, the next one that does not fail reverts every row. -/
structure Retriable (id : DeploymentID) (rows : List DeploymentDevice) (s : Attempts) : Prop where
  returned : s.outcomes.getLast? = some true → ∀ row ∈ rows, Processed id row s.executed
  retried : (∀ ok ∈ s.outcomes, ok = false) → ∀ reason,
    RevertsAll id rows (runRollback id s.db { reason := reason })

/-- A call that writes the status can list the rows. -/
def ListsRows (id : DeploymentID) (s : Attempts) (a : Attempt) : Prop :=
  (s.db.deployment id).map (fun d => d.status) ≠ some .rolledBack →
    fails a.faults 0 = false → fails a.faults 1 = false → fails a.faults 2 = false

/-! ## Statements that fail or not -/

/-- What holds of a call with failing operations. -/
abbrev RunsFailing {α : Type} (post : Db → List (Answered Op.Ret) → α → Prop) (db : Db)
    (faults : List Bool) (log : List (Answered Op.Ret)) (p : Rollout α) : Prop :=
  Obeys (tracking (logged execFailing)) (fun s a => post s.1.1 s.2 a) ((db, faults), log) p

section

variable {α : Type} {post : Db → List (Answered Op.Ret) → α → Prop} {db db' : Db}
  {faults : List Bool} {log : List (Answered Op.Ret)}

/-- A statement fails, and nothing is changed. -/
theorem statement_fails {q : Query} {k : (Op.sql q).Ret → Rollout α}
    (h : fails faults 0 = true)
    (hk : RunsFailing post db faults.tail (log ++ [⟨.sql q, (none : Option q.Row)⟩])
      (k (none : Option q.Row))) :
    RunsFailing post db faults log (.call (.sql q) k) := by
  refine tracking_call ?_ hk
  have hfault : faults.headD false = true := h
  simp only [logged, execFailing, hfault]
  rfl

theorem statement_passes {q : Query} {k : (Op.sql q).Ret → Rollout α} {r : (Op.sql q).Ret}
    (h : fails faults 0 = false) (hexec : db.exec 0 q = (r, db'))
    (hk : RunsFailing post db' faults.tail (log ++ [⟨.sql q, r⟩]) (k r)) :
    RunsFailing post db faults log (.call (.sql q) k) := by
  apply tracking_call (r := r) _ hk
  have hfault : faults.headD false = false := h
  simp only [logged, execFailing, hfault]
  show ((db.exec 0 q).1, (((db.exec 0 q).2, faults.tail),
    log ++ [(⟨.sql q, (db.exec 0 q).1⟩ : Answered Op.Ret)])) = _
  rw [hexec]
  rfl

/-- A publication answers either way. -/
theorem publish_answers {id : DeploymentID} {deviceID : DeviceID} {cmd : Command}
    {k : Bool → Rollout α}
    (hk : ∀ b : Bool, RunsFailing post db faults.tail
      (log ++ [⟨.publishCommand id deviceID cmd, b⟩]) (k b)) :
    RunsFailing post db faults log (.call (.publishCommand id deviceID cmd) k) :=
  tracking_call rfl (hk _)

end

/-! ## The loop over the rows -/

/-- The version of a later row goes before that of an earlier one. -/
theorem lastVersion_cons (d : DeploymentDevice) (devs : List DeploymentDevice)
    (deviceID : DeviceID) :
    lastVersion (d :: devs) deviceID =
      if d.deviceID = deviceID then some ((lastVersion devs deviceID).getD d.prevVer)
      else lastVersion devs deviceID := by
  by_cases h : d.deviceID = deviceID
  · simp only [lastVersion, h, decide_true, List.filter_cons_of_pos, if_true]
    rw [List.getLast?_cons]
    cases (devs.filter fun row => row.deviceID = deviceID).getLast? <;> rfl
  · simp [lastVersion, h]

/-- A robot with a row has a version to go back to. -/
theorem lastVersion_isSome {rows : List DeploymentDevice} {row : DeploymentDevice}
    (h : row ∈ rows) : ∃ v, lastVersion rows row.deviceID = some v := by
  have hmem : row ∈ rows.filter fun r => r.deviceID = row.deviceID :=
    List.mem_filter.mpr ⟨h, by simp⟩
  exact ⟨_, by rw [lastVersion, List.getLast?_eq_some_getLast (List.ne_nil_of_mem hmem)]; rfl⟩

/-- The rows go through the loop, and the versions are written if nothing fails. -/
structure Looped (id : DeploymentID) (devs : List DeploymentDevice) (db db' : Db)
    (faults : List Bool) (log log' : List (Answered Op.Ret)) : Prop where
  deployments : db'.deployments = db.deployments
  kept : ∀ e ∈ log, e ∈ log'
  processed : ∀ row ∈ devs, Processed id row log'
  restored : faults = [] → ∀ deviceID,
    (db'.device deviceID).map (fun dev => dev.currentVersion) =
      (db.device deviceID).map fun dev => (lastVersion devs deviceID).getD dev.currentVersion

/-- The loop of the rollback goes through all rows. -/
theorem revertDevices_loops (id : DeploymentID) (reason : RollbackReason)
    (devs : List DeploymentDevice) (db : Db) (faults : List Bool)
    (log : List (Answered Op.Ret)) :
    RunsFailing (fun db' log' _ => Looped id devs db db' faults log log') db faults log
      (revertDevices id reason devs) := by
  induction devs generalizing db faults log with
  | nil =>
      exact ⟨rfl, fun _ he => he, by simp, by simp [lastVersion]⟩
  | cons d devs ih =>
      rw [revertDevices, publishCommand_bind]
      refine publish_answers fun b => ?_
      rw [query_bind]
      -- What the statement leaves behind, whether it fails or not.
      have hrest : ∀ (db₁ : Db) (r : Option Device), db₁.deployments = db.deployments →
          (faults = [] → db₁ = db.updateDeviceVersion d.deviceID d.prevVer) →
          RunsFailing (fun db' log' _ => Looped id (d :: devs) db db' faults log log') db₁
            faults.tail.tail
            (log ++ [⟨.publishCommand id d.deviceID (.rollback d.prevVer reason), b⟩] ++
              [⟨.sql (.updateDeviceVersion d.deviceID d.prevVer), r⟩])
            (revertDevices id reason devs) := by
        intro db₁ r hdeployments hversion
        refine (ih db₁ faults.tail.tail _).mono ?_
        intro s _ hloop
        constructor
        · rw [hloop.deployments, hdeployments]
        · intro e he
          exact hloop.kept e (List.mem_append_left _ (List.mem_append_left _ he))
        · intro row hrow
          rcases List.mem_cons.mp hrow with rfl | hrow
          · have hcommand := hloop.kept _ (List.mem_append_left _
              (List.mem_append_right _ (List.mem_singleton_self _)))
            have hversion := hloop.kept _ (List.mem_append_right _ (List.mem_singleton_self _))
            exact ⟨⟨_, hcommand, reason, rfl⟩, _, hversion, rfl⟩
          · exact hloop.processed row hrow
        · intro hfaults deviceID
          rw [hloop.restored (by rw [hfaults]; rfl), hversion hfaults]
          rw [lastVersion_cons, Db.device_updateDeviceVersion]
          by_cases hd : d.deviceID = deviceID
          · rw [if_pos hd, if_pos hd.symm, Option.map_map, hd]
            cases lastVersion devs deviceID <;> rfl
          · rw [if_neg hd, if_neg (Ne.symm hd)]
      cases hfault : fails faults.tail 0 with
      | true =>
          refine statement_fails hfault (hrest db none rfl ?_)
          intro hfaults
          simp [hfaults, fails] at hfault
      | false => exact statement_passes hfault rfl (hrest _ _ rfl fun _ => rfl)

/-! ## A call, by the statements that fail -/

section

variable {id : DeploymentID} {db : Db} {d : Deployment}

/-- The deployment is rolled back, its rows stay. -/
def Db.markRolledBack (db : Db) (id : DeploymentID) : Db :=
  (db.exec 0 (.updateDeploymentStatus id .rolledBack)).2

/-- The deployment after the first statement of the rollback. -/
theorem Db.deployment_markRolledBack (hd : db.deployment id = some d) :
    (db.markRolledBack id).deployment id = some { d with status := .rolledBack } := by
  rw [Db.markRolledBack, Db.deployment_exec hd, Query.onDeployment,
    if_pos (Db.deployment_id hd).symm]

/-- The call fails before the status is written. -/
theorem executeRollback_stopped (reason : RollbackReason) (faults : List Bool)
    (log : List (Answered Op.Ret)) (hd : db.deployment id = some d)
    (hstatus : d.status ≠ .rolledBack)
    (h : fails faults 0 = true ∨ fails faults 1 = true) :
    RunsFailing (fun db' _ (r : Outcome) => db' = db ∧ r.isOk = false) db faults log
      (executeRollback id reason) := by
  rw [executeRollback, getDeployment_bind]
  cases h₀ : fails faults 0 with
  | true => exact statement_fails h₀ ⟨rfl, rfl⟩
  | false =>
      have h₁ : fails faults.tail 0 = true := by
        rw [fails_tail]
        simpa [h₀] using h
      refine statement_passes h₀ (Prod.ext hd rfl) ?_
      dsimp only
      rw [if_neg hstatus, query_bind]
      exact statement_fails h₁ ⟨rfl, rfl⟩

/-- The call fails after the status is written: it has issued no command. -/
theorem executeRollback_unlisted (reason : RollbackReason) (faults : List Bool)
    (log : List (Answered Op.Ret)) (hd : db.deployment id = some d)
    (hstatus : d.status ≠ .rolledBack)
    (h₀ : fails faults 0 = false) (h₁ : fails faults 1 = false) (h₂ : fails faults 2 = true) :
    RunsFailing (fun db' _ (r : Outcome) => db' = db.markRolledBack id ∧ r.isOk = false) db faults
      log (executeRollback id reason) := by
  have hid : d.id = id := Db.deployment_id hd
  rw [executeRollback, getDeployment_bind]
  refine statement_passes h₀ (Prod.ext hd rfl) ?_
  dsimp only
  rw [if_neg hstatus, query_bind, hid]
  refine statement_passes (by rw [fails_tail]; exact h₁)
    (Prod.ext (Db.deployment_markRolledBack hd) rfl) ?_
  dsimp only
  rw [query_bind]
  exact statement_fails (by rw [fails_tail, fails_tail]; exact h₂) ⟨rfl, rfl⟩

/-- The call gets past the list: every row goes through the loop. -/
theorem executeRollback_reverts (reason : RollbackReason) (faults : List Bool)
    (log : List (Answered Op.Ret)) (hd : db.deployment id = some d)
    (hstatus : d.status ≠ .rolledBack)
    (hdevices : ∀ row ∈ db.rowsOf id, db.device row.deviceID ≠ none)
    (h₀ : fails faults 0 = false) (h₁ : fails faults 1 = false) (h₂ : fails faults 2 = false) :
    RunsFailing (fun db' log' (r : Outcome) => r.isOk = true ∧ ∃ faults' log₁,
      (faults = [] → faults' = []) ∧
        Looped id (db.rowsOf id) (db.markRolledBack id) db' faults' log₁ log') db faults log
      (executeRollback id reason) := by
  have hid : d.id = id := Db.deployment_id hd
  have hlist : (db.markRolledBack id).listDeploymentDevices id = db.rowsOf id := by
    rw [Db.listDeploymentDevices, Db.rowsOf]
    apply List.filter_congr
    intro row hrow
    by_cases hown : row.deploymentID = id
    · have hdevice : db.device row.deviceID ≠ none :=
        hdevices row (Db.mem_rowsOf.mpr ⟨hrow, hown⟩)
      have hdevice' : ((db.markRolledBack id).device row.deviceID).isSome = true :=
        Option.isSome_iff_ne_none.mpr hdevice
      simp [hown, hdevice']
    · simp [hown]
  rw [executeRollback, getDeployment_bind]
  refine statement_passes h₀ (Prod.ext hd rfl) ?_
  dsimp only
  rw [if_neg hstatus, query_bind, hid]
  refine statement_passes (by rw [fails_tail]; exact h₁)
    (Prod.ext (Db.deployment_markRolledBack hd) rfl) ?_
  dsimp only
  rw [query_bind]
  refine statement_passes (by rw [fails_tail, fails_tail]; exact h₂)
    (Prod.ext (congrArg some hlist) rfl) ?_
  refine (revertDevices_loops id reason (db.rowsOf id) _ _ _).bind fun s _ hloop => ?_
  exact ⟨rfl, _, _, fun hfaults => by rw [hfaults]; rfl, hloop⟩

/-- A call on a deployment that is rolled back. -/
theorem executeRollback_repeated (reason : RollbackReason) (faults : List Bool)
    (log : List (Answered Op.Ret)) (hd : db.deployment id = some d)
    (hstatus : d.status = .rolledBack) :
    RunsFailing (fun db' log' (r : Outcome) => db' = db ∧ r.isOk = !fails faults 0 ∧
      ∃ r, log' = log ++ [⟨.sql (.getDeployment id .handler), r⟩]) db faults log
      (executeRollback id reason) := by
  rw [executeRollback, getDeployment_bind]
  cases h₀ : fails faults 0 with
  | true => exact statement_fails h₀ ⟨rfl, rfl, _, rfl⟩
  | false =>
      refine statement_passes h₀ (Prod.ext hd rfl) ?_
      dsimp only
      rw [if_pos hstatus]
      exact ⟨rfl, rfl, _, rfl⟩

end

/-! ## Sequences of calls -/

/-- No call has written anything, and none has returned without an error. -/
structure Unbegun (db : Db) (s : Attempts) : Prop where
  same : s.db = db
  failed : ∀ ok ∈ s.outcomes, ok = false

/-- A call has returned without an error and processed every row. -/
structure Finished (id : DeploymentID) (rows : List DeploymentDevice) (s : Attempts) : Prop where
  rolledBack : ∃ d, s.db.deployment id = some d ∧ d.status = .rolledBack
  returned : true ∈ s.outcomes
  processed : ∀ row ∈ rows, Processed id row s.executed

/-- What was processed stays processed. -/
theorem Processed.mono {id : DeploymentID} {row : DeploymentDevice}
    {log log' : List (Answered Op.Ret)} (h : Processed id row log) (hlog : ∀ e ∈ log, e ∈ log') :
    Processed id row log' := by
  obtain ⟨⟨e, he, hcommand⟩, e', he', hversion⟩ := h
  exact ⟨⟨e, hlog e he, hcommand⟩, e', hlog e' he', hversion⟩

section

variable {id : DeploymentID} {db : Db} {d : Deployment} {s s' : Attempts} {a : Attempt}

/-- A rollback that has not begun may be tried again. -/
theorem Unbegun.retriable (h : Unbegun db s) (hd : db.deployment id = some d)
    (hstatus : d.status ≠ .rolledBack)
    (hdevices : ∀ row ∈ db.rowsOf id, db.device row.deviceID ≠ none) :
    Retriable id (db.rowsOf id) s where
  returned hlast := by
    have htrue := h.failed true (List.mem_of_getLast? hlast)
    cases htrue
  retried _ reason := by
    intro row hrow
    rw [h.same]
    obtain ⟨-, faults, log, hfaults, hloop⟩ := obeys_tracking.mp
      (executeRollback_reverts reason [] [] hd hstatus hdevices rfl rfl rfl)
    refine ⟨(hloop.processed row hrow).1, ?_⟩
    obtain ⟨v, hv⟩ := lastVersion_isSome hrow
    obtain ⟨dev, hdev⟩ := Option.ne_none_iff_exists'.mp (hdevices row hrow)
    have hdev' : (db.markRolledBack id).device row.deviceID = some dev := hdev
    have hrestored := hloop.restored (hfaults rfl) row.deviceID
    rw [hdev', hv] at hrestored
    rw [hv]
    exact hrestored

/-- A finished rollback needs no retry. -/
theorem Finished.retriable {rows : List DeploymentDevice} (h : Finished id rows s) :
    Retriable id rows s where
  returned _ := h.processed
  retried hfailed := by
    have htrue := hfailed true h.returned
    cases htrue

/-- A finished rollback is not begun again. -/
theorem finished_step {rows : List DeploymentDevice} (h : Finished id rows s)
    (hstep : attemptStep id s a = some s') : Finished id rows s' := by
  obtain rfl := Option.some.inj hstep
  obtain ⟨d, hd, hstatus⟩ := h.rolledBack
  obtain ⟨hdb, -, -⟩ := obeys_tracking.mp
    (executeRollback_repeated a.reason a.faults [] hd hstatus)
  constructor
  · exact ⟨d, (congrArg (fun db => Db.deployment db id) hdb).trans hd, hstatus⟩
  · exact List.mem_append_left _ h.returned
  · intro row hrow
    exact (h.processed row hrow).mono fun e he => List.mem_append_left _ he

/-- A call that writes the status only if it can list the rows. -/
theorem unbegun_step (h : Unbegun db s) (hd : db.deployment id = some d)
    (hstatus : d.status ≠ .rolledBack)
    (hdevices : ∀ row ∈ db.rowsOf id, db.device row.deviceID ≠ none) (hlists : ListsRows id s a)
    (hstep : attemptStep id s a = some s') : Unbegun db s' ∨ Finished id (db.rowsOf id) s' := by
  obtain rfl := Option.some.inj hstep
  obtain ⟨rfl, hfailed⟩ := h
  by_cases hstopped : fails a.faults 0 = true ∨ fails a.faults 1 = true
  · left
    obtain ⟨hdb, hok⟩ := obeys_tracking.mp
      (executeRollback_stopped a.reason a.faults [] hd hstatus hstopped)
    constructor
    · exact hdb
    · intro ok hmem
      rcases List.mem_append.mp hmem with hmem | hmem
      · exact hfailed ok hmem
      · exact (List.mem_singleton.mp hmem).trans hok
  · right
    rw [not_or, Bool.not_eq_true, Bool.not_eq_true] at hstopped
    obtain ⟨h₀, h₁⟩ := hstopped
    have hopen : (s.db.deployment id).map (fun d => d.status) ≠ some .rolledBack := by
      simpa [hd] using hstatus
    obtain ⟨hok, faults, log, -, hloop⟩ := obeys_tracking.mp
      (executeRollback_reverts a.reason a.faults [] hd hstatus hdevices h₀ h₁
        (hlists hopen h₀ h₁))
    constructor
    · refine ⟨{ d with status := .rolledBack }, ?_, rfl⟩
      refine Eq.trans ?_ (Db.deployment_markRolledBack hd)
      exact congrArg (fun t => Table.find? t id) hloop.deployments
    · exact List.mem_append_right _ (List.mem_singleton.mpr hok.symm)
    · intro row hrow
      exact (hloop.processed row hrow).mono fun e he => List.mem_append_right _ he

/-- A call that writes the status and cannot list the rows: no later call reverts them. -/
theorem lists_of_retriable (h : Unbegun db s) (hd : db.deployment id = some d)
    (hstatus : d.status ≠ .rolledBack) (hne : db.rowsOf id ≠ [])
    (hstep : attemptStep id s a = some s') (hretriable : Retriable id (db.rowsOf id) s') :
    ListsRows id s a := by
  intro _ h₀ h₁
  by_contra h₂
  rw [Bool.not_eq_false] at h₂
  obtain rfl := Option.some.inj hstep
  obtain ⟨rfl, hfailed⟩ := h
  obtain ⟨hdb, hok⟩ := obeys_tracking.mp
    (executeRollback_unlisted a.reason a.faults [] hd hstatus h₀ h₁ h₂)
  have hreverts := hretriable.retried (by
    intro ok hmem
    rcases List.mem_append.mp hmem with hmem | hmem
    · exact hfailed ok hmem
    · exact (List.mem_singleton.mp hmem).trans hok) .manualOperatorRequest
  obtain ⟨row, hrow⟩ := List.exists_mem_of_ne_nil _ hne
  obtain ⟨⟨e, he, reason, hcommand⟩, -⟩ := hreverts row hrow
  have hmarked : (runRollback id s.db a).2.1 = s.db.markRolledBack id := hdb
  obtain ⟨-, -, r, hlog⟩ := obeys_tracking.mp
    (executeRollback_repeated .manualOperatorRequest [] []
      (Db.deployment_markRolledBack hd) rfl)
  have hmem : e ∈ (runRollback id (s.db.markRolledBack id) {}).2.2 := by
    rw [← hmarked]
    exact he
  have hread : e ∈ [(⟨.sql (.getDeployment id .handler), r⟩ : Answered Op.Ret)] := by
    rw [← List.nil_append [(⟨.sql (.getDeployment id .handler), r⟩ : Answered Op.Ret)], ← hlog]
    exact hmem
  obtain rfl := List.mem_singleton.mp hread
  cases hcommand

/-- For a deployment that is not rolled back and every sequence of calls with failing statements:
a call returns without an error only after every row has been processed, and as long as the
calls return an error the next one that does not fail reverts every row, exactly if there are no
rows or no call fails to list them after it has written the status. -/
theorem rollback_retried {as : List Attempt} (hd : db.deployment id = some d)
    (hstatus : d.status ≠ .rolledBack)
    (hdevices : ∀ row ∈ db.rowsOf id, db.device row.deviceID ≠ none) :
    EveryState (attemptStep id) (Retriable id (db.rowsOf id)) { db := db } as ↔
      db.rowsOf id = [] ∨ EachStep (attemptStep id) (ListsRows id) { db := db } as := by
  by_cases hrows : db.rowsOf id = []
  · refine iff_of_true ?_ (Or.inl hrows)
    have hall : ∀ s : Attempts, Retriable id (db.rowsOf id) s := by
      intro s
      rw [hrows]
      exact ⟨fun _ row hrow => (by cases hrow), fun _ _ row hrow => (by cases hrow)⟩
    exact EveryState.of_eachStep (I := fun _ => True) (P := fun _ _ => True)
      (fun _ _ _ _ _ _ => trivial) (fun s _ => hall s) trivial
      (EachStep.of_forall_mem (P := fun _ => True) fun _ _ => trivial)
  · rw [or_iff_right hrows]
    -- Either nothing has happened yet, or everything.
    refine everyState_iff_eachStep
      (I := fun s _ => Unbegun db s ∨ Finished id (db.rowsOf id) s) ?_ ?_ ?_ ?_ ?_
    · intro s a as _
      exact ⟨_, rfl⟩
    · intro s a as s' hs hstep
      rcases hs with hs | hs
      · constructor
        · exact lists_of_retriable hs hd hstatus hrows hstep
        · intro hlists
          rcases unbegun_step hs hd hstatus hdevices hlists hstep with hs' | hs'
          · exact hs'.retriable hd hstatus hdevices
          · exact hs'.retriable
      · refine iff_of_true (finished_step hs hstep).retriable ?_
        intro hopen
        obtain ⟨d', hd', hstatus'⟩ := hs.rolledBack
        simp [hd', hstatus'] at hopen
    · intro s a as s' hs hstep hlists
      rcases hs with hs | hs
      · exact unbegun_step hs hd hstatus hdevices hlists hstep
      · exact Or.inr (finished_step hs hstep)
    · intro s as hs
      rcases hs with hs | hs
      · exact hs.retriable hd hstatus hdevices
      · exact hs.retriable
    · exact Or.inl ⟨rfl, fun _ h => by cases h⟩

end

/-! ## Concrete calls -/

/-- The executable form of {lit}`ListsRows`. -/
def listsRows (id : DeploymentID) (s : Attempts) (a : Attempt) : Bool :=
  (s.db.deployment id).map (fun d => d.status) = some .rolledBack ||
    fails a.faults 0 || fails a.faults 1 || !fails a.faults 2

theorem listsRows_spec {id : DeploymentID} {s : Attempts} {a : Attempt}
    (h : listsRows id s a = true) : ListsRows id s a := by
  intro hopen h₀ h₁
  simpa [listsRows, hopen, h₀, h₁] using h

/-- Every row has its device. -/
theorem halfInstalledDb_devices :
    ∀ row ∈ halfInstalledDb.rowsOf 0, halfInstalledDb.device row.deviceID ≠ none := by
  have hall : (halfInstalledDb.rowsOf 0).all (fun row =>
      (halfInstalledDb.device row.deviceID).isSome) = true := by decide +kernel
  intro row hrow
  exact Option.isSome_iff_ne_none.mp (List.all_eq_true.mp hall row hrow)

theorem halfInstalledDb_running :
    ∃ d, halfInstalledDb.deployment 0 = some d ∧ d.status ≠ .rolledBack := by
  have hrunning : (halfInstalledDb.deployment 0).any (fun d => d.status ≠ .rolledBack) = true := by
    decide +kernel
  obtain ⟨d, hd, hstatus⟩ := (Option.any_eq_true _ _).mp hrunning
  exact ⟨d, hd, of_decide_eq_true hstatus⟩

/-- Three calls: the first cannot read the deployment, the second cannot write its status, the
third reverts its two robots. -/
theorem rollback_retried_third_call :
    EveryState (attemptStep 0) (Retriable 0 (halfInstalledDb.rowsOf 0)) { db := halfInstalledDb }
      [{ faults := [true] }, { faults := [false, true] }, {}] := by
  obtain ⟨d, hd, hstatus⟩ := halfInstalledDb_running
  refine (rollback_retried hd hstatus halfInstalledDb_devices).mpr (Or.inr ?_)
  exact EachStep.of_eachStep (fun _ _ => listsRows_spec) (by decide +kernel)

/-- The list of the rows fails once: no later call reverts them. -/
theorem rollback_not_retried :
    ¬ ∀ (db : Db) (d : Deployment) (id : DeploymentID) (as : List Attempt),
      db.deployment id = some d → d.status ≠ .rolledBack →
        (∀ row ∈ db.rowsOf id, db.device row.deviceID ≠ none) →
          EveryState (attemptStep id) (Retriable id (db.rowsOf id)) { db := db } as := by
  intro hretried
  obtain ⟨d, hd, hstatus⟩ := halfInstalledDb_running
  obtain ⟨s, hrun, hend⟩ := endsWith_eq_true (show endsWith (attemptStep 0)
    { db := halfInstalledDb } [{ faults := [false, false, true] }, {}] (fun s =>
      s.outcomes.getLast? = some true && s.executed.all fun e => !e.op.isPublish) = true by
    decide +kernel)
  obtain ⟨hreturned, hsilent⟩ := Bool.and_eq_true_iff.mp hend
  have hretriable := (hretried halfInstalledDb d 0 _ hd hstatus halfInstalledDb_devices).last hrun
  have hrows : halfInstalledDb.rowsOf 0 ≠ [] := by decide +kernel
  obtain ⟨row, hrow⟩ := List.exists_mem_of_ne_nil _ hrows
  obtain ⟨⟨e, he, reason, hcommand⟩, -⟩ :=
    hretriable.returned (of_decide_eq_true hreturned) row hrow
  have hquiet := List.all_eq_true.mp hsilent e he
  simp [hcommand, Op.isPublish] at hquiet

end OtaRobot
