import Mathlib.Data.List.Perm.Subperm
import OtaRobot.Rollout.ErrorCallback
import OtaRobot.Rollout.Launch
import OtaRobot.Rollout.RolledBack

/-!
# Counted failures

The failure count of a deployment contains the failure of every callback that has
counted one, and of the callbacks that have counted, the last one to read the
deployment has read all of them.

Main results:

- Theorem {lit}`failureInvariant_step`: the invariant behind both facts.
- Theorem {lit}`not_running_of_errors`: when enough error reports of a deployment are
  processed, it is not running any more.
-/

namespace OtaRobot

open Prog Transition

namespace ControlPlane

/-! ## Callbacks in a state -/

/-- What the thread has done about the deployment so far. -/
def handled (id : DeploymentID) (j : Nat) (c : Config) : Processing :=
  (Machine.eventsOf j c.trace).foldl (fun g e => g.after id e.op e.ret) {}

/-- The operation has counted a failure of the deployment. -/
def countsFailure (id : DeploymentID) : (op : Op) → op.Ret → Bool
  | .sql (.incrementDeploymentFailure id'), (r : Option Unit) => id' = id && r.isSome
  | _, _ => false

/-- A statement that fails counts nothing. -/
theorem countsFailure_none (id : DeploymentID) (q : Query) :
    countsFailure id (.sql q) none = false := by
  cases q with
  | incrementDeploymentFailure id' => exact Bool.and_false _
  | _ => rfl

/-- How many failures of the deployment were counted. -/
def failuresCounted (id : DeploymentID) (c : Config) : Nat :=
  c.trace.countP fun e => countsFailure id e.op e.ret

/-- An operation changes what its own thread has handled. -/
theorem handled_executed {id : DeploymentID} {c c' : Config} {i : Nat} {x : Choice}
    {tag : Call} {op : Op} {k : op.Ret → Rollout Unit} {r : op.Ret}
    (hs : machine.Executed c c' i x tag op k r) (j : Nat) :
    handled id j c' = if i = j then (handled id i c).after id op r else handled id j c := by
  rw [handled, hs.trace, Machine.eventsOf_append]
  by_cases hij : i = j
  · subst hij
    rw [if_pos rfl, if_pos rfl, List.foldl_append]
    rfl
  · rw [if_neg hij, if_neg hij]
    rfl

/-- A thread that starts has handled nothing. -/
theorem handled_spawned {id : DeploymentID} {c c' : Config} {i : Nat} {call : Call}
    (hs : machine.Spawned c c' i call) (j : Nat) : handled id j c' = handled id j c := by
  rw [handled, hs.trace]
  rfl

/-- An operation counts at most one failure. -/
theorem failuresCounted_executed {id : DeploymentID} {c c' : Config} {i : Nat} {x : Choice}
    {tag : Call} {op : Op} {k : op.Ret → Rollout Unit} {r : op.Ret}
    (hs : machine.Executed c c' i x tag op k r) :
    failuresCounted id c' = failuresCounted id c + if countsFailure id op r then 1 else 0 := by
  rw [failuresCounted, hs.trace, List.countP_append, List.countP_singleton]
  rfl

/-- What one operation does to the record of a callback. -/
inductive Processing.Step (id : DeploymentID) (g : Processing) :
    (op : Op) → op.Ret → Processing → Prop where
  | idle (op : Op) (r : op.Ret) (h : countsFailure id op r = false) : Step id g op r g
  | failed (q : Query) : Step id g (.sql q) none { g with failed := true }
  | found (deviceID : DeviceID) (row : DeploymentDevice) (h : row.deploymentID = id) :
      Step id g (.sql (.getActiveDeploymentDeviceByDevice deviceID)) (some row)
        { g with row := some row }
  | wrote (p : UpdateDeploymentDeviceStatusParams) (row : DeploymentDevice)
      (h : p.deploymentID = id) :
      Step id g (.sql (.updateDeploymentDeviceStatus p)) (some row) { g with wrote := true }
  | counted (u : Unit) :
      Step id g (.sql (.incrementDeploymentFailure id)) (some u)
        { g with counted := true, seen := none }
  | read (site : ReadSite) (dep : Deployment) :
      Step id g (.sql (.getDeployment id site)) (some dep) (g.read dep)
  | setStatus (st : DeploymentStatus) (dep : Deployment) :
      Step id g (.sql (.updateDeploymentStatus id st)) (some dep) (g.setStatus st)

private theorem Processing.step_ite {id : DeploymentID} {g g' : Processing} {op : Op}
    {r : op.Ret} (b : Prop) [Decidable b] (hpos : b → Processing.Step id g op r g')
    (hneg : ¬ b → countsFailure id op r = false) :
    Processing.Step id g op r (if b then g' else g) := by
  by_cases h : b
  · rw [if_pos h]
    exact hpos h
  · rw [if_neg h]
    exact .idle op r (hneg h)

/-- An operation moves the processing by one step. -/
theorem Processing.after_step (id : DeploymentID) (g : Processing) (op : Op) (r : op.Ret) :
    Processing.Step id g op r (g.after id op r) := by
  cases op with
  | sql q =>
      have hanswer : ∀ r : Option q.Row,
          Processing.Step id g (.sql q) r (g.after id (.sql q) r) := by
        intro r
        cases r with
        | none => exact .failed q
        | some answer =>
            cases q with
            | getActiveDeploymentDeviceByDevice deviceID =>
                exact step_ite _ (fun h => .found deviceID answer h) fun _ => rfl
            | updateDeploymentDeviceStatus p =>
                exact step_ite _ (fun h => .wrote p answer h) fun _ => rfl
            | incrementDeploymentFailure id' =>
                apply step_ite (id' = id)
                · intro h
                  subst h
                  exact .counted answer
                · intro h
                  exact Bool.and_eq_false_iff.mpr (Or.inl (decide_eq_false h))
            | getDeployment id' site =>
                apply step_ite (id' = id)
                · intro h
                  subst h
                  exact .read site answer
                · exact fun _ => rfl
            | updateDeploymentStatus id' st =>
                apply step_ite (id' = id)
                · intro h
                  subst h
                  exact .setStatus st answer
                · exact fun _ => rfl
            | _ => exact .idle _ _ rfl
      exact hanswer r
  | _ => exact .idle _ _ rfl

/-- What was found, written and counted stays so. -/
theorem Processing.Step.grows {id : DeploymentID} {g g' : Processing} {op : Op} {r : op.Ret}
    (h : Processing.Step id g op r g') :
    (g.row ≠ none → g'.row ≠ none) ∧ (g.wrote = true → g'.wrote = true) ∧
      (g.counted = true → g'.counted = true) := by
  cases h with
  | found => exact ⟨fun _ => by simp, fun h => h, fun h => h⟩
  | wrote => exact ⟨fun h => h, fun _ => rfl, fun h => h⟩
  | counted => exact ⟨fun h => h, fun h => h, fun _ => rfl⟩
  | idle | failed | read | setStatus => exact ⟨fun h => h, fun h => h, fun h => h⟩

/-! ## The invariant -/

/-- An error callback for the device has written a row of the deployment. -/
def WrittenBy (id : DeploymentID) (deviceID : DeviceID) (c : Config) : Prop :=
  ∃ j text p, c.thread j = some (.error ⟨deviceID, text⟩, p) ∧
    (handled id j c).wrote = true

/-- A row of the deployment is as it was inserted, or as an error callback has left it. -/
def Accounted (id : DeploymentID) (c : Config) (row : DeploymentDevice) : Prop :=
  row.status = "pending" ∨ WrittenBy id row.deviceID c

/-- The failure count of the deployment, zero if it does not exist. -/
def failureCount (c : Config) (id : DeploymentID) : Nat :=
  match deployment c id with
  | some dep => dep.failureCount
  | none => 0

/-- A row of the deployment that a thread has found. -/
structure Found (id : DeploymentID) (c : Config) (j : Nat) (row : DeploymentDevice) : Prop where
  marked : LaunchMarked id c
  accounted : Accounted id c row
  thread : ∃ text p, c.thread j = some (.error ⟨row.deviceID, text⟩, p)

/-- The counter, the failed rows and the callbacks agree. -/
structure FailureInvariant (id : DeploymentID) (c : Config) : Prop where
  disciplined : Machine.Disciplined (processingDiscipline id) processedBy (fun _ => {}) c
  launch : LaunchInvariant id c
  rows : ∀ row ∈ c.store.db.rowsOf id, LaunchMarked id c ∧ Accounted id c row
  found : ∀ j row, (handled id j c).row = some row → Found id c j row
  attributed : ∀ j, (handled id j c).wrote = true ∨ (handled id j c).counted = true ∨
    (handled id j c).stopped = true → (handled id j c).row ≠ none
  counted : failuresCounted id c ≤ failureCount c id
  latest : failuresCounted id c = 0 ∨ ∃ j, (handled id j c).counted = true ∧
    ∀ dep, (handled id j c).seen = some dep → failuresCounted id c ≤ dep.failureCount
  seen : ∀ j dep, (handled id j c).seen = some dep → ∃ cur, deployment c id = some cur ∧
    cur.totalDevices = dep.totalDevices ∧ cur.rollbackThreshold = dep.rollbackThreshold
  stopped : ∀ j, (handled id j c).stopped = true → status c id ≠ some .running

/-- No progress report finds a row of the deployment. -/
def NoProgressReport (id : DeploymentID) (c : Config) (l : Label) : Prop :=
  ∀ j x event deviceID k row, l = .step j x →
    c.thread j = some (.progress event, .call (.sql (.getActiveDeploymentDeviceByDevice deviceID)) k) →
    c.store.db.activeRow deviceID = some row → row.deploymentID ≠ id

/-- A new deployment has no rows. -/
theorem failureInvariant_start {id : DeploymentID} {db : Db}
    (hnew : ∀ row ∈ db.deploymentDevices, row.deploymentID ≠ id) :
    FailureInvariant id (start db) where
  disciplined := Machine.disciplined_initial _ _ _ _
  launch := launchInvariant_start id db
  rows row hrow := absurd (Db.mem_rowsOf.mp hrow).2 (hnew row (Db.mem_rowsOf.mp hrow).1)
  found j row h := by simp [handled, start, Machine.initial, Machine.eventsOf] at h
  attributed j h := by simp [handled, start, Machine.initial, Machine.eventsOf] at h
  counted := Nat.zero_le _
  latest := Or.inl rfl
  seen j dep h := by simp [handled, start, Machine.initial, Machine.eventsOf] at h
  stopped j h := by simp [handled, start, Machine.initial, Machine.eventsOf] at h

/-! ## What a step keeps -/

section

variable {id : DeploymentID} {c c' : Config} {l : Label}

/-- A callback only adds to what it has done. -/
theorem handled_grows (h : step c l = some c') (j : Nat) :
    ((handled id j c).row ≠ none → (handled id j c').row ≠ none) ∧
      ((handled id j c).wrote = true → (handled id j c').wrote = true) ∧
        ((handled id j c).counted = true → (handled id j c').counted = true) := by
  obtain ⟨i, call, -, hs⟩ | ⟨i, x, call, op, k, r, -, hs⟩ := Machine.step_cases h
  · rw [handled_spawned hs]
    exact ⟨fun h => h, fun h => h, fun h => h⟩
  · rw [handled_executed hs]
    split
    · rename_i hij
      subst hij
      exact (Processing.after_step id _ op r).grows
    · exact ⟨fun h => h, fun h => h, fun h => h⟩

/-- What was written stays written. -/
theorem writtenBy_step {deviceID : DeviceID} (hwritten : WrittenBy id deviceID c)
    (h : step c l = some c') : WrittenBy id deviceID c' := by
  obtain ⟨j, text, p, hj, hwrote⟩ := hwritten
  obtain ⟨p', hp'⟩ := Machine.step_tag h hj
  exact ⟨j, text, p', hp', (handled_grows h j).2.1 hwrote⟩

/-- A row that was accounted for stays so. -/
theorem accounted_step {row : DeploymentDevice} (haccounted : Accounted id c row)
    (h : step c l = some c') : Accounted id c' row :=
  haccounted.imp_right fun hwritten => writtenBy_step hwritten h

/-- A row that was found stays so. -/
theorem found_step {j : Nat} {row : DeploymentDevice} (hfound : Found id c j row)
    (h : step c l = some c') : Found id c' j row := by
  obtain ⟨text, p, hj⟩ := hfound.thread
  obtain ⟨p', hp'⟩ := Machine.step_tag h hj
  exact ⟨launchMarked_step hfound.marked h, accounted_step hfound.accounted h, text, p', hp'⟩

/-- The fixed columns of a deployment are kept, and its failure count does not drop. -/
theorem deployment_step_fixed {d : Deployment} (h : step c l = some c')
    (hd : deployment c id = some d) :
    ∃ d', deployment c' id = some d' ∧ d'.totalDevices = d.totalDevices ∧
      d'.rollbackThreshold = d.rollbackThreshold ∧ d.failureCount ≤ d'.failureCount := by
  rcases deployment_step h hd with hkeep | ⟨i, x, tag, op, k, r, -, -, hchange⟩
  · exact ⟨d, hkeep, rfl, rfl, Nat.le_refl _⟩
  · cases op with
    | sql q =>
        obtain ⟨-, htotal, hthreshold, -, -⟩ := q.onDeployment_fixed d
        refine ⟨_, hchange, htotal, hthreshold, ?_⟩
        cases q with
        | updateDeploymentStatus | updateDeploymentPhase | incrementDeploymentSuccess
        | incrementDeploymentFailure =>
            simp only [Op.onDeployment, Query.onDeployment]
            split <;> simp
        | _ => exact Nat.le_refl _
    | _ => exact ⟨d, hchange, rfl, rfl, Nat.le_refl _⟩

/-- The counter does not fall. -/
theorem failureCount_step (h : step c l = some c') :
    failureCount c id ≤ failureCount c' id := by
  unfold failureCount
  cases hd : deployment c id with
  | none => exact Nat.zero_le _
  | some d =>
      obtain ⟨d', hd', -, -, hle⟩ := deployment_step_fixed h hd
      rw [hd']
      exact hle

variable {i : Nat} {x : Choice} {call : Call}

/-- A statement that has answered was executed. -/
theorem executed_some {q : Query} {k : Option q.Row → Rollout Unit} {answer : q.Row}
    (hs : machine.Executed c c' i x call (.sql q) k (some answer)) :
    (c.store.db.exec x.uuid q).1 = some answer ∧
      c'.store.db = (c.store.db.exec x.uuid q).2 := by
  obtain ⟨hanswer, hstore⟩ := executed_answer hs
  rw [exec_sql] at hanswer hstore
  split at hanswer
  · cases hanswer
  · rename_i hfault
    rw [if_neg hfault] at hstore
    rw [hstore]
    exact ⟨hanswer.symm, rfl⟩

/-- A status update that has answered sets the status. -/
theorem executed_setStatus {st : DeploymentStatus} {k : Option Deployment → Rollout Unit}
    {dep : Deployment} (hexists : deployment c id ≠ none)
    (hs : machine.Executed c c' i x call (.sql (.updateDeploymentStatus id st)) k (some dep)) :
    status c' id = some st := by
  obtain ⟨-, hdb⟩ := executed_some hs
  obtain ⟨d, hd⟩ := Option.ne_none_iff_exists'.mp hexists
  have hid : d.id = id := Db.deployment_id hd
  have hrow : deployment c' id = some (Query.onDeployment (.updateDeploymentStatus id st) d) := by
    rw [deployment, hdb]
    exact Db.deployment_exec hd
  rw [status, hrow, Query.onDeployment, if_pos hid.symm]
  rfl

/-- A counted failure is added to the failure count. -/
theorem executed_incrementFailure {k : Option Unit → Rollout Unit} {u : Unit}
    (hexists : deployment c id ≠ none)
    (hs : machine.Executed c c' i x call (.sql (.incrementDeploymentFailure id)) k (some u)) :
    failureCount c' id = failureCount c id + 1 := by
  obtain ⟨-, hdb⟩ := executed_some hs
  obtain ⟨d, hd⟩ := Option.ne_none_iff_exists'.mp hexists
  have hid : d.id = id := Db.deployment_id hd
  have hrow : deployment c' id = some (Query.onDeployment (.incrementDeploymentFailure id) d) := by
    rw [deployment, hdb]
    exact Db.deployment_exec hd
  rw [failureCount, failureCount, hrow, hd, Query.onDeployment, if_pos hid.symm]

/-! ## The invariant along a step -/

/-- An operation keeps every failed row accounted for. -/
theorem rows_executed {op : Op} {k : op.Ret → Rollout Unit} {r : op.Ret}
    (hc : FailureInvariant id c) (h : step c l = some c')
    (hs : machine.Executed c c' i x call op k r) (row : DeploymentDevice)
    (hrow : row ∈ c'.store.db.rowsOf id) : LaunchMarked id c' ∧ Accounted id c' row := by
  have hkept : row ∈ c.store.db.rowsOf id → LaunchMarked id c' ∧ Accounted id c' row :=
    fun hmem => (hc.rows row hmem).imp (fun hm => launchMarked_step hm h)
      fun ha => accounted_step ha h
  obtain ⟨hanswer, hstore⟩ := executed_answer hs
  cases op with
  | sql q =>
      rw [hstore, exec_sql] at hrow
      split at hrow
      · exact hkept hrow
      · rename_i hfault
        rw [exec_sql, if_neg hfault] at hanswer
        obtain hmem | ⟨p, rfl, hid, rfl⟩ | ⟨p, rfl, hid, hdevice, hsome⟩ :=
          Db.mem_rowsOf_exec hrow
        · exact hkept hmem
        · refine ⟨⟨⟨i, .sql (.createDeploymentDevice p), r⟩, ?_, decide_eq_true hid⟩, Or.inl rfl⟩
          rw [hs.trace]
          exact List.mem_append_right _ (List.mem_singleton.mpr rfl)
        · -- The row was written by a callback that had found it.
          obtain ⟨found, hfound, hreports⟩ := (hc.disciplined.allowed hs : ProcessingAllowed id
            call (handled id i c) (.sql (.updateDeploymentDeviceStatus p))) hid
          obtain ⟨hmarked, -, text, p', hthread⟩ := hc.found i found hfound
          obtain ⟨rfl, -⟩ : call = .error ⟨found.deviceID, text⟩ ∧ _ = p' := by
            simpa [hs.before] using hthread
          have hsame : found.deviceID = row.deviceID := by
            rw [hdevice]
            exact Option.some.inj hreports
          obtain ⟨updated, hupdated⟩ := Option.ne_none_iff_exists'.mp hsome
          have hr : r = some updated := hanswer.trans hupdated
          refine ⟨launchMarked_step hmarked h, Or.inr ⟨i, text, k r, ?_, ?_⟩⟩
          · rw [hs.threads, if_pos rfl, hsame]
          · rw [handled_executed hs, if_pos rfl, hr]
            show (if p.deploymentID = id then _ else handled id i c).wrote = true
            rw [if_pos hid]
  | _ =>
      have hdb : c'.store.db = c.store.db := by
        rw [hstore]
        rfl
      rw [hdb] at hrow
      exact hkept hrow

/-- A row that a callback has found is launched and accounted for. -/
theorem found_executed {op : Op} {k : op.Ret → Rollout Unit} {r : op.Ret}
    (hc : FailureInvariant id c) (hno : NoProgressReport id c (.step i x))
    (h : step c (.step i x) = some c') (hs : machine.Executed c c' i x call op k r)
    (row : DeploymentDevice) (hrow : (handled id i c').row = some row) : Found id c' i row := by
  have hkept : (handled id i c).row = some row → Found id c' i row := fun hfound =>
    found_step (hc.found i row hfound) h
  rw [handled_executed hs, if_pos rfl] at hrow
  have hstep := Processing.after_step id (handled id i c) op r
  have hallowed : ProcessingAllowed id call (handled id i c) op := hc.disciplined.allowed hs
  generalize (handled id i c).after id op r = g' at hstep hrow
  cases hstep with
  | found deviceID row' hid =>
      obtain rfl : row' = row := by simpa using hrow
      have hactive : c.store.db.activeRow deviceID = some row' := (executed_some hs).1
      obtain ⟨hmem, hisActive⟩ := Db.activeRow_spec hactive
      have hdevice : row'.deviceID = deviceID := ((Db.isActive_iff _ _ _).mp hisActive).1
      obtain ⟨hmarked, haccounted⟩ := hc.rows row' (Db.mem_rowsOf.mpr ⟨hmem, hid⟩)
      have hreports : Call.reports call = some row'.deviceID := by
        rw [hdevice]
        exact hallowed
      cases call with
      | error event =>
          obtain ⟨eventDevice, text⟩ := event
          obtain rfl : eventDevice = row'.deviceID := Option.some.inj hreports
          have hthread := hs.threads i
          rw [if_pos rfl] at hthread
          exact ⟨launchMarked_step hmarked h, accounted_step haccounted h, text, _, hthread⟩
      | progress event =>
          exact absurd hid (hno i x event deviceID k row' rfl hs.before hactive)
      | createDeployment | getDeployment | rollback | runCanary => cases hreports
  | idle | failed | wrote | counted | read | setStatus => exact hkept hrow

/-- An operation keeps every failure with its callback. -/
theorem attributed_executed {op : Op} {k : op.Ret → Rollout Unit} {r : op.Ret}
    (hc : FailureInvariant id c) (hs : machine.Executed c c' i x call op k r)
    (hdone : (handled id i c').wrote = true ∨ (handled id i c').counted = true ∨
      (handled id i c').stopped = true) : (handled id i c').row ≠ none := by
  rw [handled_executed hs, if_pos rfl] at hdone ⊢
  have hstep := Processing.after_step id (handled id i c) op r
  have hallowed : ProcessingAllowed id call (handled id i c) op := hc.disciplined.allowed hs
  have hattributed := hc.attributed i
  generalize (handled id i c).after id op r = g' at hstep hdone ⊢
  cases hstep with
  | found => simp
  | wrote p row hid =>
      obtain ⟨found, hfound, -⟩ := hallowed hid
      simp [hfound]
  | counted u =>
      obtain ⟨⟨found, hfound⟩, -⟩ := hallowed rfl
      simp [hfound]
  | read site dep =>
      by_cases hrow : (handled id i c).row = none
      · simp only [Processing.read, hrow, Option.isSome_none, Bool.false_and, Bool.or_false]
          at hdone
        exact absurd hrow (hattributed hdone)
      · exact hrow
  | setStatus st dep =>
      by_cases hrow : (handled id i c).row = none
      · simp only [Processing.setStatus, hrow, Option.isSome_none, Bool.false_and,
          Bool.or_false] at hdone
        exact absurd hrow (hattributed hdone)
      · exact hrow
  | idle | failed => exact hattributed hdone

/-- An operation keeps the counter with the callbacks that have counted. -/
theorem counted_executed {op : Op} {k : op.Ret → Rollout Unit} {r : op.Ret}
    (hc : FailureInvariant id c) (h : step c l = some c')
    (hs : machine.Executed c c' i x call op k r) :
    failuresCounted id c' ≤ failureCount c' id := by
  rw [failuresCounted_executed hs]
  have hle := hc.counted
  have hmono : failureCount c id ≤ failureCount c' id := failureCount_step h
  have hstep := Processing.after_step id (handled id i c) op r
  have hallowed : ProcessingAllowed id call (handled id i c) op := hc.disciplined.allowed hs
  generalize (handled id i c).after id op r = g' at hstep
  cases hstep with
  | counted u =>
      obtain ⟨⟨found, hfound⟩, -⟩ := hallowed rfl
      have hlaunched := hc.launch.launched (hc.found i found hfound).marked
      rw [executed_incrementFailure hlaunched.exists_ hs]
      split <;> omega
  | idle op r hidle =>
      rw [hidle]
      simp only [Bool.false_eq_true, if_false]
      omega
  | failed q =>
      rw [countsFailure_none]
      simp only [Bool.false_eq_true, if_false]
      omega
  | found | wrote | read | setStatus =>
      simp only [countsFailure, Bool.false_eq_true, if_false]
      omega

/-- A read of the deployment answers with its row. -/
theorem executed_read {site : ReadSite} {k : Option Deployment → Rollout Unit}
    {dep : Deployment}
    (hs : machine.Executed c c' i x call (.sql (.getDeployment id site)) k (some dep)) :
    deployment c id = some dep := by
  rcases executed_getDeployment hs with hnone | hsame
  · cases hnone
  · exact hsame.symm

/-- The thread that has counted last and not read since reads every failure counted. -/
theorem latest_executed {op : Op} {k : op.Ret → Rollout Unit} {r : op.Ret}
    (hc : FailureInvariant id c) (hs : machine.Executed c c' i x call op k r) :
    failuresCounted id c' = 0 ∨ ∃ j, (handled id j c').counted = true ∧
      ∀ dep, (handled id j c').seen = some dep → failuresCounted id c' ≤ dep.failureCount := by
  rw [failuresCounted_executed hs]
  by_cases hcounts : countsFailure id op r = true
  · right
    refine ⟨i, ?_⟩
    rw [handled_executed hs, if_pos rfl]
    have hstep := Processing.after_step id (handled id i c) op r
    generalize (handled id i c).after id op r = g' at hstep ⊢
    cases hstep with
    | counted u => exact ⟨rfl, fun dep hseen => by cases hseen⟩
    | idle op r hidle => simp [hidle] at hcounts
    | failed q => simp [countsFailure_none] at hcounts
    | found | wrote | read | setStatus => cases hcounts
  · rw [if_neg hcounts, Nat.add_zero]
    rcases hc.latest with hzero | ⟨j, hcounted, hseen⟩
    · exact Or.inl hzero
    · right
      refine ⟨j, ?_⟩
      rw [handled_executed hs]
      by_cases hij : i = j
      · subst hij
        rw [if_pos rfl]
        have hstep := Processing.after_step id (handled id i c) op r
        generalize (handled id i c).after id op r = g' at hstep ⊢
        cases hstep with
        | counted u => exact ⟨rfl, fun dep hseen' => by cases hseen'⟩
        | read site dep =>
            refine ⟨hcounted, fun dep' hdep' => ?_⟩
            obtain rfl : dep = dep' := by simpa [Processing.read] using hdep'
            have hle := hc.counted
            rwa [failureCount, executed_read hs] at hle
        | idle | failed | found | wrote | setStatus => exact ⟨hcounted, hseen⟩
      · rw [if_neg hij]
        exact ⟨hcounted, hseen⟩

/-- An operation keeps what the callbacks have seen. -/
theorem seen_executed {op : Op} {k : op.Ret → Rollout Unit} {r : op.Ret}
    (hc : FailureInvariant id c) (h : step c l = some c')
    (hs : machine.Executed c c' i x call op k r) (dep : Deployment)
    (hseen : (handled id i c').seen = some dep) :
    ∃ cur, deployment c' id = some cur ∧ cur.totalDevices = dep.totalDevices ∧
      cur.rollbackThreshold = dep.rollbackThreshold := by
  have hfixed : ∀ cur, deployment c id = some cur →
      cur.totalDevices = dep.totalDevices ∧ cur.rollbackThreshold = dep.rollbackThreshold →
      ∃ cur', deployment c' id = some cur' ∧ cur'.totalDevices = dep.totalDevices ∧
        cur'.rollbackThreshold = dep.rollbackThreshold := by
    intro cur hcur hsame
    obtain ⟨cur', hcur', htotal, hthreshold, -⟩ := deployment_step_fixed h hcur
    exact ⟨cur', hcur', htotal.trans hsame.1, hthreshold.trans hsame.2⟩
  have hkept : (handled id i c).seen = some dep → ∃ cur', deployment c' id = some cur' ∧
      cur'.totalDevices = dep.totalDevices ∧ cur'.rollbackThreshold = dep.rollbackThreshold := by
    intro hbefore
    obtain ⟨cur, hcur, hsame⟩ := hc.seen i dep hbefore
    exact hfixed cur hcur hsame
  rw [handled_executed hs, if_pos rfl] at hseen
  have hstep := Processing.after_step id (handled id i c) op r
  generalize (handled id i c).after id op r = g' at hstep hseen
  cases hstep with
  | read site dep' =>
      obtain rfl : dep' = dep := by simpa [Processing.read] using hseen
      exact hfixed dep' (executed_read hs) ⟨rfl, rfl⟩
  | counted u => cases hseen
  | idle | failed | found | wrote | setStatus => exact hkept hseen

/-- An operation keeps the rollbacks that have begun. -/
theorem stopped_executed {op : Op} {k : op.Ret → Rollout Unit} {r : op.Ret}
    (hc : FailureInvariant id c) (h : step c l = some c')
    (hs : machine.Executed c c' i x call op k r)
    (hstopped : (handled id i c').stopped = true) : status c' id ≠ some .running := by
  have hlaunched : (handled id i c).row ≠ none → Launched id c := by
    intro hne
    obtain ⟨row, hrow⟩ := Option.ne_none_iff_exists'.mp hne
    exact hc.launch.launched (hc.found i row hrow).marked
  have hkept : (handled id i c).stopped = true → status c' id ≠ some .running := by
    intro hbefore
    have hne := hc.attributed i (Or.inr (Or.inr hbefore))
    exact (hlaunched hne).not_running_step (hc.stopped i hbefore) h
  rw [handled_executed hs, if_pos rfl] at hstopped
  have hstep := Processing.after_step id (handled id i c) op r
  generalize (handled id i c).after id op r = g' at hstep hstopped
  cases hstep with
  | read site dep =>
      simp only [Processing.read, Bool.or_eq_true, Bool.and_eq_true, Option.isSome_iff_ne_none,
        decide_eq_true_eq] at hstopped
      rcases hstopped with hbefore | ⟨hne, hstatus⟩
      · exact hkept hbefore
      · apply (hlaunched hne).not_running_step ?_ h
        simpa [status, executed_read hs] using hstatus
  | setStatus st dep =>
      simp only [Processing.setStatus, Bool.or_eq_true, Bool.and_eq_true,
        Option.isSome_iff_ne_none, decide_eq_true_eq] at hstopped
      rcases hstopped with hbefore | ⟨hne, hst⟩
      · exact hkept hbefore
      · rw [executed_setStatus (hlaunched hne).exists_ hs]
        simpa using hst
  | idle | failed | found | wrote | counted => exact hkept hstopped

/-- A step without a progress report keeps the invariant. -/
theorem failureInvariant_step (hc : FailureInvariant id c) (hno : NoProgressReport id c l)
    (h : step c l = some c') : FailureInvariant id c' := by
  have hdisciplined := Machine.step_disciplined h hc.disciplined (body_processing id)
    fun _ _ _ _ _ _ hs => executed_keyed hs
  have hlaunch := launchInvariant_step hc.launch h
  obtain ⟨i, call, -, hs⟩ | ⟨i, x, call, op, k, r, rfl, hs⟩ := Machine.step_cases h
  · have hdb : c'.store.db = c.store.db := accept_db hs.accepted
    have hdeployment : deployment c' id = deployment c id := by rw [deployment, hdb]; rfl
    have hcount : failuresCounted id c' = failuresCounted id c := by
      rw [failuresCounted, hs.trace]
      rfl
    refine ⟨hdisciplined, hlaunch, ?_, ?_, ?_, ?_, ?_, ?_, ?_⟩
    · intro row hrow
      rw [hdb] at hrow
      exact (hc.rows row hrow).imp (fun hm => launchMarked_step hm h)
        fun ha => accounted_step ha h
    · intro j row hrow
      rw [handled_spawned hs] at hrow
      exact found_step (hc.found j row hrow) h
    · intro j hdone
      rw [handled_spawned hs] at hdone ⊢
      exact hc.attributed j hdone
    · rw [hcount, failureCount, hdeployment]
      exact hc.counted
    · rw [hcount]
      simpa only [handled_spawned hs] using hc.latest
    · intro j dep hseen
      rw [handled_spawned hs] at hseen
      rw [hdeployment]
      exact hc.seen j dep hseen
    · intro j hstopped
      rw [handled_spawned hs] at hstopped
      rw [status, hdeployment]
      exact hc.stopped j hstopped
  · have hother : ∀ j, i ≠ j → handled id j c' = handled id j c := by
      intro j hij
      rw [handled_executed hs, if_neg hij]
    refine ⟨hdisciplined, hlaunch, rows_executed hc h hs, ?_, ?_, counted_executed hc h hs,
      latest_executed hc hs, ?_, ?_⟩
    · intro j row hrow
      by_cases hij : i = j
      · subst hij
        exact found_executed hc hno h hs row hrow
      · rw [hother j hij] at hrow
        exact found_step (hc.found j row hrow) h
    · intro j hdone
      by_cases hij : i = j
      · subst hij
        exact attributed_executed hc hs hdone
      · rw [hother j hij] at hdone ⊢
        exact hc.attributed j hdone
    · intro j dep hseen
      by_cases hij : i = j
      · subst hij
        exact seen_executed hc h hs dep hseen
      · rw [hother j hij] at hseen
        obtain ⟨cur, hcur, hsame⟩ := hc.seen j dep hseen
        obtain ⟨cur', hcur', htotal, hthreshold, -⟩ := deployment_step_fixed h hcur
        exact ⟨cur', hcur', htotal.trans hsame.1, hthreshold.trans hsame.2⟩
    · intro j hstopped
      by_cases hij : i = j
      · subst hij
        exact stopped_executed hc h hs hstopped
      · rw [hother j hij] at hstopped
        obtain ⟨row, hrow⟩ :=
          Option.ne_none_iff_exists'.mp (hc.attributed j (Or.inr (Or.inr hstopped)))
        have hlaunched := hc.launch.launched (hc.found j row hrow).marked
        exact hlaunched.not_running_step (hc.stopped j hstopped) h

end

/-! ## When all errors are processed -/

/-- Each of the devices has reported an error that was handled for the deployment, and
every callback that has found a row of the deployment has returned, no statement of it
having failed. -/
structure ErrorsProcessed (id : DeploymentID) (devs : List Device) (c : Config) : Prop where
  reported : ∀ dev ∈ devs, ∃ j text p,
    c.thread j = some (.error ⟨dev.id, text⟩, p) ∧ (handled id j c).row ≠ none
  finished : ∀ j call p, c.thread j = some (call, p) → (handled id j c).row ≠ none →
    p = .done () ∧ (handled id j c).failed = false

section

variable {id : DeploymentID} {devs : List Device} {c : Config}

/-- A callback that has found a row has done everything about it. -/
theorem ErrorsProcessed.evaluated (hall : ErrorsProcessed id devs c)
    (hc : FailureInvariant id c) {j : Nat} (hrow : (handled id j c).row ≠ none) :
    Evaluated (handled id j c) := by
  obtain ⟨row, hfound⟩ := Option.ne_none_iff_exists'.mp hrow
  obtain ⟨text, p, hj⟩ := (hc.found j row hfound).thread
  obtain ⟨rfl, hfailed⟩ := hall.finished j _ p hj hrow
  have hprocessed : Processed (handled id j c) := hc.disciplined.obeys j _ _ hj
  rcases hprocessed with hfailed' | hevaluated
  · rw [hfailed] at hfailed'
    cases hfailed'
  · exact hevaluated

/-- The failure of each device is counted. -/
theorem ErrorsProcessed.counted (hall : ErrorsProcessed id devs c)
    (hc : FailureInvariant id c) {dev : Device} (hdev : dev ∈ devs) :
    ∃ j text p, c.thread j = some (.error ⟨dev.id, text⟩, p) ∧
      (handled id j c).counted = true := by
  obtain ⟨j, text, p, hj, hrow⟩ := hall.reported dev hdev
  obtain ⟨row, hfound⟩ := Option.ne_none_iff_exists'.mp hrow
  obtain ⟨text', p', hj'⟩ := (hc.found j row hfound).thread
  have hdevice : row.deviceID = dev.id := by
    obtain ⟨⟨hdevice, -⟩, -⟩ : (dev.id = row.deviceID ∧ text = text') ∧ p = p' := by
      simpa [hj] using hj'
    exact hdevice.symm
  have hwritten : WrittenBy id dev.id c := by
    have haccounted := (hc.found j row hfound).accounted
    rw [Accounted, hdevice] at haccounted
    rcases haccounted with hpending | hwritten
    · have hwrote := (hall.evaluated hc hrow).written row hfound
      simp only [hpending, String.reduceEq, false_or] at hwrote
      exact ⟨j, text, p, hj, hwrote⟩
    · exact hwritten
  obtain ⟨j', text'', p'', hj'', hwrote⟩ := hwritten
  have hrow' : (handled id j' c).row ≠ none := hc.attributed j' (Or.inl hwrote)
  exact ⟨j', text'', p'', hj'', (hall.evaluated hc hrow').counted hwrote⟩

/-- A thread that has counted a failure has done so in the history. -/
theorem counted_event {events : List Event} {g : Processing} (hg : g.counted = false)
    (h : (events.foldl (fun g e => g.after id e.op e.ret) g).counted = true) :
    ∃ e ∈ events, countsFailure id e.op e.ret = true := by
  induction events generalizing g with
  | nil => simp [hg] at h
  | cons e events ih =>
      by_cases hcounts : countsFailure id e.op e.ret = true
      · exact ⟨e, List.mem_cons_self, hcounts⟩
      · have hsame : (g.after id e.op e.ret).counted = false := by
          obtain ⟨i, op, r⟩ := e
          have hstep := Processing.after_step id g op r
          dsimp only at hcounts ⊢
          generalize g.after id op r = g' at hstep ⊢
          cases hstep with
          | counted u => exact absurd (Bool.and_eq_true_iff.mpr ⟨decide_eq_true rfl, rfl⟩) hcounts
          | idle | failed | found | wrote | read | setStatus => exact hg
        obtain ⟨e', he', hcounts'⟩ := ih hsame h
        exact ⟨e', List.mem_cons_of_mem e he', hcounts'⟩

/-- Every device has its own counted failure. -/
theorem ErrorsProcessed.length_le (hall : ErrorsProcessed id devs c)
    (hc : FailureInvariant id c) (hdistinct : (devs.map fun dev => dev.id).Nodup) :
    devs.length ≤ failuresCounted id c := by
  let reporter : Event → Option DeviceID := fun e =>
    (c.thread e.thread).bind fun t => Call.reports t.1
  have hsubset : ((devs.map fun dev => dev.id).map some) ⊆
      (c.trace.filter fun e => countsFailure id e.op e.ret).map reporter := by
    intro reported hmem
    obtain ⟨deviceID, hdevice, rfl⟩ := List.mem_map.mp hmem
    obtain ⟨dev, hdev, rfl⟩ := List.mem_map.mp hdevice
    obtain ⟨j, text, p, hj, hcounted⟩ := hall.counted hc hdev
    obtain ⟨e, he, hcounts⟩ := counted_event rfl hcounted
    obtain ⟨hmem, hthread⟩ := List.mem_filter.mp he
    have hthread : e.thread = j := by simpa using hthread
    refine List.mem_map.mpr ⟨e, List.mem_filter.mpr ⟨hmem, hcounts⟩, ?_⟩
    simp [reporter, hthread, hj, Call.reports]
  have hnodup : ((devs.map fun dev => dev.id).map some).Nodup :=
    hdistinct.map (Option.some_injective _)
  have hlength := (List.subperm_of_subset hnodup hsubset).length_le
  rw [List.length_map, List.length_map, List.length_map, ← List.countP_eq_length_filter]
    at hlength
  exact hlength

/-- When the processed errors reach the threshold, the deployment is not running. -/
theorem not_running_of_errors (hall : ErrorsProcessed id devs c) (hc : FailureInvariant id c)
    (hne : devs ≠ []) (hdistinct : (devs.map fun dev => dev.id).Nodup)
    (hthreshold : ∀ dep, deployment c id = some dep →
      dep.rollbackThreshold ≤ (devs.length : ℚ) / dep.totalDevices) :
    status c id ≠ some .running := by
  have hlength := hall.length_le hc hdistinct
  have hpos : 0 < devs.length := List.length_pos_of_ne_nil hne
  obtain hzero | ⟨j, hcounted, hlatest⟩ := hc.latest
  · omega
  · have hrow := hc.attributed j (Or.inr (Or.inl hcounted))
    obtain hstopped | ⟨dep, hseen, hbelow⟩ := (hall.evaluated hc hrow).decided hcounted
    · exact hc.stopped j hstopped
    · -- The last callback to count has read all failures, so it cannot be below.
      exfalso
      obtain ⟨cur, hcur, htotal, hsame⟩ := hc.seen j dep hseen
      have hcount : devs.length ≤ dep.failureCount + 1 := by
        have hle := hlatest dep hseen
        omega
      have hrate : (devs.length : ℚ) / dep.totalDevices ≤ dep.failureRate := by
        rw [Deployment.failureRate]
        gcongr
      have hle := hthreshold cur hcur
      rw [hsame, htotal] at hle
      have hbreached : dep.breached = true := decide_eq_true (hle.trans hrate)
      rw [hbelow] at hbreached
      cases hbreached

end

end ControlPlane

end OtaRobot
