import Mathlib.Data.List.Induction
import OtaRobot.Rollout.Operations

/-!
# The launch of a deployment

{lit}`CreateDeployment` inserts the row as {lit}`pending`, sets it {lit}`running` and
calls {lit}`StartRollout`.  Only the thread that has created the row knows its id when
it does so; from {lit}`StartRollout` on nobody writes {lit}`running` any more.

Main results:

- Theorem {lit}`launched_of_startRollout`: a deployment whose {lit}`StartRollout` was
  called is launched.
- Theorem {lit}`launched_step`: a launched deployment stays launched.
- Theorem {lit}`Launched.status_step`: the status of a launched deployment only
  becomes {lit}`completed` or {lit}`rolled_back`.
-/

namespace OtaRobot

open Prog Transition

namespace ControlPlane

/-- The operations by which a creation goes on once it has set the deployment
running: the insert of a row and the call of {lit}`StartRollout`. -/
def marksLaunch (id : DeploymentID) : Op → Bool
  | .sql (.createDeploymentDevice p) => p.deploymentID = id
  | .startRollout id' => id' = id
  | _ => false

/-- The operation neither launches the deployment nor sets it running. -/
structure Settled (id : DeploymentID) (op : Op) : Prop where
  noLaunch : marksLaunch id op = false
  status : ∀ st, op = .sql (.updateDeploymentStatus id st) → st = .completed ∨ st = .rolledBack

/-- The operation does not dispatch the deployment either. -/
structure Aloof (id : DeploymentID) (op : Op) : Prop extends Settled id op where
  noUpdate : ∀ deviceID cmd, op ≠ .publishCommand id deviceID (.update cmd)

/-- The thread writes no status but {lit}`completed` and {lit}`rolled_back`. -/
def StatusSettled (id : DeploymentID) (p : Rollout Unit) : Prop :=
  Always (Foreign id) (fun op => ∀ st, op = .sql (.updateDeploymentStatus id st) →
    st = .completed ∨ st = .rolledBack) p

/-- The deployment exists and its launch is over. -/
structure Launched (id : DeploymentID) (c : Config) : Prop where
  exists_ : deployment c id ≠ none
  settled : c.AllThreads fun _ p => StatusSettled id p

/-- {lit}`CreateDeployment` has called {lit}`StartRollout` for the deployment. -/
def StartRolloutCalled (id : DeploymentID) (c : Config) : Prop :=
  ∃ e ∈ c.trace, e.op = .startRollout id

/-- {lit}`CreateDeployment` has gone on to the rows of the deployment. -/
def LaunchMarked (id : DeploymentID) (c : Config) : Prop :=
  ∃ e ∈ c.trace, marksLaunch id e.op = true

/-- Who was started is launched. -/
theorem StartRolloutCalled.launchMarked {id : DeploymentID} {c : Config}
    (h : StartRolloutCalled id c) : LaunchMarked id c := by
  obtain ⟨e, he, hop⟩ := h
  exact ⟨e, he, by rw [hop]; exact decide_eq_true rfl⟩

/-- Who is launched stays so. -/
theorem launchMarked_step {id : DeploymentID} {c c' : Config} {l : Label}
    (hmarked : LaunchMarked id c) (h : step c l = some c') : LaunchMarked id c' := by
  obtain ⟨e, he, hop⟩ := hmarked
  exact ⟨e, (Machine.step_trace h).subset he, hop⟩

/-! ## Every thread but the creator is settled -/

theorem HandlerOp.settled {op : Op} (h : HandlerOp op) (id : DeploymentID) : Settled id op := by
  cases h <;> exact ⟨rfl, by simp⟩

theorem CanaryOp.settled {depID : DeploymentID} {cmd : UpdateCommand} {op : Op}
    (h : CanaryOp depID cmd op) (id : DeploymentID) : Settled id op := by
  cases h <;> exact ⟨rfl, by simp⟩

/-- The start of another deployment. -/
theorem startRollout_aloof (id : DeploymentID) {depID : DeploymentID} (hne : depID ≠ id)
    (strategy : Strategy) (devs : List Device) (cmd : UpdateCommand) :
    Always (Foreign id) (Aloof id) (OtaRobot.startRollout depID strategy devs cmd) := by
  rw [OtaRobot.startRollout, markStartRollout_bind]
  refine ⟨⟨⟨by simp [marksLaunch, hne], by simp⟩, by simp⟩, fun _ _ => ?_⟩
  split
  · trivial
  · split
    · exact ⟨⟨⟨rfl, by simp⟩, by simp⟩, fun _ _ => trivial⟩
    · refine Always.bind ?_ fun _ => ?_
      · exact (dispatch_ops depID cmd devs).mono (fun _ _ _ => trivial)
          (by rintro _ ⟨⟩; exact ⟨⟨rfl, by simp⟩, by simp [hne]⟩)
      · exact ⟨⟨⟨rfl, by simp⟩, by simp⟩, fun _ _ => trivial⟩

/-- The creation of another deployment. -/
theorem launchDeployment_aloof (id : DeploymentID) (fw : FirmwareVersion) (url : String)
    (strategy : Strategy) (threshold : ℚ) (targetHw : String) (devs : List Device) :
    Always (Foreign id) (Aloof id)
      (launchDeployment fw url strategy threshold targetHw devs) := by
  rw [launchDeployment, query_bind]
  refine ⟨⟨⟨rfl, by simp⟩, by simp⟩, ?_⟩
  rintro (_ | dep) hforeign
  · exact ⟨⟨⟨rfl, by simp⟩, by simp⟩, fun _ _ => trivial⟩
  · have hne : dep.id ≠ id := hforeign dep rfl
    dsimp only
    rw [query_bind]
    refine ⟨⟨⟨rfl, by simp [hne]⟩, by simp⟩, fun _ _ => ?_⟩
    refine Always.bind ?_ fun _ => ?_
    · exact (createDeploymentDevices_ops dep.id devs).mono (fun _ _ _ => trivial)
        (by rintro _ ⟨⟩; exact ⟨⟨by simp [marksLaunch, hne], by simp⟩, by simp⟩)
    · refine Always.bind (startRollout_aloof id hne _ _ _) fun outcome => ?_
      cases outcome <;> exact ⟨⟨⟨rfl, by simp⟩, by simp⟩, fun _ _ => trivial⟩

/-- A request that creates another deployment. -/
theorem createDeployment_aloof (id : DeploymentID) (req : CreateDeploymentRequest) :
    Always (Foreign id) (Aloof id) (OtaRobot.createDeployment req) :=
  createDeployment_always (by rintro op (_ | _ | _ | _ | _) <;> exact ⟨⟨rfl, by simp⟩, by simp⟩)
    (launchDeployment_aloof id) req

/-- On answers that are not about its own new row, every thread is settled. -/
theorem body_settled (id : DeploymentID) (call : Call) :
    Always (Foreign id) (Settled id) (body call) := by
  cases call with
  | createDeployment req =>
      exact (createDeployment_aloof id req).mono (fun _ _ h => h) fun _ h => h.toSettled
  | runCanary depID devices cmd =>
      exact (runCanary_ops depID devices cmd).mono (fun _ _ _ => trivial)
        fun _ h => CanaryOp.settled h id
  | progress | error | getDeployment | rollback =>
      exact (handler_ops rfl).mono (fun _ _ _ => trivial) fun _ h => HandlerOp.settled h id

/-! ## The creator -/

/-- {lit}`running` is only written before the rows and {lit}`StartRollout`. -/
def launchDiscipline (id : DeploymentID) : Discipline Op.Ret Bool where
  allowed started op := ∀ st, op = .sql (.updateDeploymentStatus id st) →
    st = .completed ∨ st = .rolledBack ∨ (st = .running ∧ started = false)
  rely _ _ _ := True
  next started op _ := started || marksLaunch id op

/-- A procedure without launching operations keeps to the order. -/
private theorem launchOk_of_ops {id : DeploymentID} {α : Type} {Q : Op → Prop}
    {p : Rollout α} (started : Bool) (hp : Always AnyAnswer Q p)
    (hQ : ∀ op, Q op → ∀ st, op = .sql (.updateDeploymentStatus id st) →
      st = .completed ∨ st = .rolledBack) :
    Obeys (launchDiscipline id) (fun _ _ => True) started p :=
  (hp.obeys (G := fun _ => True) (fun _ _ _ _ => trivial)
    (fun _ op _ hop st hst => (hQ op hop st hst).imp_right Or.inl)
    (fun _ _ _ _ _ => trivial) trivial).mono fun _ _ _ => trivial

/-- The mark comes before the commands. -/
theorem startRollout_launch (id depID : DeploymentID) (strategy : Strategy)
    (devs : List Device) (cmd : UpdateCommand) (started : Bool) :
    Obeys (launchDiscipline id) (fun _ _ => True) started
      (OtaRobot.startRollout depID strategy devs cmd) := by
  refine launchOk_of_ops started (Q := fun op => ∀ i st, op ≠ .sql (.updateDeploymentStatus i st))
    ?_ fun op hop st hst => absurd hst (hop id st)
  rw [OtaRobot.startRollout, markStartRollout_bind]
  refine ⟨by simp, fun _ _ => ?_⟩
  split
  · trivial
  · split
    · exact ⟨by simp, fun _ _ => trivial⟩
    · refine Always.bind ?_ fun _ => ⟨by simp, fun _ _ => trivial⟩
      exact (dispatch_ops depID cmd devs).mono (fun _ _ h => h) (by rintro _ ⟨⟩; simp)

/-- The creation comes before the mark. -/
theorem launchDeployment_launch (id : DeploymentID) (fw : FirmwareVersion) (url : String)
    (strategy : Strategy) (threshold : ℚ) (targetHw : String) (devs : List Device) :
    Obeys (launchDiscipline id) (fun _ _ => True) false
      (launchDeployment fw url strategy threshold targetHw devs) := by
  rw [launchDeployment, query_bind]
  refine ⟨by rintro _ ⟨⟩, ?_⟩
  rintro (_ | dep) -
  · exact ⟨by rintro _ ⟨⟩, fun _ _ => trivial⟩
  · dsimp only
    rw [query_bind]
    refine ⟨?_, fun _ _ => ?_⟩
    · rintro st hst
      obtain ⟨-, rfl⟩ : dep.id = id ∧ DeploymentStatus.running = st := by simpa using hst
      exact Or.inr (Or.inr ⟨rfl, rfl⟩)
    · refine Obeys.bind (M := fun _ _ => True) ?_ fun started _ _ => ?_
      · exact launchOk_of_ops _ (createDeploymentDevices_ops dep.id devs)
          (by rintro _ ⟨⟩; simp)
      · refine (startRollout_launch id dep.id _ _ _ _).bind fun _ outcome _ => ?_
        cases outcome <;> exact ⟨by rintro _ ⟨⟩, fun _ _ => trivial⟩

/-- Every thread keeps the order of {lit}`running` and {lit}`StartRollout`. -/
theorem body_launch (id : DeploymentID) (call : Call) :
    Obeys (launchDiscipline id) (fun _ _ => True) false (body call) := by
  cases call with
  | createDeployment req =>
      refine createDeployment_obeys ?_ (launchDeployment_launch id) req
      rintro op (_ | _ | _ | _ | _) <;>
        exact ⟨by rintro _ ⟨⟩, fun _ => rfl⟩
  | runCanary depID devices cmd =>
      exact launchOk_of_ops false (runCanary_ops depID devices cmd)
        fun _ h => (CanaryOp.settled h id).status
  | progress | error | getDeployment | rollback =>
      exact launchOk_of_ops false (handler_ops rfl) fun _ h => (HandlerOp.settled h id).status

/-! ## The launch along a run -/

/-- The threads in {lit}`S` are settled. -/
def SettledOn (id : DeploymentID) (c : Config) (S : Nat → Prop) : Prop :=
  ∀ j tag p, c.thread j = some (tag, p) → S j → Always (Foreign id) (Settled id) p

/-- The start of a thread keeps the settled threads settled. -/
theorem spawned_settledOn {id : DeploymentID} {c c' : Config} {i : Nat} {call : Call}
    {S : Nat → Prop} (hs : machine.Spawned c c' i call) (hc : SettledOn id c S) :
    SettledOn id c' S := by
  intro j tag p hj hS
  rw [hs.threads] at hj
  split at hj
  · obtain ⟨rfl, rfl⟩ : call = tag ∧ body call = p := by simpa [machine] using hj
    exact body_settled id call
  · exact hc j tag p hj hS

/-- A plausible answer keeps a thread settled. -/
theorem executed_settledOn {id : DeploymentID} {c c' : Config} {i : Nat} {x : Choice}
    {call : Call} {op : Op} {k : op.Ret → Rollout Unit} {r : op.Ret} {S : Nat → Prop}
    (hs : machine.Executed c c' i x call op k r) (hc : SettledOn id c S)
    (hanswer : S i → Foreign id op r) : SettledOn id c' S := by
  intro j tag p hj hS
  rw [hs.threads] at hj
  split at hj
  · rename_i hji
    obtain ⟨rfl, rfl⟩ : call = tag ∧ k r = p := by simpa using hj
    subst hji
    exact (hc j call _ hs.before hS).2 r (hanswer hS)
  · exact hc j tag p hj hS

/-- A settled thread does not launch the deployment. -/
theorem SettledOn.not_start {id : DeploymentID} {c c' : Config} {i : Nat} {x : Choice}
    {call : Call} {op : Op} {k : op.Ret → Rollout Unit} {r : op.Ret} {S : Nat → Prop}
    (hc : SettledOn id c S) (hs : machine.Executed c c' i x call op k r) (hS : S i) :
    marksLaunch id op = false :=
  (hc i call _ hs.before hS).1.noLaunch

/-- Only the creator of the deployment can launch it, and nobody before it exists. -/
structure LaunchInvariant (id : DeploymentID) (c : Config) : Prop where
  disciplined : Machine.Disciplined (fun _ => launchDiscipline id) (fun _ _ => True)
    (fun _ => false) c
  creator : ∃ creator, SettledOn id c (fun j => j ≠ creator ∨ deployment c id = none) ∧
    ∀ e ∈ c.trace, marksLaunch id e.op = true → e.thread = creator ∧ deployment c id ≠ none

/-- Nothing is launched at the start. -/
theorem launchInvariant_start (id : DeploymentID) (db : Db) :
    LaunchInvariant id (start db) where
  disciplined := Machine.disciplined_initial _ _ _ _
  creator := ⟨0, fun _ _ _ h => by simp [start, Machine.initial, Machine.Config.thread] at h,
    by simp [start, Machine.initial]⟩

/-- A step keeps the order of every launch. -/
theorem launchInvariant_step {id : DeploymentID} {c c' : Config} {l : Label}
    (hc : LaunchInvariant id c) (h : step c l = some c') : LaunchInvariant id c' := by
  refine ⟨Machine.step_disciplined h hc.disciplined (body_launch id)
    fun _ _ _ _ _ _ _ => trivial, ?_⟩
  obtain ⟨creator, hsettled, htrace⟩ := hc.creator
  obtain ⟨i, call, -, hs⟩ | ⟨i, x, call, op, k, r, -, hs⟩ := Machine.step_cases h
  · have hsame : deployment c' id = deployment c id := by
      rw [deployment, accept_db hs.accepted]
      rfl
    refine ⟨creator, ?_, ?_⟩
    · rw [hsame]
      exact spawned_settledOn hs hsettled
    · rw [hs.trace, hsame]
      exact htrace
  · obtain ⟨hr, hstore⟩ := executed_answer hs
    have hlast : ∀ e ∈ c'.trace, marksLaunch id e.op = true →
        e ∈ c.trace ∨ (e.thread = i ∧ marksLaunch id op = true) := by
      intro e he hop
      rw [hs.trace, List.mem_append, List.mem_singleton] at he
      rcases he with he | rfl
      · exact Or.inl he
      · exact Or.inr ⟨rfl, hop⟩
    by_cases hbefore : deployment c id = none
    · -- Nobody has started the deployment yet.
      have hall : SettledOn id c fun _ => True := fun j tag p hj _ =>
        hsettled j tag p hj (Or.inr hbefore)
      have hstart : marksLaunch id op = false := hall.not_start hs trivial
      have hempty : ∀ e ∈ c'.trace, marksLaunch id e.op ≠ true := by
        intro e he hop
        rcases hlast e he hop with he | ⟨-, hop⟩
        · exact (htrace e he hop).2 hbefore
        · simp [hstart] at hop
      by_cases hafter : deployment c' id = none
      · refine ⟨creator, ?_, fun e he hop => absurd hop (hempty e he)⟩
        have hforeign : Foreign id op r := by
          rcases exec_foreign_or_created c.store id op x with hforeign | ⟨-, hne⟩
          · rw [hr]
            exact hforeign
          · rw [← hstore] at hne
            exact absurd hafter hne
        intro j tag p hj _
        exact executed_settledOn hs hall (fun _ => hforeign) j tag p hj trivial
      · refine ⟨i, ?_, fun e he hop => absurd hop (hempty e he)⟩
        intro j tag p hj hj'
        have hne : j ≠ i := hj'.resolve_right hafter
        rw [hs.threads, if_neg hne] at hj
        exact hall j tag p hj trivial
    · have hafter : deployment c' id ≠ none := deployment_step_ne_none h hbefore
      refine ⟨creator, ?_, ?_⟩
      · have hothers : SettledOn id c fun j => j ≠ creator := fun j tag p hj hne =>
          hsettled j tag p hj (Or.inl hne)
        intro j tag p hj hj'
        exact executed_settledOn hs hothers (fun _ => executed_foreign hs hbefore) j tag p hj
          (hj'.resolve_right hafter)
      · intro e he hop
        refine ⟨?_, hafter⟩
        rcases hlast e he hop with he | ⟨hthread, hop'⟩
        · exact (htrace e he hop).1
        · by_contra hne
          have hsettledOp := hsettled.not_start hs (Or.inl (hthread ▸ hne))
          simp [hsettledOp] at hop'

theorem launchInvariant_run {id : DeploymentID} {db : Db} {ls : List Label} {c : Config}
    (h : run step (start db) ls = some c) : LaunchInvariant id c :=
  run_invariant (fun _ _ _ hc hstep => launchInvariant_step hc hstep)
    (launchInvariant_start id db) h

/-! ## Launched deployments -/

/-- A thread that has launched the deployment writes {lit}`running` no more. -/
theorem ghost_started {id : DeploymentID} {i : Nat} {trace : List Event}
    (h : ∃ e ∈ trace, marksLaunch id e.op = true ∧ e.thread = i) :
    Machine.ghost (launchDiscipline id) false i trace = true := by
  induction trace using List.reverseRecOn with
  | nil => simp at h
  | append_singleton trace e ih =>
      rw [Machine.ghost_append]
      split
      · rename_i hthread
        by_cases hop : marksLaunch id e.op = true
        · simp [launchDiscipline, hop]
        · obtain ⟨e', he', hop', hthread'⟩ := h
          rw [List.mem_append, List.mem_singleton] at he'
          rcases he' with he' | rfl
          · rw [ih ⟨e', he', hop', hthread'⟩]
            rfl
          · exact absurd hop' hop
      · rename_i hthread
        obtain ⟨e', he', hop', hthread'⟩ := h
        rw [List.mem_append, List.mem_singleton] at he'
        rcases he' with he' | rfl
        · exact ih ⟨e', he', hop', hthread'⟩
        · exact absurd hthread' hthread

/-- A deployment whose creation has gone on to its rows is launched. -/
theorem LaunchInvariant.launched {id : DeploymentID} {c : Config}
    (hinv : LaunchInvariant id c) (hmarked : LaunchMarked id c) : Launched id c := by
  obtain ⟨creator, hsettled, htrace⟩ := hinv.creator
  obtain ⟨e, he, hop⟩ := hmarked
  obtain ⟨hthread, hexists⟩ := htrace e he hop
  refine ⟨hexists, fun j tag p hj => ?_⟩
  by_cases hne : j = creator
  · have hghost : Machine.ghost (launchDiscipline id) false j c.trace = true :=
      ghost_started ⟨e, he, hop, hthread.trans hne.symm⟩
    refine (hinv.disciplined.obeys j tag p hj).always (G := fun started => started = true)
      (fun _ _ _ _ => trivial) ?_ ?_ hghost
    · rintro _ op rfl hallowed st hst
      rcases hallowed st hst with h | h | ⟨-, h⟩
      · exact Or.inl h
      · exact Or.inr h
      · simp at h
    · rintro _ op r rfl
      simp [launchDiscipline]
  · exact (hsettled j tag p hj (Or.inl hne)).mono (fun _ _ h => h) fun _ h => h.status

/-- A deployment whose {lit}`StartRollout` was called is launched. -/
theorem launched_of_startRollout {id : DeploymentID} {db : Db} {ls : List Label} {c : Config}
    (h : run step (start db) ls = some c) (hcalled : StartRolloutCalled id c) :
    Launched id c :=
  (launchInvariant_run h).launched hcalled.launchMarked

/-- Who is launched stays so. -/
theorem launched_step {id : DeploymentID} {c c' : Config} {l : Label} (hc : Launched id c)
    (h : step c l = some c') : Launched id c' := by
  refine ⟨deployment_step_ne_none h hc.exists_, ?_⟩
  refine Machine.step_allThreads h hc.settled (fun _ tag _ _ => ?_)
    fun i x tag op k r _ hs hp => hp.2 r (executed_foreign hs hc.exists_)
  exact (body_settled id tag).mono (fun _ _ h => h) fun _ h => h.status

/-- A step that changes the status of a launched deployment executes one of the
two status updates. -/
theorem Launched.status_step {id : DeploymentID} {c c' : Config} {l : Label}
    (hc : Launched id c) (h : step c l = some c') :
    status c' id = status c id ∨
      ∃ i x tag st k r, l = .step i x ∧
        machine.Executed c c' i x tag (.sql (.updateDeploymentStatus id st)) k r ∧
        (st = .completed ∨ st = .rolledBack) ∧ status c' id = some st := by
  obtain ⟨d, hd⟩ := Option.ne_none_iff_exists'.mp hc.exists_
  rcases deployment_step h hd with hkeep | ⟨i, x, tag, op, k, r, hl, hs, hchange⟩
  · exact Or.inl (by simp [status, hkeep, hd])
  · cases op with
    | sql q =>
        have hid : d.id = id := Db.deployment_id hd
        rcases q.onDeployment_status d with hsame | hwrite
        · exact Or.inl (by simp [status, hchange, hd, Op.onDeployment, hsame])
        · right
          rw [hid] at hwrite
          have hst := (hc.settled i tag _ hs.before).1 (q.onDeployment d).status
            (congrArg Op.sql hwrite)
          have hafter : status c' id = some (q.onDeployment d).status := by
            simp [status, hchange, Op.onDeployment]
          generalize (q.onDeployment d).status = st at hwrite hst hafter
          subst hwrite
          exact ⟨i, x, tag, st, k, r, hl, hs, hst, hafter⟩
    | _ => exact Or.inl (by simp [status, hchange, hd, Op.onDeployment])

end ControlPlane

end OtaRobot
