import OtaRobot.Registry
import OtaRobot.Rollout.Operations

/-!
# The population of a deployment

{lit}`CreateDeployment` fixes {lit}`total_devices` and inserts one row for each target; the
rows live in another table, from which deletions of devices take them away.

Main results:

- Theorem {lit}`createDeployment_population`: a creation attempts one insert for each counted
  target before it answers 201.
- Theorem {lit}`target_population`: the rows of a running deployment are as many as
  {lit}`total_devices` says, for distinct devices.
-/

namespace OtaRobot

open Prog Transition

/-! ## What a creation attempts -/

/-- The size a creation has fixed, the devices it has tried to insert a row for, and whether it
has answered 201. -/
structure Population where
  total : Nat
  attempted : List DeviceID
  answered : Bool := false

/-- The attempt to insert a row. -/
def Population.attempt (g : Population) (deviceID : DeviceID) : Population :=
  { g with attempted := g.attempted ++ [deviceID] }

/-- A creation sets its deployment running before the first insert, inserts before it
answers, and answers 201 when it has tried to insert a row for each target. -/
def PopulationAllowed (id : DeploymentID) (g : Option Population) : Op → Prop
  | .sql (.updateDeploymentStatus i .running) => i = id → ∃ p, g = some p ∧ p.attempted = []
  | .sql (.createDeploymentDevice p) => p.deploymentID = id → ∃ p, g = some p ∧ p.answered = false
  | .respond (.created i _ _) => i = id → ∃ p, g = some p ∧ p.attempted.length = p.total
  | _ => True

/-- The population of the deployment after an operation. -/
def populationNext (id : DeploymentID) (g : Option Population) :
    (op : Op) → op.Ret → Option Population
  | .sql (.createDeployment p), r =>
      match (r : Option Deployment) with
      | some d => if d.id = id then some { total := p.totalDevices, attempted := [] } else g
      | none => g
  | .sql (.createDeploymentDevice p), _ =>
      if p.deploymentID = id then g.map fun q => q.attempt p.deviceID else g
  | .respond (.created i _ _), _ =>
      if i = id then g.map fun q => { q with answered := true } else g
  | _, _ => g

/-- The creations carry the population along; other threads neither create nor launch. -/
def populationDiscipline (id : DeploymentID) : Call → Discipline Op.Ret (Option Population)
  | .createDeployment _ =>
      { allowed := PopulationAllowed id
        rely := fun _ _ _ => True
        next := populationNext id }
  | _ =>
      { allowed := fun _ op => (∀ p, op ≠ .sql (.createDeployment p)) ∧
          (∀ p, op ≠ .sql (.createDeploymentDevice p)) ∧
            ∀ i, op ≠ .sql (.updateDeploymentStatus i .running)
        rely := fun _ _ _ => True
        next := fun g _ _ => g }

section

variable {id : DeploymentID} {req : CreateDeploymentRequest} {α : Type} {g : Option Population}

/-- One operation of a creation. -/
theorem population_call {op : Op} {k : op.Ret → Rollout α} {post : Option Population → α → Prop}
    (hop : PopulationAllowed id g op)
    (hk : ∀ r, Obeys (populationDiscipline id (.createDeployment req)) post
      (populationNext id g op r) (k r)) :
    Obeys (populationDiscipline id (.createDeployment req)) post g (.call op k) :=
  ⟨hop, fun r _ => hk r⟩

theorem population_error (status : Nat) (text : String) :
    Obeys (populationDiscipline id (.createDeployment req)) (fun _ _ => True) g
      (reply (.error status text)) :=
  population_call trivial fun _ => trivial

/-- The targets, or an error answer. -/
def SelectsTargets (g g' : Option Population) (r : Except Reply (List Device)) : Prop :=
  g' = g ∧ ∀ answer, r = .error answer → ∃ status text, answer = .error status text

/-- Looking up targets creates nothing. -/
theorem lookupTargets_population (targetHw : String) (ids : List DeviceID)
    (targets : List Device) :
    Obeys (populationDiscipline id (.createDeployment req)) (SelectsTargets g) g
      (lookupTargets targetHw ids targets) := by
  induction ids generalizing targets with
  | nil => exact ⟨rfl, fun answer h => by cases h⟩
  | cons i ids ih =>
      rw [lookupTargets, query_bind]
      refine population_call trivial fun (r : Option Device) => ?_
      cases r with
      | none => exact ih targets
      | some dev =>
          dsimp only
          split
          · refine ⟨rfl, fun answer h => ?_⟩
            cases h
            exact ⟨_, _, rfl⟩
          · exact ih _

theorem selectTargets_population (targetHw : String) (ids : List DeviceID) :
    Obeys (populationDiscipline id (.createDeployment req)) (SelectsTargets g) g
      (selectTargets targetHw ids) := by
  unfold selectTargets
  split
  · exact lookupTargets_population targetHw ids []
  · rw [query_bind]
    refine population_call trivial fun (r : Option (List Device)) => ?_
    cases r with
    | none =>
        refine ⟨rfl, fun answer h => ?_⟩
        cases h
        exact ⟨_, _, rfl⟩
    | some devs => exact ⟨rfl, fun answer h => by cases h⟩

/-- The loop attempts one insert for each target. -/
theorem createDeploymentDevices_population (devs : List Device) (p : Population)
    (hopen : p.answered = false) :
    Obeys (populationDiscipline id (.createDeployment req))
      (fun g' _ => g' = some { p with attempted := p.attempted ++ devs.map fun d => d.id })
      (some p) (createDeploymentDevices id devs) := by
  induction devs generalizing p with
  | nil => exact congrArg some (by simp)
  | cons dev devs ih =>
      rw [createDeploymentDevices, query_bind]
      refine population_call (fun _ => ⟨p, rfl, hopen⟩) fun _ => ?_
      have hnext := ih (p.attempt dev.id) hopen
      simp only [Population.attempt, List.append_assoc, List.singleton_append] at hnext
      have hattempt : populationNext id (some p) (.sql (.createDeploymentDevice
          ⟨id, dev.id, some dev.currentVersion⟩)) = fun _ => some (p.attempt dev.id) := by
        funext r
        simp [populationNext]
      refine Obeys.of_eq (congrFun hattempt _) ?_
      exact hnext

/-- The loop of another deployment does not count. -/
theorem createDeploymentDevices_population_ne {depID : DeploymentID} (hne : depID ≠ id)
    (devs : List Device) :
    Obeys (populationDiscipline id (.createDeployment req)) (fun g' _ => g' = g) g
      (createDeploymentDevices depID devs) := by
  induction devs with
  | nil => rfl
  | cons dev devs ih =>
      rw [createDeploymentDevices, query_bind]
      refine population_call (fun h => absurd h hne) fun _ => ?_
      refine Obeys.of_eq ?_ ih
      exact if_neg hne

/-- The start of a rollout creates nothing. -/
theorem startRollout_population (depID : DeploymentID) (strategy : Strategy) (devs : List Device)
    (cmd : UpdateCommand) :
    Obeys (populationDiscipline id (.createDeployment req)) (fun g' _ => g' = g) g
      (startRollout depID strategy devs cmd) := by
  rw [startRollout, markStartRollout_bind]
  refine population_call trivial fun _ => ?_
  split
  · rfl
  · split
    · exact population_call trivial fun _ => rfl
    · have hdispatch : Obeys (populationDiscipline id (.createDeployment req))
          (fun g' _ => g' = g) g (dispatch depID cmd devs) := by
        apply (dispatch_ops depID cmd devs).obeys (G := fun g' => g' = g) (fun _ _ _ _ => trivial)
        · intro g' op _ hop
          cases hop
          trivial
        · intro g' op r hg' hop
          cases hop
          exact hg'
        · rfl
      apply hdispatch.bind
      intro g' _ hg'
      rw [hg']
      exact population_call trivial fun _ => rfl

/-- A deployment is created with its targets. -/
theorem launchDeployment_population (fw : FirmwareVersion) (url : String) (strategy : Strategy)
    (threshold : ℚ) (targetHw : String) (devs : List Device) :
    Obeys (populationDiscipline id (.createDeployment req)) (fun _ _ => True) none
      (launchDeployment fw url strategy threshold targetHw devs) := by
  rw [launchDeployment, query_bind]
  refine population_call trivial fun (r : Option Deployment) => ?_
  cases r with
  | none => exact population_error _ _
  | some dep =>
      dsimp only
      rw [query_bind]
      by_cases hid : dep.id = id
      · let p : Population := { total := devs.length, attempted := [] }
        have hcreated : ∀ q : CreateDeploymentParams, q.totalDevices = devs.length →
            populationNext id none (.sql (.createDeployment q)) (some dep) = some p := by
          intro q hq
          simp [populationNext, hid, hq, p]
        refine Obeys.of_eq (hcreated _ rfl) ?_
        refine population_call (fun _ => ⟨p, rfl, rfl⟩) fun _ => ?_
        rw [hid]
        apply (createDeploymentDevices_population devs p rfl).bind
        intro g' _ hg'
        rw [hg']
        apply (startRollout_population _ _ _ _).bind
        intro g'' outcome hg''
        cases outcome with
        | error text => exact population_error _ _
        | ok _ =>
            refine population_call (fun _ => ?_) fun _ => trivial
            exact ⟨_, hg'', by simp [p]⟩
      · have hforeign : ∀ q : CreateDeploymentParams,
            populationNext id none (.sql (.createDeployment q)) (some dep) = none := by
          intro q
          simp [populationNext, hid]
        refine Obeys.of_eq (hforeign _) ?_
        refine population_call (fun h => absurd h hid) fun _ => ?_
        apply (createDeploymentDevices_population_ne hid devs).bind
        intro g' _ _
        apply (startRollout_population _ _ _ _).bind
        intro g'' outcome _
        cases outcome with
        | error text => exact population_error _ _
        | ok _ => exact population_call (fun h => absurd h hid) fun _ => trivial

/-- A creation attempts one insert for each counted target before it answers 201. -/
theorem createDeployment_population (req : CreateDeploymentRequest) :
    Obeys (populationDiscipline id (.createDeployment req)) (fun _ _ => True) none
      (createDeployment req) := by
  have htargets : ∀ fw url strategy, Obeys (populationDiscipline id (.createDeployment req))
      (fun _ _ => True) none (createForTargets req fw url strategy) := by
    intro fw url strategy
    apply (selectTargets_population _ _).bind
    intro g' r hr
    rw [hr.1]
    cases r with
    | error answer =>
        obtain ⟨status, text, rfl⟩ := hr.2 answer rfl
        exact population_error _ _
    | ok devs =>
        dsimp only
        split
        · exact population_error _ _
        · exact launchDeployment_population _ _ _ _ _ _
  unfold createDeployment
  split
  · exact population_error _ _
  · rw [query_bind]
    refine population_call trivial fun (r : Option FirmwareVersion) => ?_
    cases r with
    | none => exact population_error _ _
    | some fw =>
        dsimp only
        rw [presignedGetObject_bind]
        refine population_call trivial fun (r : Option String) => ?_
        cases r with
        | none => exact population_error _ _
        | some url =>
            dsimp only
            split
            · exact population_error _ _
            · split
              · exact htargets _ _ _
              · exact population_error _ _

/-- Every thread follows the discipline of its call. -/
theorem body_population (call : Call) :
    Obeys (populationDiscipline id call) (fun _ _ => True) none (ControlPlane.body call) := by
  have hother : ∀ {A : Discipline Op.Ret (Option Population)} {Q : Op → Prop} {p : Rollout Unit},
      Always AnyAnswer Q p → (∀ g op, Q op → A.allowed g op) →
        Obeys A (fun _ _ => True) none p := by
    intro A Q p hp hQ
    exact hp.obeys (G := fun _ => True) (fun _ _ _ _ => trivial) (fun g op _ hop => hQ g op hop)
      (fun _ _ _ _ _ => trivial) trivial
  cases call with
  | createDeployment req => exact createDeployment_population req
  | runCanary depID devices cmd =>
      apply hother (runCanary_ops depID devices cmd)
      intro g op hop
      cases hop <;> exact ⟨by simp, by simp, by simp⟩
  | progress | error | getDeployment | rollback =>
      apply hother (handler_ops rfl)
      intro g op hop
      cases hop <;> exact ⟨by simp, by simp, by simp⟩

end

/-! ## The population in the database -/

/-- The deployment has the size of the population.  As long as it runs, and before the first
insert, it has one row for each attempted insert, for distinct devices. -/
def Populated (id : DeploymentID) (p : Population) (db : Db) : Prop :=
  ∃ d, db.deployment id = some d ∧ d.totalDevices = p.total ∧
    (d.status = .running ∨ p.attempted = [] →
      (db.rowsOf id).map (fun row => row.deviceID) = p.attempted ∧ p.attempted.Nodup)

/-- The insert of a row for a device that exists and has none. -/
structure InsertsNew (db : Db) (p : CreateDeploymentDeviceParams) : Prop where
  known : (db.device p.deviceID).isSome = true
  fresh : ∀ row ∈ db.rowsOf p.deploymentID, row.deviceID ≠ p.deviceID

section

variable {id : DeploymentID} {p : Population} {db : Db} {uuid : DeploymentID}

/-- A statement keeps the robots of a deployment. -/
theorem Db.deviceIDs_exec {q : Query}
    (hq : ∀ p, q = .createDeploymentDevice p → p.deploymentID ≠ id) :
    ((db.exec uuid q).2.rowsOf id).map (fun row => row.deviceID) =
      (db.rowsOf id).map fun row => row.deviceID := by
  by_cases hupdate : ∃ p, q = .updateDeploymentDeviceStatus p
  · obtain ⟨p, rfl⟩ := hupdate
    rw [Db.exec, Db.rowsOf_updateDeploymentDeviceStatus, List.map_map]
    apply List.map_congr_left
    intro row _
    simp only [Function.comp]
    split <;> rfl
  · rw [Db.rowsOf_exec hq fun p hp => absurd ⟨p, hp⟩ hupdate]

/-- A statement that inserts no row of the deployment, and does not set it running once rows
have been attempted. -/
theorem Populated.exec {q : Query} (h : Populated id p db)
    (hinsert : ∀ r, q = .createDeploymentDevice r → r.deploymentID ≠ id)
    (hrunning : q = .updateDeploymentStatus id .running → p.attempted = []) :
    Populated id p (db.exec uuid q).2 := by
  obtain ⟨d, hd, htotal, hrows⟩ := h
  refine ⟨q.onDeployment d, Db.deployment_exec hd, ?_, ?_⟩
  · rw [(q.onDeployment_fixed d).2.1, htotal]
  · intro hopen
    rw [Db.deviceIDs_exec hinsert]
    apply hrows
    rcases hopen with hrun | hempty
    · rcases q.onDeployment_status d with hsame | hwrite
      · exact Or.inl (hsame ▸ hrun)
      · rw [hrun, Db.deployment_id hd] at hwrite
        exact Or.inr (hrunning hwrite)
    · exact Or.inr hempty

/-- The insert of a row, which fails only when the deployment does not run. -/
theorem Populated.insert {r : CreateDeploymentDeviceParams} {db' : Db} (h : Populated id p db)
    (hid : r.deploymentID = id)
    (hdb : db' = db ∨ db' = (db.createDeploymentDevice r).2)
    (hnew : ∀ d, db.deployment id = some d → d.status = .running →
      db' = (db.createDeploymentDevice r).2 ∧ InsertsNew db r) :
    Populated id (p.attempt r.deviceID) db' := by
  obtain ⟨d, hd, htotal, hrows⟩ := h
  have hkeep : db'.deployment id = some d := by
    rcases hdb with rfl | rfl
    · exact hd
    · unfold Db.createDeploymentDevice
      split <;> exact hd
  refine ⟨d, hkeep, htotal, ?_⟩
  rintro (hrun | hempty)
  · obtain ⟨rfl, hinsert⟩ := hnew d hd hrun
    obtain ⟨hmap, hnodup⟩ := hrows (Or.inl hrun)
    obtain ⟨device, hdevice⟩ := Option.isSome_iff_exists.mp hinsert.known
    have happend : (db.createDeploymentDevice r).2.rowsOf id = db.rowsOf id ++ [r.row] := by
      unfold Db.createDeploymentDevice
      rw [hid, hd, hdevice]
      simp [Db.rowsOf, List.filter_append, CreateDeploymentDeviceParams.row, hid]
    have hfresh : r.deviceID ∉ p.attempted := by
      rw [← hmap]
      intro hmem
      obtain ⟨row, hrow, hdevice⟩ := List.mem_map.mp hmem
      exact hinsert.fresh row (hid.symm ▸ hrow) hdevice
    constructor
    · rw [happend, List.map_append, hmap]
      rfl
    · rw [Population.attempt, List.nodup_append]
      refine ⟨hnodup, List.nodup_singleton _, ?_⟩
      intro i hi j hj hij
      rw [List.mem_singleton] at hj
      exact hfresh (hj ▸ hij ▸ hi)
  · simp [Population.attempt] at hempty

/-- A deletion that takes no row of the deployment while it runs. -/
theorem Populated.filter {db' : Db} (h : Populated id p db) (keep : DeploymentDevice → Bool)
    (hdeployment : db'.deployment id = db.deployment id)
    (hrows : db'.rowsOf id = (db.rowsOf id).filter keep)
    (hkeep : ∀ d, db.deployment id = some d → d.status = .running →
      ∀ row ∈ db.rowsOf id, keep row = true) : Populated id p db' := by
  obtain ⟨d, hd, htotal, hmap⟩ := h
  refine ⟨d, hdeployment.trans hd, htotal, fun hopen => ?_⟩
  have hsame : db'.rowsOf id = db.rowsOf id := by
    rw [hrows]
    by_cases hrun : d.status = .running
    · exact List.filter_eq_self.mpr (hkeep d hd hrun)
    · have hempty := (hmap hopen).1
      rw [hopen.resolve_left hrun, List.map_eq_nil_iff] at hempty
      rw [hempty]
      rfl
  rw [hsame]
  exact hmap hopen

/-- The insert of the deployment itself. -/
theorem populated_createDeployment {r : CreateDeploymentParams} {d : Deployment}
    (hrows : db.rowsOf id = []) (hd : (db.createDeployment uuid r).1 = some d) (hid : d.id = id) :
    Populated id { total := r.totalDevices, attempted := [] } (db.createDeployment uuid r).2 := by
  obtain ⟨hrow, hfound⟩ := Db.createDeployment_eq_some hd
  refine ⟨d, hid ▸ hfound, by rw [hrow]; rfl, fun _ => ?_⟩
  have hsame : (db.createDeployment uuid r).2.rowsOf id = db.rowsOf id := by
    unfold Db.createDeployment
    split <;> rfl
  rw [hsame, hrows]
  exact ⟨rfl, List.nodup_nil⟩

end

/-! ## Along a run -/

namespace ControlPlane

/-- A creation has answered 201 with the id. -/
def CreationAnswered (id : DeploymentID) (c : Config) : Prop :=
  ∃ i req p n strategy, c.thread i = some (.createDeployment req, p) ∧
    (⟨i, .respond (.created id n strategy), ()⟩ : Event) ∈ c.trace

/-- What a thread has done about the population of the deployment. -/
def populationOf (id : DeploymentID) (i : Nat) (c : Config) : Option Population :=
  match c.thread i with
  | some (tag, _) => Machine.ghost (populationDiscipline id tag) none i c.trace
  | none => none

/-- What the creator has done shows in the database. -/
def Shows (id : DeploymentID) (c : Config) : Option Population → Prop
  | none => deployment c id = none ∧ c.store.db.rowsOf id = [] ∧ ¬ CreationAnswered id c
  | some p => Populated id p c.store.db ∧ (p.answered = true → p.attempted.length = p.total) ∧
      (CreationAnswered id c → p.answered = true)

/-- At most one thread creates the deployment, and what it has done shows. -/
structure PopulationInvariant (id : DeploymentID) (c : Config) : Prop where
  disciplined : Machine.Disciplined (populationDiscipline id) (fun _ _ => True) (fun _ => none) c
  shown : ∃ creator, (∀ j, j ≠ creator → populationOf id j c = none) ∧
    Shows id c (populationOf id creator c)

/-- A new deployment has no population. -/
theorem populationInvariant_start {id : DeploymentID} {db : Db}
    (hnew : db.deployment id = none) (hrows : db.rowsOf id = []) :
    PopulationInvariant id (start db) := by
  refine ⟨Machine.disciplined_initial _ _ _ _, 0, fun j _ => rfl, hnew, hrows, ?_⟩
  rintro ⟨i, req, p, n, strategy, hthread, -⟩
  simp [start, Machine.initial, Machine.Config.thread] at hthread

section

variable {id : DeploymentID} {c c' : Config} {i : Nat} {x : Choice} {call : Call} {op : Op}
  {k : op.Ret → Rollout Unit} {r : op.Ret}

/-- An operation changes what its own thread has created. -/
theorem populationOf_executed (hs : machine.Executed c c' i x call op k r) (j : Nat) :
    populationOf id j c' =
      if j = i then (populationDiscipline id call).next (populationOf id i c) op r
      else populationOf id j c := by
  by_cases hji : j = i
  · subst hji
    simp only [populationOf, hs.threads, hs.before, if_true, hs.trace]
    exact Machine.ghost_append_self _ _ _ _ _ _
  · simp only [populationOf, hs.threads, hs.trace, if_neg hji]
    split
    · exact Machine.ghost_append_ne _ _ _ (Ne.symm hji)
    · rfl

/-- A thread that starts has created nothing. -/
theorem populationOf_spawned (hs : machine.Spawned c c' i call)
    (hclosed : ∀ e ∈ c.trace, c.thread e.thread ≠ none) (j : Nat) :
    populationOf id j c' = populationOf id j c := by
  by_cases hji : j = i
  · subst hji
    have hnil := Machine.eventsOf_eq_nil hclosed hs.fresh
    simp only [populationOf, hs.threads, hs.fresh, if_true, hs.trace, Machine.ghost, hnil]
    rfl
  · simp only [populationOf, hs.threads, hs.trace, if_neg hji]

/-- An answer 201 is an old one, or the one just given. -/
theorem creationAnswered_executed (hs : machine.Executed c c' i x call op k r)
    (h : CreationAnswered id c') :
    CreationAnswered id c ∨ ∃ req n strategy, call = .createDeployment req ∧
      op = .respond (.created id n strategy) := by
  obtain ⟨j, req, p, n, strategy, hthread, hmem⟩ := h
  rw [hs.threads] at hthread
  rw [hs.trace, List.mem_append, List.mem_singleton] at hmem
  rcases hmem with hold | hnew
  · left
    by_cases hji : j = i
    · rw [if_pos hji] at hthread
      obtain ⟨rfl, -⟩ : call = .createDeployment req ∧ _ := by simpa using hthread
      exact ⟨j, req, _, n, strategy, hji ▸ hs.before, hold⟩
    · rw [if_neg hji] at hthread
      exact ⟨j, req, p, n, strategy, hthread, hold⟩
  · right
    have hji : j = i := congrArg Machine.Event.thread hnew
    have hop : Op.respond (.created id n strategy) = op := congrArg Machine.Event.op hnew
    rw [if_pos hji] at hthread
    obtain ⟨rfl, -⟩ : call = .createDeployment req ∧ _ := by simpa using hthread
    exact ⟨req, n, strategy, rfl, hop.symm⟩

/-- The operation does not create the deployment, insert a row of it, or set it running once
rows have been attempted. -/
structure Plain (id : DeploymentID) (g : Option Population) (op : Op) (r : op.Ret) : Prop where
  foreign : Foreign id op r
  insert : ∀ p, op = .sql (.createDeploymentDevice p) → p.deploymentID ≠ id
  running : op = .sql (.updateDeploymentStatus id .running) → ∃ p, g = some p ∧ p.attempted = []

/-- A deployment that does not exist does not appear by a plain operation, nor do its rows. -/
theorem absent_executed {g : Option Population} (hs : machine.Executed c c' i x call op k r)
    (hplain : Plain id g op r) (hnone : deployment c id = none)
    (hrows : c.store.db.rowsOf id = []) :
    deployment c' id = none ∧ c'.store.db.rowsOf id = [] := by
  obtain ⟨hr, hstore⟩ := executed_answer hs
  rw [deployment, hstore]
  cases op with
  | sql q =>
      by_cases hfault : x.fault = true
      · rw [exec_sql, if_pos hfault]
        exact ⟨hnone, hrows⟩
      rw [exec_sql, if_neg hfault] at hr ⊢
      constructor
      · by_contra hne
        obtain ⟨d, hd⟩ := Option.ne_none_iff_exists'.mp hne
        obtain ⟨-, p, rfl⟩ := Db.deployment_exec_none hnone hd
        rcases c.store.db.deployment_createDeployment x.uuid p id with
          ⟨hsame, -⟩ | ⟨-, rfl, d', hd', hid', -⟩
        · exact hne (hsame.trans hnone)
        · exact hplain.foreign d' (hr.trans hd') hid'
      · have hinsert : ∀ p, q = .createDeploymentDevice p → p.deploymentID ≠ id :=
          fun p hp => hplain.insert p (congrArg Op.sql hp)
        have hmap : ((c.store.db.exec x.uuid q).2.rowsOf id).map (fun row => row.deviceID) =
            (c.store.db.rowsOf id).map fun row => row.deviceID := Db.deviceIDs_exec hinsert
        rw [hrows, List.map_nil, List.map_eq_nil_iff] at hmap
        exact hmap
  | _ => exact ⟨hnone, hrows⟩

/-- Plain operations keep what shows. -/
theorem shows_executed {g : Option Population} (hs : machine.Executed c c' i x call op k r)
    (hplain : Plain id g op r) (hanswered : CreationAnswered id c' → CreationAnswered id c)
    (h : Shows id c g) : Shows id c' g := by
  cases g with
  | none =>
      obtain ⟨hnone, hrows, hno⟩ := h
      obtain ⟨hnone', hrows'⟩ := absent_executed hs hplain hnone hrows
      exact ⟨hnone', hrows', fun hyes => hno (hanswered hyes)⟩
  | some p =>
      obtain ⟨hpopulated, hlength, hanswer⟩ := h
      refine ⟨?_, hlength, fun hyes => hanswer (hanswered hyes)⟩
      rw [(executed_answer hs).2]
      cases op with
      | sql q =>
          rcases exec_sql_db c.store q x with hsame | hexec
          · rw [hsame]
            exact hpopulated
          · rw [hexec]
            refine hpopulated.exec (fun r hr => hplain.insert r (congrArg Op.sql hr)) fun hq => ?_
            obtain ⟨p', hp', hempty⟩ := hplain.running (congrArg Op.sql hq)
            rw [Option.some.inj hp']
            exact hempty
      | _ => exact hpopulated

/-- While the deployment runs, the insert of a row of it does not fail, and its device exists
and has no row of it yet. -/
def InsertsTarget (id : DeploymentID) (c : Config) (l : Label) : Prop :=
  ∀ i x call p k, l = .step i x →
    c.thread i = some (call, .call (.sql (.createDeploymentDevice p)) k) → p.deploymentID = id →
      status c id = some .running → x.fault = false ∧ InsertsNew c.store.db p

/-- The answer of a new deployment is not about one that exists. -/
theorem foreign_of_shows {p : Population} (hs : machine.Executed c c' i x call op k r)
    (h : Shows id c (some p)) : Foreign id op r := by
  obtain ⟨⟨d, hd, -⟩, -⟩ := h
  exact executed_foreign hs (Option.ne_none_iff_exists'.mpr ⟨d, hd⟩)

/-- A step that changes no population keeps what shows. -/
theorem shown_plain (hs : machine.Executed c c' i x call op k r) {creator : Nat}
    (hsole : ∀ j, j ≠ creator → populationOf id j c = none)
    (hshows : Shows id c (populationOf id creator c))
    (hkeeps : (populationDiscipline id call).next (populationOf id i c) op r = populationOf id i c)
    (hplain : Plain id (populationOf id creator c) op r)
    (hanswered : CreationAnswered id c' → CreationAnswered id c) :
    ∃ creator, (∀ j, j ≠ creator → populationOf id j c' = none) ∧
      Shows id c' (populationOf id creator c') := by
  have hall : ∀ j, populationOf id j c' = populationOf id j c := by
    intro j
    rw [populationOf_executed hs, hkeeps]
    split
    · rename_i hji
      rw [hji]
    · rfl
  refine ⟨creator, fun j hj => (hall j).trans (hsole j hj), ?_⟩
  rw [hall]
  exact shows_executed hs hplain hanswered hshows

/-- The thread that goes on is the creator. -/
theorem shown_self (hs : machine.Executed c c' i x call op k r)
    (hsole : ∀ j, j ≠ i → populationOf id j c = none) {g : Option Population}
    (hg : (populationDiscipline id call).next (populationOf id i c) op r = g)
    (hshows : Shows id c' g) :
    ∃ creator, (∀ j, j ≠ creator → populationOf id j c' = none) ∧
      Shows id c' (populationOf id creator c') := by
  refine ⟨i, fun j hj => ?_, ?_⟩
  · rw [populationOf_executed hs, if_neg hj]
    exact hsole j hj
  · rw [populationOf_executed hs, if_pos rfl, hg]
    exact hshows

/-- Only the answer of a creation answers it. -/
theorem creationAnswered_of_executed (hs : machine.Executed c c' i x call op k r)
    (hop : ∀ n strategy, op ≠ .respond (.created id n strategy)) (hyes : CreationAnswered id c') :
    CreationAnswered id c := by
  rcases creationAnswered_executed hs hyes with hold | ⟨req, n, strategy, -, hnew⟩
  · exact hold
  · exact absurd hnew (hop n strategy)

/-- The insert of the deployment shows. -/
theorem shows_created {p : CreateDeploymentParams} {d : Deployment}
    {k : Option Deployment → Rollout Unit}
    (hs : machine.Executed c c' i x call (.sql (.createDeployment p)) k (some d))
    (hid : d.id = id) (hrows : c.store.db.rowsOf id = []) (hno : ¬ CreationAnswered id c) :
    Shows id c' (some { total := p.totalDevices, attempted := [] }) := by
  refine ⟨?_, by simp, fun hyes => ?_⟩
  · obtain ⟨hr, hstore⟩ := executed_answer hs
    rw [hstore]
    by_cases hfault : x.fault = true
    · rw [exec_sql, if_pos hfault] at hr
      cases hr
    · rw [exec_sql, if_neg hfault] at hr ⊢
      exact populated_createDeployment hrows hr.symm hid
  · exact absurd (creationAnswered_of_executed hs (by simp) hyes) hno

/-- The attempt to insert a row shows. -/
theorem shows_attempted {p : CreateDeploymentDeviceParams} {q : Population}
    {k : (Op.sql (.createDeploymentDevice p)).Ret → Rollout Unit}
    {r : (Op.sql (.createDeploymentDevice p)).Ret}
    (hs : machine.Executed c c' i x call (.sql (.createDeploymentDevice p)) k r)
    (hid : p.deploymentID = id) (hopen : q.answered = false) (hshows : Shows id c (some q))
    (hkeep : status c id = some .running → x.fault = false ∧ InsertsNew c.store.db p) :
    Shows id c' (some (q.attempt p.deviceID)) := by
  obtain ⟨hpopulated, -, hanswer⟩ := hshows
  refine ⟨?_, ?_, ?_⟩
  · rw [(executed_answer hs).2]
    refine hpopulated.insert hid (exec_sql_db c.store _ x) fun d hd hrun => ?_
    have hrunning : status c id = some .running := by
      rw [status, deployment, hd, Option.map_some, hrun]
    obtain ⟨hfault, hinsert⟩ := hkeep hrunning
    refine ⟨?_, hinsert⟩
    rw [exec_sql, if_neg (by simp [hfault])]
    rfl
  · intro hyes
    exact absurd (show q.answered = true from hyes) (by simp [hopen])
  · intro hyes
    have hold := hanswer (creationAnswered_of_executed hs (by simp) hyes)
    rw [hopen] at hold
    cases hold

/-- One operation of a creation. -/
theorem shown_creation {req : CreateDeploymentRequest}
    (hs : machine.Executed c c' i x (.createDeployment req) op k r) {creator : Nat}
    (hsole : ∀ j, j ≠ creator → populationOf id j c = none)
    (hshows : Shows id c (populationOf id creator c))
    (hallowed : PopulationAllowed id (populationOf id i c) op)
    (hkeep : ∀ p, op = .sql (.createDeploymentDevice p) → p.deploymentID = id →
      status c id = some .running → x.fault = false ∧ InsertsNew c.store.db p) :
    ∃ creator, (∀ j, j ≠ creator → populationOf id j c' = none) ∧
      Shows id c' (populationOf id creator c') := by
  -- A thread with a population is the creator.
  have hcreator : ∀ p, populationOf id i c = some p → i = creator := by
    intro p hp
    by_contra hne
    rw [hsole i hne] at hp
    cases hp
  have hsame := shown_plain hs hsole hshows
  have hanswered : (∀ n strategy, op ≠ .respond (.created id n strategy)) →
      CreationAnswered id c' → CreationAnswered id c := creationAnswered_of_executed hs
  cases op with
  | sql q =>
      cases q with
      | createDeployment p =>
          rcases r with _ | d
          · exact hsame rfl ⟨by rintro _ ⟨⟩, by simp, by simp⟩ (hanswered (by simp))
          · by_cases hid : d.id = id
            · -- The creator is this thread: the deployment has not existed before.
              have hnone : populationOf id creator c = none := by
                cases hp : populationOf id creator c with
                | none => rfl
                | some p' =>
                    rw [hp] at hshows
                    exact absurd hid (foreign_of_shows hs hshows d rfl)
              rw [hnone] at hshows
              obtain ⟨-, hrows, hno⟩ := hshows
              refine shown_self hs (fun j _ => ?_) (if_pos hid) (shows_created hs hid hrows hno)
              by_cases hjc : j = creator
              · rw [hjc]
                exact hnone
              · exact hsole j hjc
            · refine hsame (if_neg hid) ⟨?_, by simp, by simp⟩ (hanswered (by simp))
              intro d' hd'
              obtain rfl := Option.some.inj hd'
              exact hid
      | createDeploymentDevice p =>
          by_cases hid : p.deploymentID = id
          · obtain ⟨q, hq, hopen⟩ := hallowed hid
            obtain rfl := hcreator q hq
            rw [hq] at hshows
            refine shown_self hs hsole ?_ (shows_attempted hs hid hopen hshows (hkeep p rfl hid))
            rw [hq]
            exact if_pos hid
          · refine hsame (if_neg hid) ⟨trivial, ?_, by simp⟩ (hanswered (by simp))
            intro p' hp'
            obtain rfl : p = p' := by simpa using hp'
            exact hid
      | updateDeploymentStatus j st =>
          refine hsame rfl ⟨trivial, by simp, fun hop => ?_⟩ (hanswered (by simp))
          obtain ⟨rfl, rfl⟩ : j = id ∧ st = .running := by simpa using hop
          obtain ⟨q, hq, hempty⟩ := hallowed rfl
          obtain rfl := hcreator q hq
          exact ⟨q, hq, hempty⟩
      | _ => exact hsame rfl ⟨trivial, by simp, by simp⟩ (hanswered (by simp))
  | respond answer =>
      cases answer with
      | created j n strategy =>
          by_cases hid : j = id
          · obtain ⟨q, hq, hfull⟩ := hallowed hid
            obtain rfl := hcreator q hq
            rw [hq] at hshows
            have hafter : Shows id c' (some { q with answered := true }) := by
              refine ⟨?_, fun _ => hfull, fun _ => rfl⟩
              rw [(executed_answer hs).2]
              exact hshows.1
            refine shown_self hs hsole ?_ hafter
            rw [hq]
            exact if_pos hid
          · refine hsame (if_neg hid) ⟨trivial, by simp, by simp⟩ (hanswered ?_)
            intro n' strategy' hop
            simp only [Op.respond.injEq, Reply.created.injEq] at hop
            exact hid hop.1
      | _ => exact hsame rfl ⟨trivial, by simp, by simp⟩ (hanswered (by simp))
  | _ => exact hsame rfl ⟨trivial, by simp, by simp⟩ (hanswered (by simp))

/-- One operation of a thread. -/
theorem shown_executed (hs : machine.Executed c c' i x call op k r)
    (hc : PopulationInvariant id c)
    (hkeep : ∀ p, op = .sql (.createDeploymentDevice p) → p.deploymentID = id →
      status c id = some .running → x.fault = false ∧ InsertsNew c.store.db p) :
    ∃ creator, (∀ j, j ≠ creator → populationOf id j c' = none) ∧
      Shows id c' (populationOf id creator c') := by
  obtain ⟨creator, hsole, hshows⟩ := hc.shown
  have hghost : Machine.ghost (populationDiscipline id call) none i c.trace =
      populationOf id i c := by
    simp only [populationOf, hs.before]
  have hallowed := hc.disciplined.allowed hs
  rw [hghost] at hallowed
  cases call with
  | createDeployment req => exact shown_creation hs hsole hshows hallowed hkeep
  | _ =>
      obtain ⟨hcreate, hinsert, hrunning⟩ := hallowed
      refine shown_plain hs hsole hshows rfl ⟨?_, ?_, ?_⟩ ?_
      · cases op with
        | sql q =>
            cases q with
            | createDeployment p => exact absurd rfl (hcreate p)
            | _ => trivial
        | _ => trivial
      · exact fun p hp => absurd hp (hinsert p)
      · exact fun hop => absurd hop (hrunning id)
      · intro hyes
        rcases creationAnswered_executed hs hyes with hold | ⟨req, n, strategy, hcall, -⟩
        · exact hold
        · cases hcall

/-- One step of the control plane. -/
theorem populationInvariant_step {l : Label} (hc : PopulationInvariant id c)
    (h : step c l = some c') (hkeep : InsertsTarget id c l) : PopulationInvariant id c' := by
  refine ⟨Machine.step_disciplined h hc.disciplined body_population ?_, ?_⟩
  · intro i x call op k r _
    cases call <;> trivial
  · obtain ⟨i, call, -, hs⟩ | ⟨i, x, call, op, k, r, hl, hs⟩ := Machine.step_cases h
    · obtain ⟨creator, hsole, hshows⟩ := hc.shown
      have hall : ∀ j, populationOf id j c' = populationOf id j c :=
        populationOf_spawned hs hc.disciplined.closed
      have hanswered : CreationAnswered id c' → CreationAnswered id c := by
        rintro ⟨j, req, p, n, strategy, hthread, hmem⟩
        rw [hs.trace] at hmem
        rw [hs.threads] at hthread
        have hji : j ≠ i := by
          rintro rfl
          exact hc.disciplined.closed _ hmem hs.fresh
        rw [if_neg hji] at hthread
        exact ⟨j, req, p, n, strategy, hthread, hmem⟩
      refine ⟨creator, fun j hj => (hall j).trans (hsole j hj), ?_⟩
      rw [hall]
      have hdb : c'.store.db = c.store.db := accept_db hs.accepted
      cases hp : populationOf id creator c with
      | none =>
          rw [hp] at hshows
          obtain ⟨hnone, hrows, hno⟩ := hshows
          refine ⟨?_, hdb ▸ hrows, fun hyes => hno (hanswered hyes)⟩
          rw [deployment, hdb]
          exact hnone
      | some p =>
          rw [hp] at hshows
          exact ⟨hdb ▸ hshows.1, hshows.2.1, fun hyes => hshows.2.2 (hanswered hyes)⟩
    · refine shown_executed hs hc ?_
      rintro p rfl hid hrun
      exact hkeep i x call p k hl hs.before hid hrun

end

end ControlPlane

/-! ## With the device handlers -/

namespace Registry

open ControlPlane

/-- While the deployment runs, no insert of a row of it fails or meets a row of the same
device, and no device with a row of it is deleted. -/
def KeepsPopulation (id : DeploymentID) (s : State) : Label → Prop
  | .plane l => InsertsTarget id s.plane l
  | .handler l => ∀ i x call op k, l = .step i x → s.handlers.thread i = some (call, .call op k) →
      x.fault = false → status s.plane id = some .running →
        ∀ row ∈ s.plane.store.db.rowsOf id, ∀ d,
          s.plane.store.db.device row.deviceID = some d → op.deletes d = false

section

variable {id : DeploymentID} {s s' : State}

/-- One step of the control plane or of a device handler. -/
theorem population_step {l : Label} (hs : PopulationInvariant id s.plane)
    (hkeep : KeepsPopulation id s l) (h : step s l = some s') :
    PopulationInvariant id s'.plane := by
  obtain ⟨lp, rfl, hplane⟩ | ⟨i, call, -, hsame⟩ | ⟨i, x, call, op, k, rfl, hthread, hplane⟩ :=
    step_cases h
  · exact populationInvariant_step hs hplane hkeep
  · rw [hsame]
    exact hs
  · obtain ⟨hthreads, htrace, hdeployment, hrows⟩ := handler_step hplane
    have hthread' : ∀ j, s'.plane.thread j = s.plane.thread j := by
      intro j
      simp only [Machine.Config.thread, hthreads]
    have hall : ∀ j, populationOf id j s'.plane = populationOf id j s.plane := by
      intro j
      simp only [populationOf, hthread', htrace]
    have hanswered : CreationAnswered id s'.plane → CreationAnswered id s.plane := by
      rintro ⟨j, req, p, n, strategy, hj, hmem⟩
      exact ⟨j, req, p, n, strategy, (hthread' j).symm.trans hj, htrace ▸ hmem⟩
    obtain ⟨creator, hsole, hshows⟩ := hs.shown
    refine ⟨⟨?_, ?_⟩, creator, fun j hj => (hall j).trans (hsole j hj), ?_⟩
    · intro j tag p hj
      rw [htrace]
      exact hs.disciplined.obeys j tag p ((hthread' j).symm.trans hj)
    · intro e he
      rw [hthread']
      exact hs.disciplined.closed e (htrace ▸ he)
    · rw [hall]
      cases hp : populationOf id creator s.plane with
      | none =>
          rw [hp] at hshows
          obtain ⟨hnone, hempty, hno⟩ := hshows
          refine ⟨(hdeployment id).trans hnone, ?_, fun hyes => hno (hanswered hyes)⟩
          rcases hrows with hrows | ⟨-, hrows⟩
          · rw [hrows, hempty]
          · rw [hrows, hempty]
            rfl
      | some p =>
          rw [hp] at hshows
          obtain ⟨hpopulated, hlength, hanswer⟩ := hshows
          refine ⟨?_, hlength, fun hyes => hanswer (hanswered hyes)⟩
          rcases hrows with hrows | ⟨hfault, hrows⟩
          · refine hpopulated.filter (fun _ => true) (hdeployment id) ?_ fun _ _ _ _ _ => rfl
            rw [hrows]
            exact (List.filter_eq_self.mpr fun _ _ => rfl).symm
          · refine hpopulated.filter _ (hdeployment id) (hrows id) ?_
            intro d hd hrun row hrow
            have hrunning : status s.plane id = some .running := by
              rw [status, deployment, hd, Option.map_some, hrun]
            have hno := hkeep i x call op k rfl hthread hfault hrunning row hrow
            cases hdevice : s.plane.store.db.device row.deviceID with
            | none => rfl
            | some dev => simp [hno dev hdevice]

/-- From the answer 201 on, and as long as the deployment runs, its rows are for distinct
devices and as many as {lit}`total_devices` says, if no insert of a row fails or repeats a
device, and no device with a row is deleted. -/
theorem target_population {db : Db} {ls : List Label} (hnew : db.deployment id = none)
    (horphans : db.rowsOf id = []) (hrun : run step (start db) ls = some s)
    (hkeep : EachStep step (KeepsPopulation id) (start db) ls)
    (hanswered : CreationAnswered id s.plane) (hstatus : status s.plane id = some .running) :
    ∃ d, deployment s.plane id = some d ∧
      ((s.plane.store.db.rowsOf id).map fun row => row.deviceID).Nodup ∧
        (s.plane.store.db.rowsOf id).length = d.totalDevices := by
  -- The invariant: what the creation has attempted is what the table shows.
  have hinv : PopulationInvariant id s.plane :=
    run_invariant_of_eachStep (I := fun s : State => PopulationInvariant id s.plane)
      (fun _ _ _ hs hkeep hstep => population_step hs hkeep hstep)
      (populationInvariant_start hnew horphans) hkeep hrun
  obtain ⟨creator, -, hshows⟩ := hinv.shown
  cases hp : populationOf id creator s.plane with
  | none =>
      rw [hp] at hshows
      exact absurd hanswered hshows.2.2
  | some p =>
      rw [hp] at hshows
      obtain ⟨⟨d, hd, htotal, hrows⟩, hlength, hanswer⟩ := hshows
      have hrunning : d.status = .running := by
        rw [status, deployment, hd, Option.map_some] at hstatus
        exact Option.some.inj hstatus
      obtain ⟨hmap, hnodup⟩ := hrows (Or.inl hrunning)
      refine ⟨d, hd, hmap ▸ hnodup, ?_⟩
      rw [htotal, ← hlength (hanswer hanswered), ← hmap, List.length_map]

end

/-! ## Concrete runs -/

/-- The executable form of {lit}`InsertsTarget`. -/
def insertsTarget (c : ControlPlane.Config) : ControlPlane.Label → Bool
  | .spawn _ _ => true
  | .step i x =>
      match c.thread i with
      | some (_, .call (.sql (.createDeploymentDevice p)) _) =>
          !x.fault && (c.store.db.device p.deviceID).isSome &&
            (c.store.db.rowsOf p.deploymentID).all fun row => row.deviceID ≠ p.deviceID
      | _ => true

theorem insertsTarget_spec {id : DeploymentID} {c : ControlPlane.Config} {l : ControlPlane.Label}
    (h : insertsTarget c l = true) : InsertsTarget id c l := by
  rintro i x call p k rfl hthread - -
  simp only [insertsTarget, hthread, Bool.and_eq_true, Bool.not_eq_true', List.all_eq_true,
    decide_eq_true_eq] at h
  exact ⟨h.1.1, h.1.2, h.2⟩

/-- The executable form of {lit}`KeepsPopulation`. -/
def keepsPopulation (id : DeploymentID) (s : State) : Label → Bool
  | .plane l => insertsTarget s.plane l
  | .handler (.spawn _ _) => true
  | .handler (.step i _) =>
      match s.handlers.thread i with
      | some (_, .call op _) =>
          (s.plane.store.db.rowsOf id).all fun row =>
            !(s.plane.store.db.device row.deviceID).any op.deletes
      | _ => true

theorem keepsPopulation_spec {id : DeploymentID} {s : State} {l : Label}
    (h : keepsPopulation id s l = true) : KeepsPopulation id s l := by
  cases l with
  | plane l => exact insertsTarget_spec h
  | handler l =>
      rintro i x call op k rfl hthread - - row hrow d hd
      simp only [keepsPopulation, hthread, List.all_eq_true] at h
      simpa [hd] using h row hrow

/-- The executable form of {lit}`CreationAnswered`, for the answer of one thread. -/
def creationAnswered (id : DeploymentID) (i n : Nat) (strategy : Strategy)
    (c : ControlPlane.Config) : Bool :=
  (match c.thread i with
    | some (.createDeployment _, _) => true
    | _ => false) &&
  c.trace.any fun e => e.thread = i && e.op = .respond (.created id n strategy)

theorem creationAnswered_spec {id : DeploymentID} {i n : Nat} {strategy : Strategy}
    {c : ControlPlane.Config} (h : creationAnswered id i n strategy c = true) :
    CreationAnswered id c := by
  simp only [creationAnswered, Bool.and_eq_true, List.any_eq_true, decide_eq_true_eq] at h
  obtain ⟨hthread, ⟨j, op, r⟩, hmem, rfl, rfl⟩ := h
  split at hthread
  · rename_i req p hcall
    exact ⟨j, req, p, n, strategy, hcall, hmem⟩
  · cases hthread

/-- A step sequence of the control plane. -/
def planeSteps (ls : List ControlPlane.Label) : List Label :=
  ls.map .plane

/-- One request to a device handler that executes {lit}`n` operations. -/
def handlerCall (i : Nat) (call : DeviceHandlers.Call) (n : Nat) (x : DeviceHandlers.Choice) :
    List Label :=
  .handler (.spawn i call) :: List.replicate n (.handler (.step i x))

/-- A rollout to two of three robots, while the third one goes offline and is pruned. -/
def prunedSpare : List Label :=
  planeSteps (ControlPlane.startCall 0
      (.createDeployment { firmwareID := some 0, strategy := "full", deviceIDs := ["r1", "r2"] })
      13) ++
    handlerCall 0 .listDevices 3 { stale := ["r3"] } ++ handlerCall 1 .pruneOfflineDevices 2 {} ++
    planeSteps (ControlPlane.startCall 1 (.progress ⟨"r1", "success", 100⟩) 7)

/-- A device that is no target is pruned, and the population stays. -/
theorem target_population_pruned_spare :
    ∃ s d, run step (start (ControlPlane.fleetDb ["r1", "r2", "r3"] (by decide))) prunedSpare =
        some s ∧ deployment s.plane 0 = some d ∧
      ((s.plane.store.db.rowsOf 0).map fun row => row.deviceID).Nodup ∧
        (s.plane.store.db.rowsOf 0).length = d.totalDevices := by
  have hend : endsWith step (start (ControlPlane.fleetDb ["r1", "r2", "r3"] (by decide)))
      prunedSpare (fun s => creationAnswered 0 0 2 .full s.plane &&
        decide (status s.plane 0 = some .running)) = true := by
    decide +kernel
  obtain ⟨s, hrun, hlast⟩ := endsWith_eq_true hend
  rw [Bool.and_eq_true, decide_eq_true_eq] at hlast
  obtain ⟨d, hd⟩ := target_population rfl rfl hrun
    (EachStep.of_eachStep (fun _ _ => keepsPopulation_spec) (by decide +kernel))
    (creationAnswered_spec hlast.1) hlast.2
  exact ⟨s, d, hrun, hd⟩

/-- A request that names a robot twice counts it twice, and gives it two rows. -/
theorem target_population_repeated :
    ¬ ∀ (db : Db) (id : DeploymentID) (ls : List Label) (s : State),
      db.deployment id = none → db.rowsOf id = [] → run step (start db) ls = some s →
        CreationAnswered id s.plane → status s.plane id = some .running →
          ∃ d, deployment s.plane id = some d ∧
            ((s.plane.store.db.rowsOf id).map fun row => row.deviceID).Nodup ∧
              (s.plane.store.db.rowsOf id).length = d.totalDevices := by
  intro h
  have hend : endsWith step (start (ControlPlane.fleetDb ["r1"] (by decide)))
      (planeSteps (ControlPlane.startCall 0 (.createDeployment
        { firmwareID := some 0, strategy := "full", deviceIDs := ["r1", "r1"] }) 13))
      (fun s => creationAnswered 0 0 2 .full s.plane &&
        decide (status s.plane 0 = some .running) &&
          !decide ((s.plane.store.db.rowsOf 0).map fun row => row.deviceID).Nodup) = true := by
    decide +kernel
  obtain ⟨s, hrun, hlast⟩ := endsWith_eq_true hend
  rw [Bool.and_eq_true, Bool.and_eq_true, decide_eq_true_eq, Bool.not_eq_true',
    decide_eq_false_iff_not] at hlast
  obtain ⟨d, -, hnodup, -⟩ := h _ 0 _ s rfl rfl hrun (creationAnswered_spec hlast.1.1) hlast.1.2
  exact hlast.2 hnodup

end Registry

end OtaRobot
