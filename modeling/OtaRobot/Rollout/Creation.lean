import OtaRobot.Rollout.Sequential

/-!
# What CreateDeployment leaves behind

A creation that is not disturbed inserts the deployment, sets it {lit}`running` and
inserts one {lit}`pending` row for each target.  The targets are distinct robots,
unless the request itself names one twice.

Main results:

- Theorem {lit}`createDeployment_fresh`: the ledger of a deployment that
  {lit}`CreateDeployment` has just created.
-/

namespace OtaRobot

open Prog

/-- The ledger of a deployment over distinct devices when its rollout starts. -/
structure Ledger.Fresh (l : Ledger) : Prop where
  status : l.status = .running
  size : l.totalDevices = l.rows.length
  nonempty : l.rows ≠ []
  threshold : AdmissibleThreshold l.rollbackThreshold
  success : l.successCount = 0
  failure : l.failureCount = 0
  pending : ∀ row ∈ l.rows, row.status = "pending"
  devices : (l.rows.map fun row => row.deviceID).Nodup

/-- The ledger with one more row. -/
def Ledger.insertRow (l : Ledger) (row : DeploymentDevice) : Ledger :=
  { l with rows := l.rows ++ [row] }

/-! ## The answers during a creation -/

/-- The answers of a database in which the UUID is new and whose robots are in
{lit}`T`. -/
def CreationAnswer (uuid : DeploymentID) (T : DeviceID → Prop) (g : Option Ledger) :
    (op : Op) → op.Ret → Prop
  | .sql (.createDeployment p), r => ∀ d : Deployment, r = some d → d = p.row uuid
  | .sql (.createDeploymentDevice p), r =>
      g ≠ none → p.deploymentID = uuid → T p.deviceID → r = some p.row
  | .sql (.getDevice i), r => ∀ d : Device, r = some d → d.id = i ∧ T d.id
  | .sql .listDevices, r => ∀ devs : List Device, r = some devs →
      (devs.map fun d => d.id).Nodup ∧ ∀ d ∈ devs, T d.id
  | _, _ => True

/-- The ledger of the new deployment, once it exists. -/
def creationNext (uuid : DeploymentID) (g : Option Ledger) : (op : Op) → op.Ret → Option Ledger
  | .sql (.createDeployment p), r =>
      match (r : Option Deployment) with
      | some _ => some ((p.row uuid).ledger [])
      | none => g
  | .sql (.createDeploymentDevice p), r =>
      match (r : Option DeploymentDevice) with
      | some _ => if p.deploymentID = uuid then g.map fun l => l.insertRow p.row else g
      | none => g
  | op, _ => g.map fun l => l.after uuid op

/-- A request inserts rows for targets of its own deployment. -/
def creationDiscipline (uuid : DeploymentID) (T : DeviceID → Prop) :
    Discipline Op.Ret (Option Ledger) where
  allowed _ op := ∀ p, op = .sql (.createDeploymentDevice p) → p.deploymentID = uuid
  rely := CreationAnswer uuid T
  next := creationNext uuid

/-- The database during a creation: the ledger of the new deployment, no rows without
it, and the robots. -/
structure Creating (uuid : DeploymentID) (T : DeviceID → Prop) (db : Db) (g : Option Ledger) :
    Prop where
  ledger : db.ledger uuid = g
  orphans : g = none → db.rowsOf uuid = []
  robots : ∀ i, T i ↔ (db.device i).isSome

/-- No statement adds or removes a robot. -/
theorem Db.device_exec_isSome (db : Db) (uuid : DeploymentID) (q : Query) (i : DeviceID) :
    ((db.exec uuid q).2.device i).isSome = (db.device i).isSome := by
  cases q with
  | createDeployment p =>
      simp only [Db.exec, Db.createDeployment]
      split <;> rfl
  | createDeploymentDevice p =>
      simp only [Db.exec, Db.createDeploymentDevice]
      split <;> rfl
  | updateDeviceVersion id version =>
      simp only [Db.exec, Db.updateDeviceVersion, Db.device, Table.find?_modify]
      split <;> simp
  | _ => rfl

/-- The statement that inserts the deployment, while it does not exist. -/
theorem Creating.createDeployment {uuid : DeploymentID} {T : DeviceID → Prop} {db : Db}
    {g : Option Ledger} (h : Creating uuid T db g) (p : CreateDeploymentParams) :
    CreationAnswer uuid T g (.sql (.createDeployment p)) (db.createDeployment uuid p).1 ∧
      Creating uuid T (db.createDeployment uuid p).2
        (creationNext uuid g (.sql (.createDeployment p)) (db.createDeployment uuid p).1) := by
  have hrobots : ∀ i, T i ↔ ((db.createDeployment uuid p).2.device i).isSome := by
    intro i
    rw [h.robots i, ← db.device_exec_isSome uuid (.createDeployment p) i]
    rfl
  unfold Db.createDeployment at hrobots ⊢
  split
  · rename_i fw deployments hfw hinsert
    have hnone : db.deployment uuid = none := Table.insert_fresh hinsert
    have hrows : db.rowsOf uuid = [] := by
      refine h.orphans ?_
      rw [← h.ledger, Db.ledger, hnone]
      rfl
    simp only [hfw, hinsert] at hrobots
    refine ⟨fun d hd => (Option.some.inj hd).symm, ?_, ?_, hrobots⟩
    · have hrow : (({ db with deployments := deployments } : Db).deployment uuid) =
          some (p.row uuid) := by
        simp [Db.deployment, Table.find?_insert hinsert, CreateDeploymentParams.row]
      simp only [creationNext, Db.ledger, hrow, Option.map_some]
      have hsame : ({ db with deployments := deployments } : Db).rowsOf uuid = [] := hrows
      rw [hsame]
    · intro hg
      simp [creationNext] at hg
  · exact ⟨by simp [CreationAnswer], h⟩

/-- The statement that inserts a row. -/
theorem Creating.createDeploymentDevice {uuid : DeploymentID} {T : DeviceID → Prop} {db : Db}
    {g : Option Ledger} (h : Creating uuid T db g) (p : CreateDeploymentDeviceParams) :
    CreationAnswer uuid T g (.sql (.createDeploymentDevice p)) (db.createDeploymentDevice p).1 ∧
      Creating uuid T (db.createDeploymentDevice p).2
        (creationNext uuid g (.sql (.createDeploymentDevice p))
          (db.createDeploymentDevice p).1) := by
  have hrobots : ∀ i, T i ↔ ((db.createDeploymentDevice p).2.device i).isSome := by
    intro i
    rw [h.robots i, ← db.device_exec_isSome uuid (.createDeploymentDevice p) i]
    rfl
  unfold Db.createDeploymentDevice at hrobots ⊢
  split
  · rename_i d device hd hdevice
    simp only [hd, hdevice] at hrobots
    refine ⟨fun _ _ _ => rfl, ?_, ?_, hrobots⟩
    · have hledger : ({ db with deploymentDevices := db.deploymentDevices ++ [p.row] } :
          Db).ledger uuid = (db.deployment uuid).map fun d =>
            d.ledger (db.rowsOf uuid ++ if p.deploymentID = uuid then [p.row] else []) := by
        simp only [Db.ledger, Db.rowsOf, List.filter_append]
        by_cases hp : p.deploymentID = uuid <;>
          simp [hp, CreateDeploymentDeviceParams.row, Db.deployment]
      rw [hledger, ← h.ledger]
      by_cases hp : p.deploymentID = uuid
      · simp only [creationNext, if_pos hp, Db.ledger, Option.map_map]
        rfl
      · simp [creationNext, hp, Db.ledger]
    · intro hg
      have hg' : g = none := by
        by_cases hp : p.deploymentID = uuid <;> simpa [creationNext, hp] using hg
      have hp : p.deploymentID ≠ uuid := by
        rintro rfl
        have hnone : db.ledger p.deploymentID = none := h.ledger.trans hg'
        simp [Db.ledger, hd] at hnone
      have hrows := h.orphans hg'
      simp only [Db.rowsOf] at hrows ⊢
      simp [hrows, CreateDeploymentDeviceParams.row, hp]
  · rename_i hmissing
    refine ⟨?_, h⟩
    intro hg hp hT
    exfalso
    obtain ⟨l, hl⟩ := Option.ne_none_iff_exists'.mp hg
    obtain ⟨d, hd, -⟩ := Db.ledger_eq_some.mp (h.ledger.trans hl)
    obtain ⟨device, hdevice⟩ := Option.isSome_iff_exists.mp ((h.robots _).mp hT)
    exact hmissing d device (hp ▸ hd) hdevice

/-- Every other statement does to the new deployment what {lit}`Ledger.after` says. -/
theorem Creating.statement {uuid : DeploymentID} {T : DeviceID → Prop} {db : Db}
    {g : Option Ledger} (h : Creating uuid T db g) {q : Query}
    (hcreate : ∀ p, q ≠ .createDeployment p) (hinsert : ∀ p, q ≠ .createDeploymentDevice p) :
    Creating uuid T (db.exec uuid q).2 (g.map fun l => l.after uuid (.sql q)) := by
  refine ⟨?_, ?_, fun i => by rw [db.device_exec_isSome, h.robots i]⟩
  · cases hg : g with
    | some l => exact Db.ledger_exec (h.ledger.trans hg) fun p hp => absurd hp (hinsert p)
    | none =>
        have hnone : db.deployment uuid = none := by
          simpa [Db.ledger] using h.ledger.trans hg
        have hafter : (db.exec uuid q).2.deployment uuid = none := by
          by_contra hne
          obtain ⟨d, hd⟩ := Option.ne_none_iff_exists'.mp hne
          obtain ⟨-, p, hp⟩ := Db.deployment_exec_none hnone hd
          exact hcreate p hp
        rw [Db.ledger, hafter]
        rfl
  · intro hg
    have hrows : db.rowsOf uuid = [] := h.orphans (by simpa using hg)
    by_cases hupdate : ∃ p, q = .updateDeploymentDeviceStatus p
    · obtain ⟨p, rfl⟩ := hupdate
      simp only [Db.exec, Db.rowsOf_updateDeploymentDeviceStatus, hrows, List.map_nil]
    · rw [Db.rowsOf_exec (fun p hp => absurd hp (hinsert p))
        (fun p hp => absurd ⟨p, hp⟩ hupdate), hrows]

/-- The robots of a device listing are known and distinct. -/
theorem Db.listDevices_spec (db : Db) :
    (db.listDevices.map fun d => d.id).Nodup ∧ ∀ d ∈ db.listDevices, (db.device d.id).isSome := by
  have hperm : db.listDevices.Perm db.devices.rows :=
    (List.perm_insertionSort _ _).trans (List.reverse_perm _)
  constructor
  · exact (hperm.map _).nodup_iff.mpr db.devices.nodup
  · intro d hd
    have hfound : db.devices.find? d.id = some d :=
      Table.find?_some_iff.mpr ⟨hperm.mem_iff.mp hd, rfl⟩
    simp [Db.device, hfound]

/-- The database answers a creation as its discipline relies on. -/
theorem Creating.exec {uuid : DeploymentID} {T : DeviceID → Prop} {db : Db}
    {g : Option Ledger} (h : Creating uuid T db g) {x : Choice} (hx : x.fault = false)
    (huuid : x.uuid = uuid) (op : Op) :
    CreationAnswer uuid T g op (ControlPlane.exec { db := db } op x).1 ∧
      Creating uuid T (ControlPlane.exec { db := db } op x).2.db
        (creationNext uuid g op (ControlPlane.exec { db := db } op x).1) := by
  have hkeep : ∀ g' : Option Ledger, (g'.map fun l => l) = g' := by
    intro g'
    cases g' <;> rfl
  cases op with
  | sql q =>
      rw [ControlPlane.exec_sql, if_neg (by simp [hx]), huuid]
      cases q with
      | createDeployment p => exact h.createDeployment p
      | createDeploymentDevice p => exact h.createDeploymentDevice p
      | getDevice i =>
          refine ⟨fun d hd => ?_, h.statement (by simp) (by simp)⟩
          have hid : d.id = i := Db.device_id hd
          refine ⟨hid, (h.robots _).mpr ?_⟩
          rw [hid]
          exact Option.isSome_iff_exists.mpr ⟨d, hd⟩
      | listDevices =>
          refine ⟨fun devs hdevs => ?_, h.statement (by simp) (by simp)⟩
          obtain rfl := Option.some.inj hdevs
          obtain ⟨hnodup, hknown⟩ := db.listDevices_spec
          exact ⟨hnodup, fun d hd => (h.robots _).mpr (hknown d hd)⟩
      | _ => exact ⟨trivial, h.statement (by simp) (by simp)⟩
  | _ =>
      refine ⟨trivial, ?_⟩
      simp only [creationNext, Ledger.after, hkeep]
      exact h

/-! ## Rows of other deployments -/

/-- All rows belong to the deployment. -/
def SoleDeployment (id : DeploymentID) (db : Db) : Prop :=
  ∀ row ∈ db.deploymentDevices, row.deploymentID = id

/-- The rows are of one deployment. -/
theorem soleDeployment_iff {id : DeploymentID} {db : Db} :
    SoleDeployment id db ↔
      ∀ i ∈ db.deploymentDevices.map fun row => row.deploymentID, i = id := by
  simp [SoleDeployment]

/-- Operations that insert rows of no other deployment. -/
theorem soleDeployment_exec {id : DeploymentID} {db : Db} {op : Op} {x : Choice}
    (h : SoleDeployment id db)
    (hop : ∀ p, op = .sql (.createDeploymentDevice p) → p.deploymentID = id) :
    SoleDeployment id (ControlPlane.exec { db := db } op x).2.db := by
  cases op with
  | sql q =>
      rcases ControlPlane.exec_sql_db { db := db } q x with hsame | hexec
      · rw [hsame]
        exact h
      · rw [hexec]
        by_cases hq : ∃ p, q = .createDeploymentDevice p
        · obtain ⟨p, rfl⟩ := hq
          have hp : p.deploymentID = id := hop p rfl
          simp only [Db.exec, Db.createDeploymentDevice]
          split
          · intro row hrow
            rcases List.mem_append.mp hrow with hrow | hrow
            · exact h row hrow
            · obtain rfl : row = p.row := by simpa using hrow
              exact hp
          · exact h
        · rw [soleDeployment_iff, Db.owners_exec (fun p hp => hq ⟨p, hp⟩),
            ← soleDeployment_iff]
          exact h
  | _ => exact h

theorem soleDeployment_writePhases {id : DeploymentID} {db : Db} {ws : List PhaseWrite}
    (h : SoleDeployment id db) : SoleDeployment id (db.writePhases ws) := by
  induction ws generalizing db with
  | nil => exact h
  | cons w ws ih =>
      refine ih ?_
      rw [soleDeployment_iff, Db.writePhase, Db.owners_exec (by simp), ← soleDeployment_iff]
      exact h

/-! ## The targets -/

/-- The targets a request can select: distinct robots that exist, unless the request
names one twice. -/
def GoodTargets (T : DeviceID → Prop) (devs : List Device) : Prop :=
  (devs.map fun d => d.id).Nodup ∧ ∀ d ∈ devs, T d.id

section

variable {uuid : DeploymentID} {T : DeviceID → Prop}

/-- Looking up targets inserts nothing. -/
theorem lookupTargets_creation (targetHw : String) (ids : List DeviceID)
    (targets : List Device) (hnodup : (targets.map (fun d => d.id) ++ ids).Nodup)
    (hknown : ∀ d ∈ targets, T d.id) :
    Obeys (creationDiscipline uuid T)
      (fun g r => g = none ∧ ∀ devs, r = .ok devs → GoodTargets T devs) none
      (lookupTargets targetHw ids targets) := by
  induction ids generalizing targets with
  | nil =>
      refine ⟨rfl, fun devs hdevs => ?_⟩
      obtain rfl : targets = devs := by simpa using hdevs
      exact ⟨by simpa using hnodup, hknown⟩
  | cons i ids ih =>
      rw [lookupTargets, query_bind]
      refine ⟨by rintro _ ⟨⟩, fun (r : Option Device) hr => ?_⟩
      cases r with
      | none =>
        refine ih targets (hnodup.sublist ?_) hknown
        exact (List.append_sublist_append_left _).mpr (List.sublist_cons_self i ids)
      | some dev =>
        obtain ⟨hid, hdev⟩ : dev.id = i ∧ T dev.id := hr dev rfl
        dsimp only
        split
        · exact ⟨rfl, fun devs hdevs => by simp at hdevs⟩
        · refine ih (targets ++ [dev]) (by simpa [hid] using hnodup) ?_
          intro d hd
          rcases List.mem_append.mp hd with hd | hd
          · exact hknown d hd
          · obtain rfl : d = dev := by simpa using hd
            exact hdev

theorem selectTargets_creation (targetHw : String) {ids : List DeviceID} (hids : ids.Nodup) :
    Obeys (creationDiscipline uuid T)
      (fun g r => g = none ∧ ∀ devs, r = .ok devs → GoodTargets T devs) none
      (selectTargets targetHw ids) := by
  unfold selectTargets
  split
  · exact lookupTargets_creation targetHw ids [] (by simpa using hids) (by simp)
  · rw [query_bind]
    refine ⟨by rintro _ ⟨⟩, fun (r : Option (List Device)) hr => ?_⟩
    cases r with
    | none => exact ⟨rfl, fun devs hdevs => by simp at hdevs⟩
    | some devs =>
      obtain ⟨hnodup, hknown⟩ := hr devs rfl
      refine ⟨rfl, fun targets htargets => ?_⟩
      obtain rfl : onlineTargets targetHw devs = targets := by simpa using htargets
      refine ⟨hnodup.sublist (List.filter_sublist.map _), ?_⟩
      intro d hd
      exact hknown d (List.mem_filter.mp hd).1

/-! ## The launch -/

/-- The row inserted for a target. -/
def targetRow (depID : DeploymentID) (dev : Device) : DeploymentDevice where
  deploymentID := depID
  deviceID := dev.id
  previousVersion := some dev.currentVersion

/-- A row is inserted for every target. -/
theorem createDeploymentDevices_creation {devs : List Device} (l : Ledger)
    (hknown : ∀ d ∈ devs, T d.id) :
    Obeys (creationDiscipline uuid T)
      (fun g _ => g = some { l with rows := l.rows ++ devs.map (targetRow uuid) }) (some l)
      (createDeploymentDevices uuid devs) := by
  induction devs generalizing l with
  | nil =>
      simp only [List.map_nil, List.append_nil]
      rfl
  | cons dev devs ih =>
      rw [createDeploymentDevices, query_bind]
      refine ⟨by rintro _ ⟨⟩; rfl, ?_⟩
      intro r hr
      obtain rfl := hr (by simp) rfl (hknown dev List.mem_cons_self)
      have ih' := ih (l.insertRow (targetRow uuid dev))
        fun d hd => hknown d (List.mem_cons_of_mem _ hd)
      simp only [Ledger.insertRow, List.append_assoc, List.singleton_append] at ih'
      refine Obeys.of_eq ?_ ih'
      simp only [creationDiscipline, creationNext, if_true, Option.map_some, Ledger.insertRow]
      rfl

theorem dispatch_creation (g : Option Ledger) (cmd : UpdateCommand) (devs : List Device) :
    Obeys (creationDiscipline uuid T) (fun g' _ => g' = g) g (dispatch uuid cmd devs) := by
  refine (dispatch_ops uuid cmd devs).obeys (G := fun g' => g' = g)
    (fun _ _ _ _ => trivial) ?_ ?_ rfl
  · rintro g' op - ⟨⟩ _ ⟨⟩
  · rintro g' op r rfl ⟨⟩
    cases g' <;> rfl

/-- The start of a rollout inserts nothing. -/
theorem startRollout_creation (l : Ledger) (strategy : Strategy) (devs : List Device)
    (cmd : UpdateCommand) :
    Obeys (creationDiscipline uuid T) (fun g' _ => g' = some l) (some l)
      (startRollout uuid strategy devs cmd) := by
  rw [startRollout, markStartRollout_bind]
  refine ⟨by rintro _ ⟨⟩, fun _ _ => ?_⟩
  split
  · rfl
  · split
    · exact ⟨by rintro _ ⟨⟩, fun _ _ => rfl⟩
    · refine (dispatch_creation (some l) cmd devs).bind ?_
      rintro _ _ rfl
      exact ⟨by rintro _ ⟨⟩, fun _ _ => rfl⟩

/-- A creation ends without a deployment or with a fresh one. -/
theorem launchDeployment_creation (fw : FirmwareVersion) (url : String) (strategy : Strategy)
    {threshold : ℚ} (hthreshold : AdmissibleThreshold threshold) (targetHw : String)
    {devs : List Device} (hne : devs.length ≠ 0) (hdevs : GoodTargets T devs) :
    Obeys (creationDiscipline uuid T) (fun g _ => ∀ l, g = some l → l.Fresh) none
      (launchDeployment fw url strategy threshold targetHw devs) := by
  rw [launchDeployment, query_bind]
  refine ⟨by rintro _ ⟨⟩, fun (r : Option Deployment) hr => ?_⟩
  cases r with
  | none => exact ⟨by rintro _ ⟨⟩, fun _ _ l hl => by cases hl⟩
  | some dep =>
    have hdep : dep.id = uuid := by
      rw [hr dep rfl]
      rfl
    dsimp only
    rw [query_bind, hdep]
    refine ⟨by rintro _ ⟨⟩, fun _ _ => ?_⟩
    let launched : Ledger :=
      { status := .running
        totalDevices := devs.length
        rollbackThreshold := threshold
        successCount := 0
        failureCount := 0
        rows := [] }
    refine @Obeys.of_eq _ _ _ _ _ _ _ (some launched) _ ?_ ?_
    · simp only [creationDiscipline, creationNext, Option.map_some, Ledger.after, if_true]
      rfl
    refine (createDeploymentDevices_creation _ hdevs.2).bind ?_
    rintro _ _ rfl
    refine (startRollout_creation _ strategy devs _).bind ?_
    rintro _ outcome rfl
    have hfresh : Ledger.Fresh
        { status := .running
          totalDevices := devs.length
          rollbackThreshold := threshold
          successCount := 0
          failureCount := 0
          rows := [] ++ devs.map (targetRow uuid) } := by
      refine ⟨rfl, by simp, ?_, hthreshold, rfl, rfl, ?_, ?_⟩
      · intro hempty
        exact hne (by simpa using hempty)
      · intro row hrow
        obtain ⟨dev, -, rfl⟩ := List.mem_map.mp hrow
        rfl
      · simpa [Function.comp_def, targetRow] using hdevs.1
    cases outcome <;> exact ⟨by rintro _ ⟨⟩, fun _ _ l hl => Option.some.inj hl ▸ hfresh⟩

/-- A request that names no robot twice creates nothing or a fresh deployment. -/
theorem createDeployment_creation {req : CreateDeploymentRequest} (hids : req.deviceIDs.Nodup) :
    Obeys (creationDiscipline uuid T) (fun g _ => ∀ l, g = some l → l.Fresh) none
      (createDeployment req) := by
  refine createDeployment_obeys_of_targets (D := GoodTargets T) ?_ (by simp)
    (selectTargets_creation _ hids) fun fw url strategy devs hdevs hne hthreshold =>
      launchDeployment_creation fw url strategy hthreshold _ hne hdevs
  intro op hop
  refine ⟨?_, fun r => ?_⟩
  · rintro p rfl
    cases hop
  · cases hop <;> rfl

end

theorem Creating.writePhases {uuid : DeploymentID} {T : DeviceID → Prop} {db : Db}
    {g : Option Ledger} {ws : List PhaseWrite} (h : Creating uuid T db g) :
    Creating uuid T (db.writePhases ws) g := by
  induction ws generalizing db with
  | nil => exact h
  | cons w ws ih =>
      refine ih ?_
      have hwrite := h.statement (q := .updateDeploymentPhase w.depID w.currentPhase
        w.canaryPercentage) (by simp) (by simp)
      have hsame : (g.map fun l => l.after uuid (.sql (.updateDeploymentPhase w.depID
          w.currentPhase w.canaryPercentage))) = g := by
        cases g <;> rfl
      rw [hsame] at hwrite
      exact hwrite

/-- Database and automaton move together, canary writes included. -/
theorem creating_execQuiet {uuid : DeploymentID} (url : String) {T : DeviceID → Prop}
    (s : Db × List (List PhaseWrite)) (g : Option Ledger) (op : Op)
    (h : Creating uuid T s.1 g) (_ : (creationDiscipline uuid T).allowed g op) :
    (creationDiscipline uuid T).rely g op (execQuiet { uuid := uuid, url := url } s op).1 ∧
      Creating uuid T (execQuiet { uuid := uuid, url := url } s op).2.1
        ((creationDiscipline uuid T).next g op
          (execQuiet { uuid := uuid, url := url } s op).1) :=
  h.writePhases.exec rfl rfl op

/-- The same, in a database that has only rows of the new deployment. -/
theorem creating_sole_execQuiet {uuid : DeploymentID} (url : String) {T : DeviceID → Prop}
    (s : Db × List (List PhaseWrite)) (g : Option Ledger) (op : Op)
    (h : Creating uuid T s.1 g ∧ SoleDeployment uuid s.1)
    (hop : (creationDiscipline uuid T).allowed g op) :
    (creationDiscipline uuid T).rely g op (execQuiet { uuid := uuid, url := url } s op).1 ∧
      Creating uuid T (execQuiet { uuid := uuid, url := url } s op).2.1
          ((creationDiscipline uuid T).next g op
            (execQuiet { uuid := uuid, url := url } s op).1) ∧
        SoleDeployment uuid (execQuiet { uuid := uuid, url := url } s op).2.1 := by
  obtain ⟨hrely, hnext⟩ := creating_execQuiet url s g op h.1 hop
  exact ⟨hrely, hnext, soleDeployment_exec (soleDeployment_writePhases h.2) hop⟩

/-- A creation starts without the deployment. -/
theorem creating_start {db : Db} {uuid : DeploymentID} (hnew : db.deployment uuid = none)
    (horphans : db.rowsOf uuid = []) :
    Creating uuid (fun i => (db.device i).isSome = true) db none :=
  ⟨by simp [Db.ledger, hnew], fun _ => horphans, fun _ => Iff.rfl⟩

/-- The ledger of a deployment that an undisturbed {lit}`CreateDeployment` has just
created; the UUID is new. -/
theorem createDeployment_fresh {db : Db} {req : CreateDeploymentRequest} {uuid : DeploymentID}
    {url : String} {canary : List (List PhaseWrite)} {l : Ledger}
    (hnew : db.deployment uuid = none) (horphans : db.rowsOf uuid = [])
    (hids : req.deviceIDs.Nodup)
    (hl : (handle db ⟨.createDeployment req, uuid, url, canary⟩).ledger uuid = some l) :
    l.Fresh := by
  obtain ⟨g, hcreating, hfresh⟩ := (createDeployment_creation hids).run
    (creating_execQuiet url) (s := (db, canary)) (creating_start hnew horphans)
  refine hfresh l ?_
  rw [← hcreating.writePhases.ledger]
  exact hl

/-- A creation inserts rows of its own deployment only. -/
theorem createDeployment_sole {db : Db} {req : CreateDeploymentRequest} {uuid : DeploymentID}
    {url : String} {canary : List (List PhaseWrite)} (hnew : db.deployment uuid = none)
    (hrows : db.deploymentDevices = []) (hids : req.deviceIDs.Nodup) :
    SoleDeployment uuid (handle db ⟨.createDeployment req, uuid, url, canary⟩) := by
  have horphans : db.rowsOf uuid = [] := by simp [Db.rowsOf, hrows]
  have hstart : SoleDeployment uuid db := by simp [SoleDeployment, hrows]
  obtain ⟨g, ⟨-, hsole⟩, -⟩ := (createDeployment_creation hids).run
    (creating_sole_execQuiet url) (s := (db, canary)) ⟨creating_start hnew horphans, hstart⟩
  exact soleDeployment_writePhases hsole

/-! ## A fleet with a rollout -/

/-- The fleet after the creation of a deployment to all of it. -/
def rolloutDb (req : CreateDeploymentRequest) (robots : List DeviceID) (h : robots.Nodup) : Db :=
  handle (ControlPlane.fleetDb robots h) { call := .createDeployment req }

/-- The deployment that was created is fresh. -/
theorem rolloutDb_fresh {req : CreateDeploymentRequest} {robots : List DeviceID}
    {h : robots.Nodup} {l : Ledger} (hids : req.deviceIDs.Nodup)
    (hl : (rolloutDb req robots h).ledger 0 = some l) : l.Fresh :=
  createDeployment_fresh rfl rfl hids hl

end OtaRobot
