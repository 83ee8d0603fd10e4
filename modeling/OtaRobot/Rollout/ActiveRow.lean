import OtaRobot.Rollout.Launch

/-!
# The active row of a device

Both report handlers look up the newest active row of a device.  A row is active while its
deployment runs or its own status is not terminal, so rows become active and inactive as
deployments overlap, end, or are rolled back, and as reports come late.

Main results:

- Theorem {lit}`Db.uniqueActive_exec`: the statements that keep active rows unique.
- Theorem {lit}`unique_active_row`: active rows stay unique along a run exactly when every
  insert and every row update leaves them unique.
-/

namespace OtaRobot

open Prog Transition

/-! ## Active rows -/

/-- The rows the lookup chooses from. -/
def Db.activeRows (db : Db) (deviceID : DeviceID) : List DeploymentDevice :=
  db.deploymentDevices.filter (db.isActive deviceID)

/-- The lookup never has to choose. -/
def Db.UniqueActive (db : Db) : Prop :=
  ∀ deviceID, (db.activeRows deviceID).length ≤ 1

/-- The rows of the device that are active, or that the update writes. -/
def Db.contenders (db : Db) (p : UpdateDeploymentDeviceStatusParams) : List DeploymentDevice :=
  db.deploymentDevices.filter fun row => db.isActive p.deviceID row || p.selects row

/-- The rows the update writes are active afterwards. -/
def Db.Activates (db : Db) (p : UpdateDeploymentDeviceStatusParams) : Prop :=
  ∃ d, db.deployment p.deploymentID = some d ∧
    (d.status = .running ∨ p.status ∉ terminalRowStatuses)

/-- A row is only inserted for a device without an active row, and an update that leaves its
rows active finds no second row. -/
def Db.KeepsUnique (db : Db) : Query → Prop
  | .createDeploymentDevice p => (db.deployment p.deploymentID).isSome = true →
      (db.device p.deviceID).isSome = true → db.activeRows p.deviceID = []
  | .updateDeploymentDeviceStatus p => db.Activates p → (db.contenders p).length ≤ 1
  | _ => True

/-! ## What a statement does to the active rows -/

/-- Every row belongs to a deployment. -/
def Db.RowsOwned (db : Db) : Prop :=
  ∀ row ∈ db.deploymentDevices, (db.deployment row.deploymentID).isSome = true

section

variable {db : Db} {uuid : DeploymentID}

/-- Whether a row is active depends on the deployments only. -/
theorem Db.isActive_congr {db' : Db} (h : db'.deployments = db.deployments) (deviceID : DeviceID) :
    db'.isActive deviceID = db.isActive deviceID := by
  funext row
  simp [Db.isActive, Db.deployment, h]

/-- A statement activates no row that it does not write, unless it sets a deployment with
rows running. -/
theorem Db.isActive_of_exec {q : Query} {deviceID : DeviceID} {row : DeploymentDevice}
    (howned : db.RowsOwned) (hrunning : ∀ id, q = .updateDeploymentStatus id .running → db.rowsOf id = [])
    (hrow : row ∈ db.deploymentDevices) (h : (db.exec uuid q).2.isActive deviceID row = true) :
    db.isActive deviceID row = true := by
  rw [Db.isActive_iff] at h ⊢
  obtain ⟨hdevice, d', hd', hopen⟩ := h
  obtain ⟨d, hd⟩ := Option.isSome_iff_exists.mp (howned row hrow)
  rw [Db.deployment_exec hd] at hd'
  obtain rfl := Option.some.inj hd'
  refine ⟨hdevice, d, hd, ?_⟩
  apply hopen.imp_left
  intro hrun
  rcases q.onDeployment_status d with hsame | hwrite
  · rw [← hsame]
    exact hrun
  · rw [hrun, Db.deployment_id hd] at hwrite
    have hrows := hrunning row.deploymentID hwrite
    have hmem : row ∈ db.rowsOf row.deploymentID := Db.mem_rowsOf.mpr ⟨hrow, rfl⟩
    rw [hrows] at hmem
    cases hmem

/-- A statement that writes no rows keeps active rows unique. -/
theorem Db.uniqueActive_of_rows {q : Query} (howned : db.RowsOwned) (hunique : db.UniqueActive)
    (hrunning : ∀ id, q = .updateDeploymentStatus id .running → db.rowsOf id = [])
    (hrows : (db.exec uuid q).2.deploymentDevices = db.deploymentDevices) :
    (db.exec uuid q).2.UniqueActive := by
  intro deviceID
  have hle : ((db.exec uuid q).2.activeRows deviceID).length ≤ (db.activeRows deviceID).length := by
    simp only [Db.activeRows, hrows, ← List.countP_eq_length_filter]
    apply List.countP_mono_left
    intro row hrow h
    exact Db.isActive_of_exec howned hrunning hrow h
  exact hle.trans (hunique deviceID)

/-- An inserted row is active. -/
theorem Db.uniqueActive_insert (hunique : db.UniqueActive) (p : CreateDeploymentDeviceParams) :
    (db.exec uuid (.createDeploymentDevice p)).2.UniqueActive ↔
      db.KeepsUnique (.createDeploymentDevice p) := by
  simp only [Db.exec, Db.createDeploymentDevice, Db.KeepsUnique]
  split
  · rename_i d device hd hdevice
    have hactive : ∀ deviceID, db.isActive deviceID p.row = decide (p.deviceID = deviceID) := by
      intro deviceID
      by_cases hsame : p.deviceID = deviceID <;>
        simp [Db.isActive, CreateDeploymentDeviceParams.row, hd, terminalRowStatuses, hsame]
    have hrows : ∀ deviceID,
        (({ db with deploymentDevices := db.deploymentDevices ++ [p.row] } : Db).activeRows
          deviceID).length =
            (db.activeRows deviceID).length + if p.deviceID = deviceID then 1 else 0 := by
      intro deviceID
      have hsame : ({ db with deploymentDevices := db.deploymentDevices ++ [p.row] } :
          Db).isActive deviceID = db.isActive deviceID := Db.isActive_congr rfl deviceID
      simp only [Db.activeRows, hsame, List.filter_append, List.length_append]
      by_cases heq : p.deviceID = deviceID <;> simp [hactive, heq]
    simp only [hd, hdevice, Option.isSome_some, true_implies, Db.UniqueActive, hrows]
    constructor
    · intro h
      have hself := h p.deviceID
      rw [if_pos rfl] at hself
      exact List.length_eq_zero_iff.mp (by omega)
    · intro hnone deviceID
      by_cases hsame : p.deviceID = deviceID
      · rw [← hsame, hnone]
        simp
      · rw [if_neg hsame]
        exact hunique deviceID
  · rename_i hmissing
    refine iff_of_true hunique fun hd hdevice => ?_
    obtain ⟨d, hd⟩ := Option.isSome_iff_exists.mp hd
    obtain ⟨device, hdevice⟩ := Option.isSome_iff_exists.mp hdevice
    exact absurd hdevice (hmissing d device hd)

/-- What an update does to the active rows of its own device, and of others. -/
theorem Db.activeRows_update (db : Db) (p : UpdateDeploymentDeviceStatusParams)
    (deviceID : DeviceID) :
    ((db.updateDeploymentDeviceStatus p).2.activeRows deviceID).length ≤
        (db.activeRows deviceID).length ∧ ¬ (deviceID = p.deviceID ∧ db.Activates p) ∨
      deviceID = p.deviceID ∧ db.Activates p ∧
        ((db.updateDeploymentDeviceStatus p).2.activeRows deviceID).length =
          (db.contenders p).length := by
  have hcount : ((db.updateDeploymentDeviceStatus p).2.activeRows deviceID).length =
      db.deploymentDevices.countP fun row =>
        db.isActive deviceID (if p.selects row then p.set row else row) := by
    have hsame : (db.updateDeploymentDeviceStatus p).2.isActive deviceID =
        db.isActive deviceID := Db.isActive_congr rfl deviceID
    rw [Db.activeRows, hsame, ← List.countP_eq_length_filter]
    simp only [Db.updateDeploymentDeviceStatus, List.countP_map]
    rfl
  have hset : ∀ row, p.selects row = true → (db.isActive deviceID (p.set row) = true ↔
      deviceID = p.deviceID ∧ db.Activates p) := by
    intro row hsel
    obtain ⟨hid, hdevice⟩ : row.deploymentID = p.deploymentID ∧ row.deviceID = p.deviceID := by
      simpa [UpdateDeploymentDeviceStatusParams.selects] using hsel
    rw [Db.isActive_iff]
    simp only [UpdateDeploymentDeviceStatusParams.set, hid, hdevice, Db.Activates]
    exact and_congr_left fun _ => eq_comm
  by_cases hlive : deviceID = p.deviceID ∧ db.Activates p
  · right
    refine ⟨hlive.1, hlive.2, ?_⟩
    rw [hcount, Db.contenders, ← List.countP_eq_length_filter]
    apply List.countP_congr
    intro row _
    by_cases hsel : p.selects row = true
    · simp [hsel, (hset row hsel).mpr hlive]
    · simp [hsel, hlive.1]
  · left
    refine ⟨?_, hlive⟩
    rw [hcount, Db.activeRows, ← List.countP_eq_length_filter]
    apply List.countP_mono_left
    intro row _ h
    by_cases hsel : p.selects row = true
    · rw [if_pos hsel] at h
      exact absurd ((hset row hsel).mp h) hlive
    · rwa [if_neg hsel] at h

/-- An update of rows that keeps one active row. -/
theorem Db.uniqueActive_update (hunique : db.UniqueActive)
    (p : UpdateDeploymentDeviceStatusParams) :
    (db.exec uuid (.updateDeploymentDeviceStatus p)).2.UniqueActive ↔
      db.KeepsUnique (.updateDeploymentDeviceStatus p) := by
  constructor
  · intro h hlive
    rcases Db.activeRows_update db p p.deviceID with ⟨-, hnot⟩ | ⟨-, -, heq⟩
    · exact absurd ⟨rfl, hlive⟩ hnot
    · rw [← heq]
      exact h p.deviceID
  · intro h deviceID
    rcases Db.activeRows_update db p deviceID with ⟨hle, -⟩ | ⟨-, hlive, heq⟩
    · exact hle.trans (hunique deviceID)
    · exact heq.le.trans (h hlive)

/-- The statements that keep active rows unique; {lit}`running` is set before there are
rows. -/
theorem Db.uniqueActive_exec {q : Query} (howned : db.RowsOwned) (hunique : db.UniqueActive)
    (hrunning : ∀ id, q = .updateDeploymentStatus id .running → db.rowsOf id = []) :
    (db.exec uuid q).2.UniqueActive ↔ db.KeepsUnique q := by
  cases q with
  | createDeploymentDevice p => exact Db.uniqueActive_insert hunique p
  | updateDeploymentDeviceStatus p => exact Db.uniqueActive_update hunique p
  | createDeployment p =>
      refine iff_of_true (Db.uniqueActive_of_rows howned hunique hrunning ?_) trivial
      simp only [Db.exec, Db.createDeployment]
      split <;> rfl
  | _ => exact iff_of_true (Db.uniqueActive_of_rows howned hunique hrunning rfl) trivial

end

/-! ## Along a run -/

namespace ControlPlane

/-- Active rows are unique. -/
def UniqueActive (c : Config) : Prop :=
  c.store.db.UniqueActive

/-- The statement that the step executes, if it does not fail, keeps active rows unique. -/
def KeepsUnique (c : Config) (l : Label) : Prop :=
  ∀ i x call q k, l = .step i x → c.thread i = some (call, .call (.sql q) k) → x.fault = false →
    c.store.db.KeepsUnique q

/-- Every row belongs to a deployment whose creation has gone on to its rows. -/
structure RowsLaunched (c : Config) : Prop where
  launch : ∀ id, LaunchInvariant id c
  owned : c.store.db.RowsOwned
  marked : ∀ row ∈ c.store.db.deploymentDevices, LaunchMarked row.deploymentID c

/-- There are no rows at the start. -/
theorem rowsLaunched_start {db : Db} (hrows : db.deploymentDevices = []) :
    RowsLaunched (start db) := by
  refine ⟨fun id => launchInvariant_start id db, ?_, ?_⟩
  · intro row hrow
    simp [start, Machine.initial, hrows] at hrow
  · intro row hrow
    simp [start, Machine.initial, hrows] at hrow

/-- The rows after a statement are old ones, or the inserted one; an update keeps the
deployment. -/
theorem rows_exec {db : Db} {uuid : DeploymentID} {q : Query} {row : DeploymentDevice}
    (hrow : row ∈ (db.exec uuid q).2.deploymentDevices) :
    (∃ row' ∈ db.deploymentDevices, row'.deploymentID = row.deploymentID) ∨
      ∃ p, q = .createDeploymentDevice p ∧ p.deploymentID = row.deploymentID ∧
        (db.deployment p.deploymentID).isSome = true := by
  by_cases hq : ∃ p, q = .createDeploymentDevice p
  · obtain ⟨p, rfl⟩ := hq
    simp only [Db.exec, Db.createDeploymentDevice] at hrow
    split at hrow
    · rename_i d device hd hdevice
      rcases List.mem_append.mp hrow with hold | hnew
      · exact Or.inl ⟨row, hold, rfl⟩
      · obtain rfl : row = p.row := by simpa using hnew
        exact Or.inr ⟨p, rfl, rfl, by simp [hd]⟩
    · exact Or.inl ⟨row, hrow, rfl⟩
  · left
    have howners : ((db.exec uuid q).2.deploymentDevices.map fun row => row.deploymentID) =
        db.deploymentDevices.map fun row => row.deploymentID :=
      Db.owners_exec fun p hp => hq ⟨p, hp⟩
    have hmem : row.deploymentID ∈ db.deploymentDevices.map fun row => row.deploymentID := by
      rw [← howners]
      exact List.mem_map.mpr ⟨row, hrow, rfl⟩
    obtain ⟨row', hrow', hid⟩ := List.mem_map.mp hmem
    exact ⟨row', hrow', hid⟩

/-- A step keeps every row to a launched deployment. -/
theorem rowsLaunched_step {c c' : Config} {l : Label} (hc : RowsLaunched c)
    (h : step c l = some c') : RowsLaunched c' := by
  have hold : ∀ row ∈ c.store.db.deploymentDevices,
      (c'.store.db.deployment row.deploymentID).isSome = true ∧
        LaunchMarked row.deploymentID c' := by
    intro row hrow
    refine ⟨?_, launchMarked_step (hc.marked row hrow) h⟩
    have hexists : deployment c row.deploymentID ≠ none :=
      Option.isSome_iff_ne_none.mp (hc.owned row hrow)
    exact Option.isSome_iff_ne_none.mpr (deployment_step_ne_none h hexists)
  have hrows : ∀ row ∈ c'.store.db.deploymentDevices,
      (c'.store.db.deployment row.deploymentID).isSome = true ∧
        LaunchMarked row.deploymentID c' := by
    intro row hrow
    obtain ⟨i, call, -, hs⟩ | ⟨i, x, call, op, k, r, -, hs⟩ := Machine.step_cases h
    · rw [accept_db hs.accepted] at hrow
      exact hold row hrow
    · rw [(executed_answer hs).2] at hrow
      cases op with
      | sql q =>
          rcases exec_sql_db c.store q x with hsame | hexec
          · rw [hsame] at hrow
            exact hold row hrow
          · rw [hexec] at hrow
            rcases rows_exec hrow with ⟨row', hrow', hid⟩ | ⟨p, rfl, hid, hd⟩
            · rw [← hid]
              exact hold row' hrow'
            · rw [← hid]
              refine ⟨Option.isSome_iff_ne_none.mpr
                (deployment_step_ne_none h (Option.isSome_iff_ne_none.mp hd)), ?_⟩
              refine ⟨⟨i, .sql (.createDeploymentDevice p), r⟩, ?_, decide_eq_true rfl⟩
              rw [hs.trace]
              exact List.mem_append_right _ List.mem_cons_self
      | _ => exact hold row hrow
  exact ⟨fun id => launchInvariant_step (hc.launch id) h, fun row hrow => (hrows row hrow).1,
    fun row hrow => (hrows row hrow).2⟩

/-- A deployment is set running before it has rows. -/
theorem RowsLaunched.rows_of_running {c c' : Config} {i : Nat} {x : Choice} {call : Call}
    {id : DeploymentID} {k : Option Deployment → Rollout Unit} {r : Option Deployment}
    (hc : RowsLaunched c)
    (hs : machine.Executed c c' i x call (.sql (.updateDeploymentStatus id .running)) k r) :
    c.store.db.rowsOf id = [] := by
  by_contra hne
  obtain ⟨row, hrow⟩ := List.exists_mem_of_ne_nil _ hne
  obtain ⟨hmem, hid⟩ := Db.mem_rowsOf.mp hrow
  have hlaunched : Launched id c := (hc.launch id).launched (hid ▸ hc.marked row hmem)
  rcases (hlaunched.settled i call _ hs.before).1 .running rfl with hst | hst
  · cases hst
  · cases hst

/-- One step. -/
theorem uniqueActive_step {c c' : Config} {l : Label} (hc : RowsLaunched c)
    (hunique : UniqueActive c) (h : step c l = some c') :
    UniqueActive c' ↔ KeepsUnique c l := by
  obtain ⟨i, call, hl, hs⟩ | ⟨i, x, call, op, k, r, hl, hs⟩ := Machine.step_cases h
  · refine iff_of_true ?_ ?_
    · rw [UniqueActive, accept_db hs.accepted]
      exact hunique
    · intro j x call' q k hl'
      rw [hl] at hl'
      cases hl'
  · rw [UniqueActive, (executed_answer hs).2]
    have hkeeps : KeepsUnique c l ↔ ∀ q, op = .sql q → x.fault = false →
        c.store.db.KeepsUnique q := by
      constructor
      · intro hkeeps q hop hfault
        subst hop
        exact hkeeps i x call q k hl hs.before hfault
      · intro hop j y call' q k' hl' hthread hfault
        rw [hl] at hl'
        cases hl'
        rw [hs.before] at hthread
        cases hthread
        exact hop q rfl hfault
    rw [hkeeps]
    cases op with
    | sql q =>
        rw [exec_sql]
        by_cases hfault : x.fault = true
        · rw [if_pos hfault]
          exact iff_of_true hunique fun q _ hno => absurd hfault (by simp [hno])
        · rw [if_neg hfault]
          have hrunning : ∀ id, q = .updateDeploymentStatus id .running →
              c.store.db.rowsOf id = [] := by
            rintro id rfl
            exact hc.rows_of_running hs
          rw [Db.uniqueActive_exec hc.owned hunique hrunning]
          constructor
          · intro hq q' hop _
            obtain rfl : q = q' := by simpa using hop
            exact hq
          · intro hq
            exact hq q rfl (by simpa using hfault)
    | _ => exact iff_of_true hunique fun q hop => by cases hop

/-- From a database without rows, no device ever has two active rows, exactly when every
insert finds no active row of its device, and every update that leaves its rows active finds
no second row: neither another active one of the device, nor a repeated one of the
deployment. -/
theorem unique_active_row {db : Db} {ls : List Label} {c : Config}
    (hrows : db.deploymentDevices = []) (h : run step (start db) ls = some c) :
    EveryState step UniqueActive (start db) ls ↔ EachStep step KeepsUnique (start db) ls := by
  have hunique : UniqueActive (start db) := by
    intro deviceID
    simp [Db.activeRows, start, Machine.initial, hrows]
  -- The invariant: every row is launched, active rows are unique, and the run goes on.
  refine everyState_iff_eachStep (I := fun m ls => RowsLaunched m ∧ UniqueActive m ∧
    run step m ls = some c) ?_ ?_ ?_ ?_ ⟨rowsLaunched_start hrows, hunique, h⟩
  · intro m l ls hm
    obtain ⟨m', hstep, -⟩ := run_cons_eq_some hm.2.2
    exact ⟨m', hstep⟩
  · intro m l ls m' hm hstep
    exact uniqueActive_step hm.1 hm.2.1 hstep
  · intro m l ls m' hm hstep hkeeps
    obtain ⟨m'', hstep', hrest⟩ := run_cons_eq_some hm.2.2
    obtain rfl : m'' = m' := Option.some.inj (hstep'.symm.trans hstep)
    exact ⟨rowsLaunched_step hm.1 hstep, (uniqueActive_step hm.1 hm.2.1 hstep).mpr hkeeps, hrest⟩
  · intro m ls hm
    exact hm.2.1

/-! ## Concrete runs -/

/-- The executable form of {lit}`Db.KeepsUnique`. -/
def keepsUniqueQuery (db : Db) : Query → Bool
  | .createDeploymentDevice p => (db.activeRows p.deviceID).isEmpty
  | .updateDeploymentDeviceStatus p => (db.contenders p).length ≤ 1
  | _ => true

theorem keepsUniqueQuery_spec {db : Db} {q : Query} (h : keepsUniqueQuery db q = true) :
    db.KeepsUnique q := by
  cases q with
  | createDeploymentDevice p =>
      intro _ _
      simpa [keepsUniqueQuery] using h
  | updateDeploymentDeviceStatus p =>
      intro _
      simpa [keepsUniqueQuery] using h
  | _ => trivial

/-- The executable form of {lit}`KeepsUnique`. -/
def keepsUnique (c : Config) : Label → Bool
  | .spawn _ _ => true
  | .step i _ =>
      match c.thread i with
      | some (_, .call (.sql q) _) => keepsUniqueQuery c.store.db q
      | _ => true

theorem keepsUnique_spec {c : Config} {l : Label} (h : keepsUnique c l = true) :
    KeepsUnique c l := by
  rintro i x call q k rfl hthread -
  simp only [keepsUnique, hthread] at h
  exact keepsUniqueQuery_spec h

/-- The hypotheses are met by a rollout to two robots, the first of which reports. -/
theorem unique_active_row_two_robots :
    EveryState step UniqueActive (start (fleetDb ["r1", "r2"] (by decide)))
      (startCall 0 (.createDeployment (rolloutRequest "full")) 12 ++
        startCall 1 (.progress ⟨"r1", "downloading", 10⟩) 3) := by
  obtain ⟨c, hrun⟩ := Option.isSome_iff_exists.mp
    (show (run step (start (fleetDb ["r1", "r2"] (by decide)))
      (startCall 0 (.createDeployment (rolloutRequest "full")) 12 ++
        startCall 1 (.progress ⟨"r1", "downloading", 10⟩) 3)).isSome = true by decide +kernel)
  exact (unique_active_row rfl hrun).mpr
    (EachStep.of_eachStep (fun _ _ => keepsUnique_spec) (by decide +kernel))

/-- The rows of a rolled-back deployment stay {lit}`pending`.  With the next deployment the
robot has two active rows. -/
theorem active_row_not_unique :
    ¬ ∀ (db : Db) (ls : List Label) (c : Config), db.deploymentDevices = [] →
      run step (start db) ls = some c → UniqueActive c := by
  intro h
  have hend : endsWith step (start (fleetDb ["r1"] (by decide)))
      (startCall 0 (.createDeployment (rolloutRequest "full")) 10 ++ startCall 1 (.rollback 0) 6 ++
        .spawn 2 (.createDeployment (rolloutRequest "full")) ::
          List.replicate 10 (.step 2 { uuid := 1 }))
      (fun c => decide ((c.store.db.activeRows "r1").length = 2)) = true := by
    decide +kernel
  obtain ⟨c, hrun, hlast⟩ := endsWith_eq_true hend
  have hunique := h _ _ c rfl hrun "r1"
  rw [of_decide_eq_true hlast] at hunique
  omega

end ControlPlane

end OtaRobot
