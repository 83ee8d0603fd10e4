import OtaRobot.Rollout.Undo

/-!
# A rollback undoes its deployment

{lit}`CreateDeployment` records in each row the version its device has.  This version
survives every sequence of reports, and the first rollback restores it, on the targets and
nowhere else.

Main results:

- Theorem {lit}`serve_launching`: what a creation records.
- Theorem {lit}`rollback_round_trip`: after the first rollback the targets have the
  versions they had when the deployment was created.
-/

namespace OtaRobot

open Prog Transition

section

variable {id : DeploymentID} {targets : List DeviceID} {V : DeviceID → String}
  {before : DeviceID → Option Device} {g : Undo}

/-! ## Whole calls -/

/-- The call is a report that finds no active row, or one of the deployment; a rollback of
the deployment; or a read. -/
def ServedFor (id : DeploymentID) (db : Db) : Call → Prop
  | .progress event => ∀ row, db.activeRow event.deviceID = some row → row.deploymentID = id
  | .error event => ∀ row, db.activeRow event.deviceID = some row → row.deploymentID = id
  | .rollback depID => depID = id
  | .getDeployment _ => True
  | .createDeployment _ | .runCanary _ _ _ => False

/-- A call that keeps to the discipline keeps the journal and the automaton together. -/
theorem undoing_run {h : Service} {p : Rollout Unit} {post : Undo → Prop}
    {s : ((Db × List (List PhaseWrite)) × List Bool) × Journal}
    (hp : Obeys (undoDiscipline id targets V) (fun g' _ => post g') g p)
    (hs : Undoing id targets V s.1.1.1 s.2 g) :
    ∃ g', Undoing id targets V (p.run (logged (execServed h)) s).2.1.1.1
      (p.run (logged (execServed h)) s).2.2 g' ∧ post g' :=
  hp.run (R := fun (s : ((Db × List (List PhaseWrite)) × List Bool) × Journal) g =>
    Undoing id targets V s.1.1.1 s.2 g) (fun _ _ op hs hop => undoing_execServed hs op hop) hs

/-- The return of the callback changes nothing. -/
theorem callback_undo {handler : Rollout Outcome}
    (hp : Obeys (undoDiscipline id targets V) (fun g' _ => ForwardOrUndone targets V before g') g
      handler) :
    Obeys (undoDiscipline id targets V) (fun g' _ => ForwardOrUndone targets V before g') g
      (ControlPlane.callback handler) := by
  apply hp.bind
  intro g' _ hg'
  refine undo_call (by simp) fun _ _ => ?_
  rcases hg' with hforward | hundone
  · exact Or.inl (hforward.after id .callbackReturn)
  · right
    refine ⟨hundone.begun, hundone.status, ?_, hundone.others, hundone.versions⟩
    exact (List.append_nil _).trans hundone.issued

/-- The rows of a deployment are those of its targets. -/
theorem Undoing.target_of_active {db : Db} {log : Journal}
    (hs : Undoing id targets V db log g) {deviceID : DeviceID} {row : DeploymentDevice}
    (hrow : db.activeRow deviceID = some row) (hid : row.deploymentID = id) :
    deviceID ∈ targets := by
  obtain ⟨hmem, hactive⟩ := Db.activeRow_spec hrow
  have hdevice : row.deviceID = deviceID := ((db.isActive_iff _ _).mp hactive).1
  have htarget : (row.deviceID, row.previousVersion) ∈ targets.map fun i => (i, some (V i)) := by
    rw [← hs.rows]
    exact List.mem_map.mpr ⟨row, Db.mem_rowsOf.mpr ⟨hmem, hid⟩, rfl⟩
  obtain ⟨i, hi, heq⟩ := List.mem_map.mp htarget
  have hdevice' : i = row.deviceID := congrArg Prod.fst heq
  rw [← hdevice, ← hdevice']
  exact hi

/-- A report is handled on the row its lookup finds. -/
theorem serve_lookup {s : Db × Journal} {h : Service} {deviceID : DeviceID}
    {k : Option DeploymentDevice → Rollout Outcome}
    (hbody : ControlPlane.body h.call =
      ControlPlane.callback (.call (.sql (.getActiveDeploymentDeviceByDevice deviceID)) k))
    (hs : Undoing id targets V s.1 s.2 g) (hg : Forward targets before g)
    (hk : ∀ g, Forward targets before g →
      Obeys (undoDiscipline id targets V) (fun g' _ => ForwardOrUndone targets V before g') g
        (k (s.1.activeRow deviceID))) :
    ∃ g', Undoing id targets V (serve s h).1 (serve s h).2 g' ∧
      ForwardOrUndone targets V before g' := by
  let start : ((Db × List (List PhaseWrite)) × List Bool) × Journal :=
    (((s.1, h.canary), h.delivered), s.2)
  let op : Op := .sql (.getActiveDeploymentDeviceByDevice deviceID)
  have hop := undoing_execServed (h := h) (s := start) hs op (by simp [op])
  have hanswer : (logged (execServed h) start op).1 = s.1.activeRow deviceID :=
    s.1.activeRow_writePhases (h.canary.headD []) deviceID
  have hrun : (ControlPlane.body h.call).run (logged (execServed h)) start =
      (ControlPlane.callback (k (s.1.activeRow deviceID))).run (logged (execServed h))
        (logged (execServed h) start op).2 := by
    rw [hbody]
    exact run_call_of_answer (k := fun r : op.Ret => ControlPlane.callback (k r)) hanswer
  obtain ⟨g', hg', hpost⟩ := undoing_run (h := h)
    (callback_undo (hk _ (hg.after id (.active deviceID)))) hop.2
  refine ⟨g', ?_, hpost⟩
  have hserve : serve s h = _ := rfl
  rw [hserve]
  simp only [serve]
  have hfinal := hg'.writePhases
    ((ControlPlane.body h.call).run (logged (execServed h)) start).2.1.1.2.flatten
  rw [← hrun] at hfinal
  exact hfinal

/-- One call for the deployment. -/
theorem serve_undo {s : Db × Journal} {h : Service} (hV : ∀ i ∈ targets, V i ≠ "")
    (hs : Undoing id targets V s.1 s.2 g) (hg : Forward targets before g)
    (hserved : ServedFor id s.1 h.call) :
    ∃ g', Undoing id targets V (serve s h).1 (serve s h).2 g' ∧
      ForwardOrUndone targets V before g' := by
  have hwhole : ∀ p, ControlPlane.body h.call = p →
      Obeys (undoDiscipline id targets V) (fun g' _ => ForwardOrUndone targets V before g') g p →
      ∃ g', Undoing id targets V (serve s h).1 (serve s h).2 g' ∧
        ForwardOrUndone targets V before g' := by
    intro p hp hobeys
    obtain ⟨g', hg', hpost⟩ := undoing_run (h := h)
      (s := (((s.1, h.canary), h.delivered), s.2)) (hp ▸ hobeys) hs
    exact ⟨g', hg'.writePhases _, hpost⟩
  cases hcall : h.call with
  | progress event =>
      rw [hcall] at hserved
      refine serve_lookup (congrArg ControlPlane.body hcall) hs hg fun g hg => ?_
      cases hrow : s.1.activeRow event.deviceID with
      | none => exact Or.inl hg
      | some row =>
          have htarget := hs.target_of_active hrow (hserved row hrow)
          exact (forward_obeys (progressOnRow_forward htarget row) hg).mono fun _ _ h => Or.inl h
  | error event =>
      rw [hcall] at hserved
      refine serve_lookup (congrArg ControlPlane.body hcall) hs hg fun g hg => ?_
      cases hrow : s.1.activeRow event.deviceID with
      | none => exact Or.inl hg
      | some row => exact errorOnRow_undo hV hg event (hserved row hrow)
  | getDeployment depID =>
      refine hwhole _ (congrArg ControlPlane.body hcall) ?_
      exact (forward_obeys (getDeploymentHandler_forward depID) hg).mono fun _ _ h => Or.inl h
  | rollback depID =>
      rw [hcall] at hserved
      obtain rfl : depID = id := hserved
      refine hwhole _ (congrArg ControlPlane.body hcall) ?_
      apply Obeys.bind (executeRollback_undo hV hg _)
      intro g' outcome hundone
      have hreply : ForwardOrUndone targets V before g' := Or.inr hundone
      cases outcome with
      | error text =>
          refine undo_call (by simp) fun _ _ => Or.inr ?_
          exact ⟨hundone.begun, hundone.status, (List.append_nil _).trans hundone.issued,
            hundone.others, hundone.versions⟩
      | ok _ =>
          refine undo_call (by simp) fun _ _ => Or.inr ?_
          exact ⟨hundone.begun, hundone.status, (List.append_nil _).trans hundone.issued,
            hundone.others, hundone.versions⟩
  | createDeployment req =>
      rw [hcall] at hserved
      exact hserved.elim
  | runCanary depID devices cmd =>
      rw [hcall] at hserved
      exact hserved.elim

end

/-! ## Creation -/

/-- The device has the version in the database. -/
def HasVersion (db : Db) (deviceID : DeviceID) (version : Option String) : Prop :=
  ∃ d, db.device deviceID = some d ∧ version = some d.currentVersion

/-- The operations of a creation; a row gets the version its device has in {lit}`db`. -/
inductive CreateOp (db : Db) : Op → Prop where
  | request {op : Op} (h : RequestOp op) : CreateOp db op
  | deployment (p : CreateDeploymentParams) : CreateOp db (.sql (.createDeployment p))
  | running (id : DeploymentID) : CreateOp db (.sql (.updateDeploymentStatus id .running))
  | row (p : CreateDeploymentDeviceParams) (h : HasVersion db p.deviceID p.previousVersion) :
      CreateOp db (.sql (.createDeploymentDevice p))
  | phase (id : DeploymentID) (phase percentage : Nat) :
      CreateOp db (.sql (.updateDeploymentPhase id phase percentage))
  | start (id : DeploymentID) : CreateOp db (.startRollout id)
  | canary (id : DeploymentID) (devices : List Device) (cmd : UpdateCommand) :
      CreateOp db (.goRunCanary id devices cmd)
  | publish (id : DeploymentID) (deviceID : DeviceID) (cmd : UpdateCommand) :
      CreateOp db (.publishCommand id deviceID (.update cmd))

/-- The devices are read as they are in {lit}`db`. -/
def ReadsDevices (db : Db) : (op : Op) → op.Ret → Prop
  | .sql (.getDevice _), r => ∀ d : Device, r = some d → db.device d.id = some d
  | .sql .listDevices, r => ∀ devs : List Device, r = some devs →
      ∀ d ∈ devs, db.device d.id = some d
  | _, _ => True

section

variable {db : Db}

/-- The rows keep the versions the registry has. -/
theorem createDeploymentDevices_reads (depID : DeploymentID) {devs : List Device}
    (hdevs : ∀ d ∈ devs, db.device d.id = some d) :
    Always (ReadsDevices db) (CreateOp db) (createDeploymentDevices depID devs) := by
  induction devs with
  | nil => trivial
  | cons dev devs ih =>
      have hdev : HasVersion db dev.id (some dev.currentVersion) :=
        ⟨dev, hdevs dev List.mem_cons_self, rfl⟩
      exact ⟨.row _ hdev, fun _ _ => ih fun d hd => hdevs d (List.mem_cons_of_mem _ hd)⟩

/-- The start of a rollout reads no version. -/
theorem startRollout_reads (depID : DeploymentID) (strategy : Strategy) (devs : List Device)
    (cmd : UpdateCommand) :
    Always (ReadsDevices db) (CreateOp db) (startRollout depID strategy devs cmd) := by
  rw [startRollout, markStartRollout_bind]
  refine ⟨.start _, fun _ _ => ?_⟩
  split
  · trivial
  · split
    · exact ⟨.canary _ _ _, fun _ _ => trivial⟩
    · refine Always.bind ?_ fun _ => ?_
      · apply (dispatch_ops depID cmd devs).mono (fun _ _ _ => trivial)
        intro op hop
        cases hop
        exact .publish _ _ _
      · exact ⟨.phase _ _ _, fun _ _ => trivial⟩

/-- The launch keeps the versions the registry has. -/
theorem launchDeployment_reads (fw : FirmwareVersion) (url : String) (strategy : Strategy)
    (threshold : ℚ) (targetHw : String) {devs : List Device}
    (hdevs : ∀ d ∈ devs, db.device d.id = some d) :
    Always (ReadsDevices db) (CreateOp db)
      (launchDeployment fw url strategy threshold targetHw devs) := by
  have hreply : ∀ r, Always (ReadsDevices db) (CreateOp db) (reply r) :=
    fun r => ⟨.request (.respond r), fun _ _ => trivial⟩
  rw [launchDeployment, query_bind]
  refine ⟨.deployment _, fun (r : Option Deployment) _ => ?_⟩
  cases r with
  | none => exact hreply _
  | some dep =>
      dsimp only
      rw [query_bind]
      refine ⟨.running _, fun _ _ => ?_⟩
      apply (createDeploymentDevices_reads dep.id hdevs).bind
      intro _
      apply (startRollout_reads _ _ _ _).bind
      intro outcome
      cases outcome <;> exact hreply _

/-- The targets are as the registry has them. -/
theorem lookupTargets_reads (targetHw : String) (ids : List DeviceID) {targets : List Device}
    (htargets : ∀ d ∈ targets, db.device d.id = some d) :
    Obeys (γ := Unit) ⟨fun _ => CreateOp db, fun _ => ReadsDevices db, fun _ _ _ => ()⟩
      (fun g r => g = () ∧ ∀ devs, r = .ok devs → ∀ d ∈ devs, db.device d.id = some d) ()
      (lookupTargets targetHw ids targets) := by
  induction ids generalizing targets with
  | nil =>
      refine ⟨rfl, fun devs hdevs => ?_⟩
      obtain rfl : targets = devs := by simpa using hdevs
      exact htargets
  | cons i ids ih =>
      rw [lookupTargets, query_bind]
      refine ⟨.request (.device i), fun (r : Option Device) hr => ?_⟩
      cases r with
      | none => exact ih htargets
      | some dev =>
          dsimp only
          split
          · exact ⟨rfl, fun devs hdevs => by simp at hdevs⟩
          · apply ih
            intro d hd
            rcases List.mem_append.mp hd with hd | hd
            · exact htargets d hd
            · obtain rfl : d = dev := by simpa using hd
              exact hr d rfl

/-- The selected devices are as the registry has them. -/
theorem selectTargets_reads (targetHw : String) (ids : List DeviceID) :
    Obeys (γ := Unit) ⟨fun _ => CreateOp db, fun _ => ReadsDevices db, fun _ _ _ => ()⟩
      (fun g r => g = () ∧ ∀ devs, r = .ok devs → ∀ d ∈ devs, db.device d.id = some d) ()
      (selectTargets targetHw ids) := by
  unfold selectTargets
  split
  · exact lookupTargets_reads targetHw ids (by simp)
  · rw [query_bind]
    refine ⟨.request .all, fun (r : Option (List Device)) hr => ?_⟩
    cases r with
    | none => exact ⟨rfl, fun devs hdevs => by simp at hdevs⟩
    | some devs =>
        refine ⟨rfl, fun targets htargets => ?_⟩
        obtain rfl : onlineTargets targetHw devs = targets := by simpa using htargets
        intro d hd
        exact hr devs rfl d (List.mem_filter.mp hd).1

/-- A creation inserts rows with the versions the devices have. -/
theorem createDeployment_reads (req : CreateDeploymentRequest) :
    Always (ReadsDevices db) (CreateOp db) (createDeployment req) := by
  apply always_iff_obeys.mpr
  apply createDeployment_obeys_of_targets (D := fun devs => ∀ d ∈ devs, db.device d.id = some d)
  · exact fun op hop => ⟨.request hop, fun _ => rfl⟩
  · trivial
  · exact selectTargets_reads _ _
  · intro fw url strategy devs hdevs _ _
    exact always_iff_obeys.mp (launchDeployment_reads fw url strategy _ _ hdevs)

/-- The state during the creation of deployment {lit}`id`; {lit}`db` is the database before. -/
structure Launching (id : DeploymentID) (db : Db) (now : Db) (log : Journal) : Prop where
  devices : now.device = db.device
  rows : ∀ row ∈ now.rowsOf id, HasVersion db row.deviceID row.previousVersion
  status : ∀ d, now.deployment id = some d → d.status ≠ .rolledBack
  issued : rollbacksIssued id log = []
  begun : rollbackBegun id log = false

variable {id : DeploymentID} {now : Db} {log : Journal}

theorem Launching.writePhases (hs : Launching id db now log) (ws : List PhaseWrite) :
    Launching id db (now.writePhases ws) log := by
  induction ws generalizing now with
  | nil => exact hs
  | cons w ws ih =>
      apply ih
      refine ⟨(now.device_writePhases [w]).trans hs.devices, ?_, ?_, hs.issued, hs.begun⟩
      · have hrows : (now.writePhase w).rowsOf id = now.rowsOf id :=
          Db.rowsOf_exec (by simp) (by simp)
        rw [hrows]
        exact hs.rows
      · intro d hd
        have hstatus := now.deployment_writePhase_status w id
        rw [hd, Option.map_some] at hstatus
        obtain ⟨d', hd', heq⟩ := Option.map_eq_some_iff.mp hstatus.symm
        rw [← heq]
        exact hs.status d' hd'

/-- The rows after a statement of a creation. -/
theorem Launching.rows_exec (hs : Launching id db now log) {q : Query} (uuid : DeploymentID)
    (hop : CreateOp db (.sql q)) :
    ∀ row ∈ (now.exec uuid q).2.rowsOf id, HasVersion db row.deviceID row.previousVersion := by
  intro row hrow
  rcases Db.mem_rowsOf_exec hrow with hold | ⟨p, rfl, -, rfl⟩ | ⟨p, rfl, -⟩
  · exact hs.rows row hold
  · cases hop with
    | request h => cases h
    | row _ h => exact h
  · cases hop with
    | request h => cases h

/-- The status after a statement of a creation. -/
theorem Launching.status_exec (hs : Launching id db now log) {q : Query} (uuid : DeploymentID)
    (hop : CreateOp db (.sql q)) :
    ∀ d, (now.exec uuid q).2.deployment id = some d → d.status ≠ .rolledBack := by
  intro d hd
  cases hnow : now.deployment id with
  | none =>
      obtain ⟨-, p, rfl⟩ := Db.deployment_exec_none hnow hd
      rcases now.deployment_createDeployment uuid p id with
        ⟨hsame, -⟩ | ⟨-, -, d', -, -, hpending, hrow⟩
      · rw [Db.exec, hsame, hnow] at hd
        cases hd
      · rw [Db.exec, hrow] at hd
        cases hd
        rw [hpending]
        simp
  | some d' =>
      have hopen : d'.status ≠ .rolledBack := hs.status d' hnow
      rw [Db.deployment_exec hnow] at hd
      obtain rfl := Option.some.inj hd
      rcases q.onDeployment_status d' with hsame | hwrite
      · rw [hsame]
        exact hopen
      · intro hrolled
        rw [hrolled] at hwrite
        rw [hwrite] at hop
        cases hop with
        | request h => cases h

/-- One operation of a creation. -/
theorem launching_execServed {h : Service}
    (s : ((Db × List (List PhaseWrite)) × List Bool) × Journal) (op : Op)
    (hs : Launching id db s.1.1.1 s.2) (hop : CreateOp db op) :
    ReadsDevices db op (logged (execServed h) s op).1 ∧
      Launching id db (logged (execServed h) s op).2.1.1.1 (logged (execServed h) s op).2.2 := by
  obtain ⟨⟨⟨now, canary⟩, delivered⟩, log⟩ := s
  have hs : Launching id db (now.writePhases (canary.headD [])) log := hs.writePhases _
  have hissued : ∀ r : op.Ret, rollbacksIssued id (log ++ [⟨op, r⟩]) = [] := by
    intro r
    rw [rollbacksIssued_append, hs.issued]
    cases hop with
    | request h => cases h <;> rfl
    | _ => rfl
  have hbegun : ∀ r : op.Ret, rollbackBegun id (log ++ [⟨op, r⟩]) = false := by
    intro r
    rw [rollbackBegun_append, hs.begun]
    cases hop with
    | request h => cases h <;> rfl
    | running => simp [rollbackBegun]
    | _ => rfl
  cases op with
  | sql q =>
      have hfault : ¬ (h.choiceAt (.sql q) (delivered.headD true)).fault = true := by
        simp [Service.choiceAt, Op.isPublish]
      have hanswer : execServed h ((now, canary), delivered) (.sql q) =
          (((now.writePhases (canary.headD [])).exec h.uuid q).1,
            ((((now.writePhases (canary.headD [])).exec h.uuid q).2, canary.tail),
              delivered.tail)) := by
        simp only [execServed, execQuiet, ControlPlane.exec_sql, if_neg hfault]
        rfl
      simp only [logged, hanswer]
      refine ⟨?_, ?_, hs.rows_exec _ hop, hs.status_exec _ hop, hissued _, hbegun _⟩
      · cases q with
        | getDevice i =>
            intro d hd
            have hfound : (now.writePhases (canary.headD [])).device i = some d := hd
            rw [← hs.devices, Db.device_id hfound]
            exact hfound
        | listDevices =>
            intro devs hdevs d hd
            obtain rfl := Option.some.inj hdevs
            obtain ⟨-, hknown⟩ := (now.writePhases (canary.headD [])).listDevices_spec
            rw [← hs.devices]
            exact Db.device_of_mem_listDevices hd
        | _ => trivial
      · refine (Db.device_exec ?_).trans hs.devices
        intro i v hq
        rw [hq] at hop
        cases hop with
        | request h => cases h
  | _ => exact ⟨trivial, hs.devices, hs.rows, hs.status, hissued _, hbegun _⟩

/-- What a creation leaves behind. -/
theorem serve_launching {h : Service} {req : CreateDeploymentRequest}
    (hcall : h.call = .createDeployment req) (hnew : db.deployment id = none)
    (horphans : db.rowsOf id = []) :
    Launching id db (serve (db, []) h).1 (serve (db, []) h).2 := by
  have hstart : Launching id db db [] := by
    refine ⟨rfl, ?_, ?_, rfl, rfl⟩
    · rw [horphans]
      simp
    · simp [hnew]
  have hbody : Always (ReadsDevices db) (CreateOp db) (ControlPlane.body h.call) := by
    rw [hcall]
    exact createDeployment_reads req
  have hfinal := hbody.run (s := (((db, h.canary), h.delivered), ([] : Journal)))
    (R := fun (s : ((Db × List (List PhaseWrite)) × List Bool) × Journal) =>
      Launching id db s.1.1.1 s.2) (launching_execServed (h := h)) hstart
  exact hfinal.writePhases _

end

/-! ## The round trip -/

/-- The deployment is rolled back, and the registry is as it was before the deployment was
created: each target has its version, each other device its row.  One rollback command
with this version has been issued for each row. -/
structure RoundTrip (id : DeploymentID) (db created : Db) (s : Db × Journal) : Prop where
  status : (s.1.deployment id).map (fun d => d.status) = some .rolledBack
  targets : (s.1.rowsOf id).map (fun row => row.deviceID) =
    (created.rowsOf id).map fun row => row.deviceID
  versions : ∀ row ∈ s.1.rowsOf id,
    s.1.currentVersion row.deviceID = db.currentVersion row.deviceID
  commands : (rollbacksIssued id s.2).map (fun c => (c.1, some c.2)) =
    (s.1.rowsOf id).map fun row => (row.deviceID, db.currentVersion row.deviceID)
  others : ∀ i, (∀ row ∈ s.1.rowsOf id, row.deviceID ≠ i) → s.1.device i = db.device i

/-- The journal only grows. -/
theorem serve_begun {id : DeploymentID} {s : Db × Journal} {h : Service}
    (hbegun : rollbackBegun id s.2 = true) : rollbackBegun id (serve s h).2 = true := by
  obtain ⟨more, hmore⟩ := run_logged_append (execServed h) (ControlPlane.body h.call)
    (((s.1, h.canary), h.delivered), s.2)
  have hlog : (serve s h).2 = s.2 ++ more := hmore
  rw [hlog, rollbackBegun_append, hbegun, Bool.true_or]

/-- The version a robot had. -/
def Db.earlier (db : Db) (i : DeviceID) : String :=
  (db.currentVersion i).getD ""

/-- The robots a deployment targets. -/
def Db.targeted (db : Db) (id : DeploymentID) : List DeviceID :=
  (db.rowsOf id).map fun row => row.deviceID

section

variable {id : DeploymentID} {db now : Db} {log : Journal}

/-- A target has an earlier version. -/
theorem Launching.targeted (hlaunch : Launching id db now log) {i : DeviceID}
    (hi : i ∈ now.targeted id) : ∃ d, db.device i = some d ∧ db.earlier i = d.currentVersion := by
  obtain ⟨row, hrow, rfl⟩ := List.mem_map.mp hi
  obtain ⟨d, hd, -⟩ := hlaunch.rows row hrow
  exact ⟨d, hd, by simp [Db.earlier, Db.currentVersion, hd]⟩

/-- A target runs its earlier version until its update succeeds. -/
theorem Launching.currentVersion (hlaunch : Launching id db now log) {i : DeviceID}
    (hi : i ∈ now.targeted id) : db.currentVersion i = some (db.earlier i) := by
  obtain ⟨d, hd, hversion⟩ := hlaunch.targeted hi
  simp [Db.currentVersion, hd, hversion]

/-- After the creation the deployment goes forward. -/
theorem Launching.forward (hlaunch : Launching id db now log) (hid : now.deployment id ≠ none) :
    ∃ g, Undoing id (now.targeted id) db.earlier now log g ∧
      Forward (now.targeted id) db.device g := by
  obtain ⟨d, hd⟩ := Option.ne_none_iff_exists'.mp hid
  refine ⟨⟨false, d.status, db.device, []⟩, ⟨?_, ?_, ?_, hlaunch.devices, hlaunch.issued,
    hlaunch.begun⟩, rfl, hlaunch.status d hd, rfl, fun _ _ => rfl⟩
  · rw [hd, Option.map_some]
  · simp only [Db.targeted, List.map_map]
    apply List.map_congr_left
    intro row hrow
    obtain ⟨d, hd, hversion⟩ := hlaunch.rows row hrow
    simp [Db.earlier, Db.currentVersion, hd, hversion]
  · intro i hi
    obtain ⟨d, hd, -⟩ := hlaunch.targeted hi
    rw [hlaunch.devices, hd]
    rfl

/-- The deployment goes forward until the rollback begins. -/
theorem forward_run {targets : List DeviceID} {V : DeviceID → String}
    {before : DeviceID → Option Device} {s m : Db × Journal} {hs : List Service}
    (hV : ∀ i ∈ targets, V i ≠ "")
    (hstart : ∃ g, Undoing id targets V s.1 s.2 g ∧ Forward targets before g)
    (hserved : EachStep serveStep (fun s h => ServedFor id s.1 h.call) s hs)
    (hrun : run serveStep s hs = some m) (hnot : rollbackBegun id m.2 = false) :
    ∃ g, Undoing id targets V m.1 m.2 g ∧ Forward targets before g := by
  have hinv : rollbackBegun id m.2 = true ∨
      ∃ g, Undoing id targets V m.1 m.2 g ∧ Forward targets before g := by
    apply run_invariant_of_eachStep (P := fun s h => ServedFor id s.1 h.call)
      (I := fun s : Db × Journal => rollbackBegun id s.2 = true ∨
        ∃ g, Undoing id targets V s.1 s.2 g ∧ Forward targets before g) ?_
      (Or.inr hstart) hserved hrun
    intro s h s' hs hfor hstep
    obtain rfl : serve s h = s' := Option.some.inj hstep
    rcases hs with hdone | ⟨g, hg, hforward⟩
    · exact Or.inl (serve_begun hdone)
    · obtain ⟨g', hg', hnext | hundone⟩ := serve_undo hV hg hforward hfor
      · exact Or.inr ⟨g', hg', hnext⟩
      · exact Or.inl (hg'.begun.trans hundone.begun)
  exact hinv.resolve_left (by simp [hnot])

/-- A deployment that is undone has made the round trip. -/
theorem Launching.roundTrip (hlaunch : Launching id db now log) {s : Db × Journal} {g : Undo}
    (hg : Undoing id (now.targeted id) db.earlier s.1 s.2 g)
    (hundone : Undone (now.targeted id) db.earlier db.device g) : RoundTrip id db now s := by
  have hrows : s.1.targeted id = now.targeted id := by
    have hfst := congrArg (List.map Prod.fst) hg.rows
    simpa [Function.comp_def, Db.targeted] using hfst
  refine ⟨?_, hrows, ?_, ?_, ?_⟩
  · rw [hg.status, hundone.status]
  · intro row hrow
    have hmem : row.deviceID ∈ now.targeted id := by
      rw [← hrows]
      exact List.mem_map.mpr ⟨row, hrow, rfl⟩
    obtain ⟨d, hd⟩ := Option.isSome_iff_exists.mp (hg.known _ hmem)
    have hversion : d.currentVersion = db.earlier row.deviceID :=
      hundone.versions _ hmem d (hg.devices ▸ hd)
    rw [hlaunch.currentVersion hmem, Db.currentVersion, hd, Option.map_some, hversion]
  · have hlist : (s.1.rowsOf id).map
        (fun row => (row.deviceID, db.currentVersion row.deviceID)) =
          (now.targeted id).map fun i => (i, db.currentVersion i) := by
      rw [← hrows, Db.targeted, List.map_map]
      rfl
    rw [hlist, hg.issued, hundone.issued, List.map_map]
    apply List.map_congr_left
    intro i hi
    simp [hlaunch.currentVersion hi]
  · intro i hi
    have hnone : i ∉ now.targeted id := by
      rw [← hrows]
      intro hmem
      obtain ⟨row, hrow, hdevice⟩ := List.mem_map.mp hmem
      exact hi row hrow hdevice
    rw [hg.devices]
    exact hundone.others i hnone

end

/-- The first rollback of a deployment undoes it: whatever reports have been handled for the
deployment since its creation, and whatever publishes return, the targets have the versions
they had before, other devices are unchanged, and one rollback command has been issued for
each row. -/
theorem rollback_round_trip {db : Db} {id : DeploymentID} {create h : Service}
    {req : CreateDeploymentRequest} {created m : Db × Journal} {hs : List Service}
    (hcreate : create.call = .createDeployment req) (hnew : db.deployment id = none)
    (horphans : db.rowsOf id = []) (hcreated : serve (db, []) create = created)
    (hid : created.1.deployment id ≠ none)
    (hversions : ∀ row ∈ created.1.rowsOf id, db.currentVersion row.deviceID ≠ some "")
    (hserved : EachStep serveStep (fun s h => ServedFor id s.1 h.call) created (hs ++ [h]))
    (hrun : run serveStep created hs = some m) (hnot : rollbackBegun id m.2 = false)
    (hbegun : rollbackBegun id (serve m h).2 = true) :
    RoundTrip id db created.1 (serve m h) := by
  have hlaunch : Launching id db created.1 created.2 := by
    rw [← hcreated]
    exact serve_launching hcreate hnew horphans
  have hV : ∀ i ∈ created.1.targeted id, db.earlier i ≠ "" := by
    intro i hi hempty
    have hcurrent := hlaunch.currentVersion hi
    obtain ⟨row, hrow, rfl⟩ := List.mem_map.mp hi
    exact hversions row hrow (hempty ▸ hcurrent)
  obtain ⟨g, hg, hforward⟩ :=
    forward_run hV (hlaunch.forward hid) hserved.of_append hrun hnot
  obtain ⟨g', hg', hforward' | hundone⟩ := serve_undo hV hg hforward (hserved.at hrun)
  · rw [hg'.begun, hforward'.begun] at hbegun
    cases hbegun
  · exact hlaunch.roundTrip hg' hundone

/-- The executable form of {lit}`ServedFor`. -/
def servedFor (id : DeploymentID) (db : Db) : Call → Bool
  | .progress event => (db.activeRow event.deviceID).all fun row => row.deploymentID = id
  | .error event => (db.activeRow event.deviceID).all fun row => row.deploymentID = id
  | .rollback depID => depID = id
  | .getDeployment _ => true
  | .createDeployment _ | .runCanary _ _ _ => false

theorem servedFor_spec {id : DeploymentID} {db : Db} {call : Call}
    (h : servedFor id db call = true) : ServedFor id db call := by
  cases call with
  | progress event | error event =>
      intro row hrow
      simpa [servedFor, hrow] using h
  | rollback depID => simpa [servedFor, ServedFor] using h
  | getDeployment depID => trivial
  | createDeployment req => cases h
  | runCanary depID devices cmd => cases h

/-- A rollout to two of three robots. -/
def twoTargets : CreateDeploymentRequest where
  firmwareID := some 0
  strategy := "full"
  deviceIDs := ["r1", "r2"]

/-- The first robot succeeds, the error of the second one breaches the threshold, and no
publish of a rollback command arrives. -/
theorem rollback_round_trip_after_success :
    RoundTrip 0 (ControlPlane.fleetDb ["r1", "r2", "r3"] (by decide))
      (serve (ControlPlane.fleetDb ["r1", "r2", "r3"] (by decide), [])
        { call := .createDeployment twoTargets }).1
      (serve (serve (serve (ControlPlane.fleetDb ["r1", "r2", "r3"] (by decide), [])
          { call := .createDeployment twoTargets })
        { call := .progress ⟨"r1", "success", 100⟩ })
        { call := .error ⟨"r2", "checksum mismatch"⟩, delivered := List.replicate 8 false }) := by
  have hserved : EachStep serveStep (fun (s : Db × Journal) (h : Service) => ServedFor 0 s.1 h.call)
      (serve (ControlPlane.fleetDb ["r1", "r2", "r3"] (by decide), [])
        { call := .createDeployment twoTargets })
      ([{ call := .progress ⟨"r1", "success", 100⟩ }] ++
        [{ call := .error ⟨"r2", "checksum mismatch"⟩, delivered := List.replicate 8 false }]) :=
    EachStep.of_eachStep (p := fun (s : Db × Journal) (h : Service) => servedFor 0 s.1 h.call)
      (fun _ _ => servedFor_spec) (by decide +kernel)
  exact rollback_round_trip rfl rfl rfl rfl (by decide +kernel) (by decide +kernel) hserved rfl
    (by decide +kernel) (by decide +kernel)

end OtaRobot
