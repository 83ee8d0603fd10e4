import OtaRobot.Frontend.LaunchPage
import OtaRobot.Rollout.Creation

/-!
# A planned launch is accepted

What the launch page has planned, and {lit}`CreateDeployment` is asked to do while no other call
disturbs it and nothing fails: it creates a running deployment with one row for each of the planned
devices, and starts to send them the update.

Main results:

- Theorem {lit}`createDeployment_accepts`: what an undisturbed creation leaves behind.
- Theorem {lit}`planned_accepted`: a plan of the launch page is accepted as it was made.
-/

namespace OtaRobot

open Prog Transition

/-! ## Undisturbed calls -/

/-- Nothing disturbs the call and nothing fails: the state is the store and what has been
executed. -/
abbrev Undisturbed {α : Type} (x : Choice) (post : Store → List (Answered Op.Ret) → α → Prop)
    (s : Store) (log : List (Answered Op.Ret)) (p : Rollout α) : Prop :=
  Obeys (tracking (logged fun s op => ControlPlane.exec s op x)) (fun s a => post s.1 s.2 a)
    (s, log) p

/-- The rows of a deployment that was started for the devices. -/
structure Started (uuid : DeploymentID) (fw : FirmwareVersion) (strategy : Strategy)
    (threshold : ℚ) (devs : List Device) (db : Db) : Prop where
  deployment : ∃ d, db.deployment uuid = some d ∧ d.status = .running ∧
    d.firmwareVersionID = fw.id ∧ d.strategy = strategy ∧ d.totalDevices = devs.length ∧
      d.rollbackThreshold = threshold ∧ d.successCount = 0 ∧ d.failureCount = 0
  rows : db.rowsOf uuid = devs.map (targetRow uuid)

/-- Every device has been sent the command, or a canary goroutine is to send it. -/
def UpdateUnderWay (uuid : DeploymentID) (strategy : Strategy) (cmd : UpdateCommand)
    (devs : List Device) (s : Store) (log : List (Answered Op.Ret)) : Prop :=
  match strategy with
  | .canary => Call.runCanary uuid devs cmd ∈ s.goroutines
  | .full => ∀ dev ∈ devs,
      (⟨.publishCommand uuid dev.id (.update cmd), true⟩ : Answered Op.Ret) ∈ log

/-- What was sent was sent ever after. -/
theorem UpdateUnderWay.append {uuid : DeploymentID} {strategy : Strategy} {cmd : UpdateCommand}
    {devs : List Device} {s : Store} {log : List (Answered Op.Ret)}
    (h : UpdateUnderWay uuid strategy cmd devs s log) (log' : List (Answered Op.Ret)) :
    UpdateUnderWay uuid strategy cmd devs s (log ++ log') := by
  cases strategy with
  | canary => exact h
  | full => exact fun dev hdev => List.mem_append_left _ (h dev hdev)

section

variable {α : Type} {x : Choice} {post : Store → List (Answered Op.Ret) → α → Prop}
  {s s' : Store} {log : List (Answered Op.Ret)}

/-- One operation of a call nobody disturbs. -/
theorem undisturbed_call (op : Op) {k : op.Ret → Rollout α} (r : op.Ret)
    (h : ControlPlane.exec s op x = (r, s'))
    (hk : Undisturbed x post s' (log ++ [⟨op, r⟩]) (k r)) :
    Undisturbed x post s log (.call op k) := by
  apply tracking_call (r := r) _ hk
  show ((ControlPlane.exec s op x).1, ((ControlPlane.exec s op x).2,
    log ++ [(⟨op, (ControlPlane.exec s op x).1⟩ : Answered Op.Ret)])) = _
  rw [h]

/-- A statement that does not fail. -/
theorem undisturbed_statement (hx : x.fault = false) (q : Query)
    {k : (Op.sql q).Ret → Rollout α} (r : Option q.Row) (db : Db)
    (h : s.db.exec x.uuid q = (r, db))
    (hk : Undisturbed x post { s with db } (log ++ [⟨.sql q, r⟩]) (k r)) :
    Undisturbed x post s log (.call (.sql q) k) := by
  apply undisturbed_call (.sql q) r _ hk
  rw [ControlPlane.exec_sql, hx, h]
  rfl

end

section

variable {x : Choice} {s : Store} {log : List (Answered Op.Ret)}

/-! ## The steps of a creation -/

/-- Known devices of a compatible model are all taken. -/
theorem lookupTargets_undisturbed (hx : x.fault = false) {targetHw : String} {ids : List DeviceID}
    (h : ∀ id ∈ ids, ∃ dev, s.db.device id = some dev ∧
      (targetHw = "all" ∨ dev.hwModel = targetHw)) (targets : List Device) :
    Undisturbed x (fun s' _ r => s' = s ∧ r = .ok (targets ++ ids.filterMap s.db.device)) s log
      (lookupTargets targetHw ids targets) := by
  induction ids generalizing targets log with
  | nil =>
      refine ⟨rfl, ?_⟩
      simp
  | cons id ids ih =>
      obtain ⟨dev, hdev, hmodel⟩ := h id List.mem_cons_self
      rw [lookupTargets, query_bind]
      apply undisturbed_statement hx (.getDevice id) (some dev) s.db
      · exact Prod.ext hdev rfl
      · have hcompatible : ¬ (targetHw ≠ "all" ∧ dev.hwModel ≠ targetHw) := by
          rintro ⟨hall, hne⟩
          exact hmodel.elim hall hne
        dsimp only
        rw [if_neg hcompatible]
        refine Obeys.mono (ih (fun id' hid' => h id' (List.mem_cons_of_mem id hid'))
          (targets ++ [dev])) ?_
        rintro ⟨s', log'⟩ r ⟨rfl, rfl⟩
        exact ⟨rfl, by simp [hdev]⟩

/-- One row for each target. -/
theorem createDeploymentDevices_undisturbed (hx : x.fault = false) {depID : DeploymentID}
    {devs : List Device} (hdep : (s.db.deployment depID).isSome = true)
    (hdevs : ∀ dev ∈ devs, (s.db.device dev.id).isSome = true) :
    Undisturbed x (fun s' _ _ => s' = { s with db := { s.db with
        deploymentDevices := s.db.deploymentDevices ++ devs.map (targetRow depID) } }) s log
      (createDeploymentDevices depID devs) := by
  induction devs generalizing s log with
  | nil =>
      show s = _
      simp
  | cons dev devs ih =>
      obtain ⟨d, hd⟩ := Option.isSome_iff_exists.mp hdep
      obtain ⟨dev', hdev⟩ := Option.isSome_iff_exists.mp (hdevs dev List.mem_cons_self)
      rw [createDeploymentDevices, query_bind]
      apply undisturbed_statement hx (.createDeploymentDevice _) (some (targetRow depID dev))
        { s.db with deploymentDevices := s.db.deploymentDevices ++ [targetRow depID dev] }
      · show Db.createDeploymentDevice _ _ = _
        simp only [Db.createDeploymentDevice, hd, hdev]
        rfl
      · refine Obeys.mono (@ih { s with db := { s.db with
            deploymentDevices := s.db.deploymentDevices ++ [targetRow depID dev] } } _ hdep
          fun dev hdev => hdevs dev (List.mem_cons_of_mem _ hdev)) ?_
        rintro ⟨s', log'⟩ _ rfl
        simp

/-- The command goes to every target. -/
theorem dispatch_undisturbed (hx : x.fault = false) (depID : DeploymentID) (cmd : UpdateCommand)
    (devs : List Device) :
    Undisturbed x (fun s' log' _ => s' = s ∧ log <+: log' ∧ ∀ dev ∈ devs,
        (⟨.publishCommand depID dev.id (.update cmd), true⟩ : Answered Op.Ret) ∈ log') s log
      (dispatch depID cmd devs) := by
  induction devs generalizing log with
  | nil => exact ⟨rfl, List.prefix_rfl, fun dev hdev => absurd hdev List.not_mem_nil⟩
  | cons dev devs ih =>
      rw [dispatch, publishCommand_bind]
      apply undisturbed_call (.publishCommand depID dev.id (.update cmd)) true
      · show (!x.fault, s) = _
        rw [hx]
        rfl
      · refine ih.mono ?_
        rintro ⟨s', log'⟩ _ ⟨rfl, hlog, hrest⟩
        refine ⟨rfl, (List.prefix_append _ _).trans hlog, ?_⟩
        intro dev' hdev'
        rcases List.mem_cons.mp hdev' with rfl | hdev'
        · exact hlog.subset (List.mem_append_right _ (List.mem_singleton_self _))
        · exact hrest dev' hdev'

/-- The rollout of a deployment is started, and only its phase may change. -/
theorem startRollout_undisturbed (hx : x.fault = false) {uuid : DeploymentID}
    {fw : FirmwareVersion} {strategy : Strategy} {threshold : ℚ} {devs : List Device}
    (hdevs : devs ≠ []) (cmd : UpdateCommand) (hs : Started uuid fw strategy threshold devs s.db) :
    Undisturbed x (fun s' log' r => r = .ok () ∧ Started uuid fw strategy threshold devs s'.db ∧
        UpdateUnderWay uuid strategy cmd devs s' log') s log
      (startRollout uuid strategy devs cmd) := by
  rw [startRollout, markStartRollout_bind]
  apply undisturbed_call (.startRollout uuid) () rfl
  have hlength : ¬ devs.length = 0 := fun hzero => hdevs (List.length_eq_zero_iff.mp hzero)
  rw [if_neg hlength]
  cases strategy with
  | canary =>
      rw [if_pos rfl, goRunCanary_bind]
      refine undisturbed_call (.goRunCanary uuid devs cmd) () rfl ⟨rfl, hs, ?_⟩
      exact List.mem_append_right _ (List.mem_singleton_self _)
  | full =>
      rw [if_neg (by decide)]
      refine (dispatch_undisturbed hx uuid cmd devs).bind ?_
      rintro ⟨s', log'⟩ _ ⟨rfl, -, hpublished⟩
      show Undisturbed x (fun s' log' (r : Outcome) => r = .ok () ∧
        Started uuid fw .full threshold devs s'.db ∧ UpdateUnderWay uuid .full cmd devs s' log')
          s' log' (query (.updateDeploymentPhase uuid 3 100) >>= fun _ =>
            (pure (Except.ok ()) : Rollout Outcome))
      rw [query_bind]
      refine undisturbed_statement hx (.updateDeploymentPhase uuid 3 100) _ _ rfl ?_
      refine ⟨rfl, ⟨?_, hs.rows⟩, ?_⟩
      · obtain ⟨d, hd, hrest⟩ := hs.deployment
        have hid : d.id = uuid := Db.deployment_id hd
        have hphase := @Db.deployment_exec _ x.uuid (.updateDeploymentPhase uuid 3 100) uuid d hd
        rw [Query.onDeployment, if_pos hid.symm] at hphase
        exact ⟨_, hphase, hrest⟩
      · intro dev hdev
        exact List.mem_append_left _ (hpublished dev hdev)

/-! ## The whole creation -/

/-- The command of a deployment. -/
def updateOf (fw : FirmwareVersion) (url targetHw : String) : UpdateCommand where
  version := fw.version
  hwModel := targetHw
  downloadURL := url
  sha256Checksum := fw.sha256Checksum
  signature := Option.getD fw.ecdsaSignature ""

/-- The request was answered with the new deployment, which was started for the devices. -/
structure Accepts (x : Choice) (fw : FirmwareVersion) (strategy : Strategy) (threshold : ℚ)
    (targetHw : String) (devs : List Device) (s : Store) (log : List (Answered Op.Ret)) : Prop where
  replied : (⟨.respond (.created x.uuid devs.length strategy), ()⟩ : Answered Op.Ret) ∈ log
  started : Started x.uuid fw strategy threshold devs s.db
  underway : UpdateUnderWay x.uuid strategy (updateOf fw x.url targetHw) devs s log

/-- The UUID is new and the firmware is in the catalogue. -/
structure ReadyFor (x : Choice) (fw : FirmwareVersion) (db : Db) : Prop where
  fresh : db.deployment x.uuid = none
  orphans : db.rowsOf x.uuid = []
  firmware : db.firmware.find? fw.id = some fw

/-- The database with the deployment, and then with the deployment running. -/
theorem inserted_running {fw : FirmwareVersion} (hready : ReadyFor x fw s.db)
    (params : CreateDeploymentParams) (hparams : params.firmwareVersionID = fw.id) :
    ∃ db db' updated, s.db.createDeployment x.uuid params = (some (params.row x.uuid), db) ∧
      db.exec x.uuid (.updateDeploymentStatus x.uuid .running) = (updated, db') ∧
      db'.deployment x.uuid = some { params.row x.uuid with status := .running } ∧
      db'.devices = s.db.devices ∧ db'.deploymentDevices = s.db.deploymentDevices := by
  have hnone : s.db.deployments.find? (params.row x.uuid).id = none := hready.fresh
  obtain ⟨deployments, hinsert⟩ := Table.insert_eq_some hnone
  have hfind : ({ s.db with deployments } : Db).deployment x.uuid = some (params.row x.uuid) :=
    (Table.find?_insert hinsert x.uuid).trans (if_pos rfl)
  refine ⟨{ s.db with deployments }, _, _, ?_, rfl, ?_, rfl, rfl⟩
  · unfold Db.createDeployment
    rw [hparams, hready.firmware, hinsert]
  · have hrunning :=
      @Db.deployment_exec _ x.uuid (.updateDeploymentStatus x.uuid .running) x.uuid _ hfind
    exact hrunning.trans (congrArg some (if_pos rfl))

/-- The rows of a new deployment are its targets: none was there before it. -/
theorem launchDeployment_accepts (hx : x.fault = false) {fw : FirmwareVersion}
    (hready : ReadyFor x fw s.db) (strategy : Strategy) (threshold : ℚ) (targetHw : String)
    {devs : List Device} (hdevs : devs ≠ [])
    (hknown : ∀ dev ∈ devs, (s.db.device dev.id).isSome = true) :
    Undisturbed x (fun s' log' _ => Accepts x fw strategy threshold targetHw devs s' log') s log
      (launchDeployment fw x.url strategy threshold targetHw devs) := by
  obtain ⟨db, db', updated, hcreate, hupdate, hrunning, hdevices, hrows⟩ := inserted_running hready
    { firmwareVersionID := fw.id
      strategy := strategy
      canaryPercentage := initPercentage strategy
      totalDevices := devs.length
      rollbackThreshold := threshold
      createdBy := some "operator" } rfl
  rw [launchDeployment, query_bind]
  apply undisturbed_statement hx (.createDeployment _) _ db hcreate
  dsimp only
  rw [query_bind]
  apply undisturbed_statement hx (.updateDeploymentStatus _ .running) updated db' hupdate
  refine (createDeploymentDevices_undisturbed hx ?_ ?_).bind ?_
  · exact Option.isSome_iff_exists.mpr ⟨_, hrunning⟩
  · intro dev hdev
    show (db'.devices.find? dev.id).isSome = true
    rw [hdevices]
    exact hknown dev hdev
  · rintro ⟨s', log'⟩ _ rfl
    have htargets : ((devs.map (targetRow x.uuid)).filter fun row => row.deploymentID = x.uuid) =
        devs.map (targetRow x.uuid) := by
      apply List.filter_eq_self.mpr
      intro row hrow
      obtain ⟨dev, -, rfl⟩ := List.mem_map.mp hrow
      exact decide_eq_true rfl
    have horphans : (s.db.deploymentDevices.filter fun row => row.deploymentID = x.uuid) = [] :=
      hready.orphans
    have hstarted : Started x.uuid fw strategy threshold devs { db' with
        deploymentDevices := db'.deploymentDevices ++ devs.map (targetRow x.uuid) } := by
      refine ⟨⟨_, hrunning, rfl, rfl, rfl, rfl, rfl, rfl, rfl⟩, ?_⟩
      show List.filter (fun row => row.deploymentID = x.uuid)
        (db'.deploymentDevices ++ devs.map (targetRow x.uuid)) = _
      rw [hrows, List.filter_append, horphans, htargets, List.nil_append]
    refine (startRollout_undisturbed hx hdevs (updateOf fw x.url targetHw) hstarted).bind ?_
    rintro ⟨s', log'⟩ outcome ⟨rfl, hstarted, hunderway⟩
    show Undisturbed x (fun s' log' _ => Accepts x fw strategy threshold targetHw devs s' log') s'
      log' (.call (.respond (.created x.uuid devs.length strategy)) .done)
    refine undisturbed_call _ () rfl ?_
    show Accepts x fw strategy threshold targetHw devs s' (log' ++
      [⟨.respond (.created x.uuid devs.length strategy), ()⟩])
    exact ⟨List.mem_append_right _ (List.mem_singleton_self _), hstarted, hunderway.append _⟩

/-- A request for known devices of a compatible model passes every check of the handler. -/
theorem createDeployment_accepts (hx : x.fault = false) {fw : FirmwareVersion}
    (hready : ReadyFor x fw s.db) {req : CreateDeploymentRequest} {strategy : Strategy}
    (hfirmware : req.firmwareID = some fw.id) (hstrategy : req.parseStrategy = some strategy)
    (hthreshold : AdmissibleThreshold req.threshold) (hids : req.deviceIDs ≠ [])
    (hknown : ∀ id ∈ req.deviceIDs, ∃ dev, s.db.device id = some dev ∧
      (req.targetHw = "all" ∨ dev.hwModel = req.targetHw)) :
    Undisturbed x (fun s' log' _ => Accepts x fw strategy req.threshold req.targetHw
      (req.deviceIDs.filterMap s.db.device) s' log') s log (createDeployment req) := by
  have hrequested : req.deviceIDs.length > 0 := List.length_pos_iff.mpr hids
  have hdevs : req.deviceIDs.filterMap s.db.device ≠ [] := by
    obtain ⟨id, hid⟩ := List.exists_mem_of_ne_nil _ hids
    obtain ⟨dev, hdev, -⟩ := hknown id hid
    exact List.ne_nil_of_mem (List.mem_filterMap.mpr ⟨id, hid, hdev⟩)
  have hregistered : ∀ dev ∈ req.deviceIDs.filterMap s.db.device,
      (s.db.device dev.id).isSome = true := by
    intro dev hdev
    obtain ⟨id, -, hfound⟩ := List.mem_filterMap.mp hdev
    rw [Db.device_id hfound, hfound]
    rfl
  rw [createDeployment, hfirmware]
  dsimp only
  rw [query_bind]
  apply undisturbed_statement hx (.getFirmwareVersion fw.id) (some fw) s.db
  · exact Prod.ext hready.firmware rfl
  · dsimp only
    rw [presignedGetObject_bind]
    apply undisturbed_call (.presignedGetObject fw.storageKey) (some x.url)
    · show ((if x.fault then none else some x.url : Option String), s) = _
      rw [hx]
      rfl
    · dsimp only
      rw [hstrategy]
      dsimp only
      rw [if_pos hthreshold, createForTargets, selectTargets, if_pos hrequested]
      refine (lookupTargets_undisturbed hx hknown []).bind ?_
      rintro ⟨s', log'⟩ _ ⟨rfl, rfl⟩
      dsimp only
      rw [List.nil_append, if_neg fun hzero => hdevs (List.length_eq_zero_iff.mp hzero)]
      exact launchDeployment_accepts hx hready strategy req.threshold req.targetHw hdevs hregistered

end

/-! ## Plans of the launch page -/

namespace Frontend

/-- The strategy is parsed as it was written. -/
theorem parseStrategy_strategyText {req : CreateDeploymentRequest} {strategy : Strategy}
    (h : req.strategy = strategyText strategy) : req.parseStrategy = some strategy := by
  rw [CreateDeploymentRequest.parseStrategy, h]
  cases strategy <;> decide

/-- An admissible threshold is not replaced by the default. -/
theorem threshold_of_admissible {req : CreateDeploymentRequest}
    (h : AdmissibleThreshold req.rollbackThreshold) : req.threshold = req.rollbackThreshold := by
  have hpos : ¬ req.rollbackThreshold ≤ 0 := by
    have hlow := h.1
    intro hle
    linarith
  exact if_neg hpos

/-- Of the planned devices, those the database knows are found by their ids. -/
theorem found_targets {db : Db} {targets : List Device}
    (h : ∀ d ∈ targets, ∃ dev, db.device d.id = some dev ∧ dev.hwModel = d.hwModel) :
    ((targets.map fun d => d.id).filterMap db.device).map (fun d => d.id) =
      targets.map fun d => d.id := by
  induction targets with
  | nil => rfl
  | cons d ds ih =>
      obtain ⟨dev, hdev, -⟩ := h d List.mem_cons_self
      have hrest := ih fun d' hd' => h d' (List.mem_cons_of_mem d hd')
      rw [List.map_cons, List.filterMap_cons_some hdev, List.map_cons, hrest, Db.device_id hdev]

/-- What the page has sent, whatever was clicked, is accepted by an undisturbed creation as it was
planned: the firmware is still in the catalogue, and every planned device is still known with its
model. -/
theorem planned_accepted {as : List LaunchAction} {page : LaunchPage}
    (hpage : run LaunchPage.step {} as = some page)
    (hundistracted : EachStep LaunchPage.step LaunchPage.Undistracted {} as) {p : Post}
    (hp : p ∈ page.posts) {x : Choice} (hx : x.fault = false) {fw : FirmwareVersion} {s : Store}
    (hready : ReadyFor x fw s.db) (hfw : fw.id = p.firmware.id)
    (hknown : ∀ d ∈ p.targets, ∃ dev, s.db.device d.id = some dev ∧ dev.hwModel = d.hwModel) :
    ∃ devs, devs.map (fun d => d.id) = p.targets.map (fun d => d.id) ∧
      let final := ((createDeployment p.request).run
        (logged fun s op => ControlPlane.exec s op x) (s, [])).2
      Accepts x fw p.strategy p.request.rollbackThreshold p.request.targetHw devs
        final.1 final.2 := by
  have hplanned := LaunchPage.planned_run hpage hundistracted p hp
  have hmodels : ∀ id ∈ p.request.deviceIDs, ∃ dev, s.db.device id = some dev ∧
      (p.request.targetHw = "all" ∨ dev.hwModel = p.request.targetHw) := by
    intro id hid
    rw [hplanned.devices] at hid
    obtain ⟨d, hd, rfl⟩ := List.mem_map.mp hid
    obtain ⟨dev, hdev, hmodel⟩ := hknown d hd
    refine ⟨dev, hdev, ?_⟩
    rw [hmodel, hplanned.model d hd]
    unfold CreateDeploymentRequest.targetHw
    split
    · exact Or.inl rfl
    · exact Or.inr rfl
  have hids : p.request.deviceIDs ≠ [] := by
    rw [hplanned.devices]
    exact fun hnil => hplanned.nonempty (List.map_eq_nil_iff.mp hnil)
  have hthreshold := threshold_of_admissible hplanned.threshold
  refine ⟨p.request.deviceIDs.filterMap s.db.device, ?_, ?_⟩
  · rw [hplanned.devices]
    exact found_targets hknown
  · rw [← hthreshold]
    refine obeys_tracking.mp (createDeployment_accepts hx hready ?_
      (parseStrategy_strategyText hplanned.strategy) ?_ hids hmodels)
    · rw [hplanned.firmware, hfw]
    · rw [hthreshold]
      exact hplanned.threshold

open LaunchPage in

/-- A canary for one robot is accepted. -/
theorem planned_accepted_canary :
    ∃ devs, devs.map (fun d => d.id) = ["robot-1"] ∧
      let final := ((createDeployment canaryPost.request).run
        (logged fun s op => ControlPlane.exec s op { uuid := 3 })
        (({ db := ControlPlane.fleetDb ["robot-1"] (by decide) } : Store), [])).2
      Accepts { uuid := 3 } release .canary (1 / 5) "sim-v1" devs final.1 final.2 := by
  have hundistracted : EachStep step Undistracted {} launching :=
    EachStep.of_eachStep undistracted_sound (by decide +kernel)
  have hready : ReadyFor { uuid := 3 } release (ControlPlane.fleetDb ["robot-1"] (by decide)) :=
    ⟨rfl, rfl, rfl⟩
  refine planned_accepted run_launching hundistracted (p := canaryPost) List.mem_cons_self
    (x := { uuid := 3 }) rfl hready rfl ?_
  intro d hd
  obtain rfl := List.mem_singleton.mp hd
  exact ⟨onlineRobot, rfl, rfl⟩

end Frontend

end OtaRobot
