import OtaRobot.Mqtt.Status
import OtaRobot.Rollout.Operations
import OtaRobot.System

/-!
# The two hardware checks

{lit}`CreateDeployment` compares the requested model with the one in the registry, the agent with
its own.  A status message carries the model of the robot, but only the message that inserts the
row writes it: {lit}`UpsertDevice` does not update {lit}`hw_model`.

Main results:

- Theorem {lit}`hwModel_receiveAll`: the registry keeps the first model it was told.
- Theorem {lit}`createDeployment_model`: a deployment sends the model its request was checked for.
- Theorem {lit}`hardware_checks_agree`: when both checks say the same.
-/

namespace OtaRobot

open Prog

/-! ## The check of the control plane -/

/-- The loop over {lit}`device_ids`, when no statement fails. -/
def lookupOn (db : Db) (targetHw : String) (devIDs : List DeviceID) (targets : List Device) :
    Except Reply (List Device) :=
  ((lookupTargets targetHw devIDs targets).run
    (fun s op => ControlPlane.exec s op {}) { db := db }).1

/-- Wherever the device is named, the loop makes it a target and goes on. -/
def LetsThrough (db : Db) (targetHw : String) (d : DeviceID) : Prop :=
  ∃ dev, db.device d = some dev ∧ ∀ devIDs targets,
    lookupOn db targetHw (d :: devIDs) targets = lookupOn db targetHw devIDs (targets ++ [dev])

/-- The loop at a device that is there. -/
theorem lookupOn_cons {db : Db} {targetHw : String} {d : DeviceID} {dev : Device}
    (h : db.device d = some dev) (devIDs : List DeviceID) (targets : List Device) :
    lookupOn db targetHw (d :: devIDs) targets =
      if targetHw ≠ "all" ∧ dev.hwModel ≠ targetHw then
        .error (.error 400 ("device " ++ dev.id ++ " has incompatible hardware model " ++
          dev.hwModel ++ " for deployment target " ++ targetHw))
      else lookupOn db targetHw devIDs (targets ++ [dev]) := by
  have hanswer : (ControlPlane.exec { db := db } (.sql (.getDevice d)) {}).1 =
      (some dev : Option Device) := h
  refine (congrArg Prod.fst (run_call_of_answer hanswer)).trans ?_
  by_cases hmodel : targetHw ≠ "all" ∧ dev.hwModel ≠ targetHw
  · rw [if_pos hmodel]
    show (run _ (if _ then _ else _) _).1 = _
    rw [if_pos hmodel]
    rfl
  · rw [if_neg hmodel]
    show (run _ (if _ then _ else _) _).1 = _
    rw [if_neg hmodel]
    rfl

/-- When a device is let through. -/
theorem letsThrough_iff {db : Db} {targetHw : String} {d : DeviceID} :
    LetsThrough db targetHw d ↔
      ∃ dev, db.device d = some dev ∧ (targetHw = "all" ∨ dev.hwModel = targetHw) := by
  constructor
  · rintro ⟨dev, hdev, hloop⟩
    refine ⟨dev, hdev, ?_⟩
    by_contra hne
    rw [not_or] at hne
    have hrefused := hloop [] []
    rw [lookupOn_cons hdev, if_pos hne] at hrefused
    cases hrefused
  · rintro ⟨dev, hdev, hmodel⟩
    refine ⟨dev, hdev, fun devIDs targets => ?_⟩
    rw [lookupOn_cons hdev, if_neg]
    tauto

/-! ## The model a command carries -/

/-- Commands that are published, or handed to the canary goroutine, carry the model. -/
def CarriesModel (targetHw : String) : Op → Prop
  | .publishCommand _ _ (.update cmd) => cmd.hwModel = targetHw
  | .goRunCanary _ _ cmd => cmd.hwModel = targetHw
  | _ => True

/-- A rollout sends the model it was given. -/
theorem startRollout_model (depID : DeploymentID) (strategy : Strategy) (devs : List Device)
    {targetHw : String} {cmd : UpdateCommand} (h : cmd.hwModel = targetHw) :
    Always AnyAnswer (CarriesModel targetHw) (startRollout depID strategy devs cmd) := by
  rw [startRollout, markStartRollout_bind]
  refine ⟨trivial, fun _ _ => ?_⟩
  split
  · trivial
  · split
    · exact ⟨h, fun _ _ => trivial⟩
    · apply Always.bind
      · refine (dispatch_ops depID cmd devs).mono (fun _ _ h => h) ?_
        rintro _ ⟨⟩
        exact h
      · exact fun _ => ⟨trivial, fun _ _ => trivial⟩

/-- A deployment sends the model that was checked. -/
theorem launchDeployment_model (fw : FirmwareVersion) (url : String) (strategy : Strategy)
    (threshold : ℚ) (targetHw : String) (devs : List Device) :
    Always AnyAnswer (CarriesModel targetHw)
      (launchDeployment fw url strategy threshold targetHw devs) := by
  rw [launchDeployment, query_bind]
  refine ⟨trivial, ?_⟩
  rintro (_ | dep) -
  · exact ⟨trivial, fun _ _ => trivial⟩
  · dsimp only
    rw [query_bind]
    refine ⟨trivial, fun _ _ => ?_⟩
    apply Always.bind
    · refine (createDeploymentDevices_ops dep.id devs).mono (fun _ _ h => h) ?_
      rintro _ ⟨⟩
      trivial
    · intro _
      refine Always.bind (startRollout_model dep.id strategy devs rfl) fun outcome => ?_
      cases outcome with
      | error text => exact ⟨trivial, fun _ _ => trivial⟩
      | ok u => exact ⟨trivial, fun _ _ => trivial⟩

/-- A deployment sends the model its request was checked for. -/
theorem createDeployment_model (req : CreateDeploymentRequest) :
    Always AnyAnswer (CarriesModel req.targetHw) (createDeployment req) := by
  apply always_iff_obeys.mpr
  refine createDeployment_obeys_of_targets (D := fun _ => True) ?_ trivial ?_ ?_
  · rintro op (_ | _ | _ | _ | _) <;> exact ⟨trivial, fun _ => rfl⟩
  · apply Obeys.mono (always_iff_obeys.mp ?_) fun g a _ => ⟨rfl, fun _ _ => trivial⟩
    refine (selectTargets_ops req.targetHw req.deviceIDs).mono (fun _ _ h => h) ?_
    rintro op (_ | _) <;> trivial
  · intro fw url strategy devs _ _ _
    exact always_iff_obeys.mp (launchDeployment_model fw url strategy _ _ devs)

/-! ## The model in the registry -/

/-- The model of a device in the registry. -/
def ReportStore.hwModel (s : ReportStore) (id : DeviceID) : Option String :=
  (s.db.device id).map Device.hwModel

/-- The model a status message names; the empty one has a default. -/
def StatusMessage.model (m : StatusMessage) : String :=
  if m.hwModel = "" then "sim-v1" else m.hwModel

/-- The model the registry keeps: the one it has, else that of the first message whose upsert does
not fail. -/
def keptModel (env : Nat → Nat → Reading) (k : Nat) : Option String → List StatusMessage →
    Option String
  | model, [] => model
  | model, m :: ms =>
      keptModel env (k + 1) (if (env k 0).fault then model else some (model.getD m.model)) ms

/-- An upsert inserts the model, and does not update it. -/
theorem ReportStore.hwModel_upsertDevice (s : ReportStore) (p : UpsertDeviceParams) (now : Nat) :
    (s.upsertDevice p now).hwModel p.id = some ((s.hwModel p.id).getD p.hwModel) := by
  unfold upsertDevice
  cases hinsert : s.db.devices.insert p.row with
  | some devices =>
      have hfind := Table.find?_insert hinsert p.id
      have hrow : devices.find? p.id = some p.row := by
        rw [hfind]
        exact if_pos rfl
      have hfresh : s.db.devices.find? p.id = none := Table.insert_fresh hinsert
      simp [ReportStore.hwModel, setColumns, Db.device, hrow, hfresh, UpsertDeviceParams.row]
  | none =>
      obtain ⟨d, hd⟩ : ∃ d, s.db.devices.find? p.id = some d := by
        apply Option.ne_none_iff_exists'.mp
        intro hnone
        obtain ⟨devices, hsome⟩ := Table.insert_eq_some (r := p.row) hnone
        rw [hinsert] at hsome
        cases hsome
      simp [ReportStore.hwModel, setColumns, Db.device, hd]

/-- What a status message does to the model in the registry. -/
theorem hwModel_process (rolloutMgr : Bool) (env : Nat → Reading) (s : ReportStore)
    (m : StatusMessage) :
    (process rolloutMgr env s m.received).1.hwModel m.deviceID =
      if (env 0).fault then s.hwModel m.deviceID
      else some ((s.hwModel m.deviceID).getD m.model) := by
  unfold ReportStore.hwModel
  rw [process_db]
  split
  · rfl
  · exact s.hwModel_upsertDevice m.parsed.upsertParams _

/-- The registry keeps the first model it was told. -/
theorem hwModel_receiveAll (rolloutMgr : Bool) (env : Nat → Nat → Reading) (s : ReportStore)
    {d : DeviceID} {messages : List StatusMessage} (h : ∀ m ∈ messages, m.deviceID = d) :
    (receiveAll rolloutMgr env s messages).hwModel d = keptModel env 0 (s.hwModel d) messages := by
  unfold receiveAll
  generalize 0 = k
  induction messages generalizing s k with
  | nil => rfl
  | cons m ms ih =>
      rw [List.zipIdx_cons, List.foldl_cons, keptModel]
      have hrest := ih (process rolloutMgr (env k) s m.received).1
        (fun m' hm' => h m' (List.mem_cons_of_mem m hm')) (k + 1)
      obtain rfl : m.deviceID = d := h m List.mem_cons_self
      rw [hrest, hwModel_process]

/-! ## Do the checks agree? -/

/-- The models under which both checks say the same of a request. -/
def SameVerdict (registered : Option String) (own : String) (req : CreateDeploymentRequest) : Prop :=
  match registered with
  | some model =>
      req.hwModel = "" ∨ req.hwModel = "all" ∨ (model = req.hwModel ↔ own = req.hwModel)
  | none => req.hwModel ≠ "" ∧ req.hwModel ≠ "all" ∧ own ≠ req.hwModel

/-- The target model is not empty. -/
theorem CreateDeploymentRequest.targetHw_ne_empty (req : CreateDeploymentRequest) :
    req.targetHw ≠ "" := by
  unfold targetHw
  split
  · decide
  · assumption

/-- A request without a model is for all. -/
theorem CreateDeploymentRequest.targetHw_eq_all {req : CreateDeploymentRequest} :
    req.targetHw = "all" ↔ req.hwModel = "" ∨ req.hwModel = "all" := by
  unfold targetHw
  by_cases h : req.hwModel = ""
  · simp [h]
  · simp [h]

/-- A target model is the one of the request. -/
theorem CreateDeploymentRequest.targetHw_of_ne {req : CreateDeploymentRequest}
    (h : req.targetHw ≠ "all") : req.targetHw = req.hwModel :=
  if_neg fun hempty => h (targetHw_eq_all.mpr (Or.inl hempty))

/-- What the control plane checks after status messages of a device. -/
theorem letsThrough_receiveAll (rolloutMgr : Bool) (env : Nat → Nat → Reading) (s : ReportStore)
    {d : DeviceID} {messages : List StatusMessage} (h : ∀ m ∈ messages, m.deviceID = d)
    (targetHw : String) : LetsThrough (receiveAll rolloutMgr env s messages).db targetHw d ↔
      ∃ model, keptModel env 0 (s.hwModel d) messages = some model ∧
        (targetHw = "all" ∨ model = targetHw) := by
  rw [letsThrough_iff, ← hwModel_receiveAll rolloutMgr env s h]
  simp [ReportStore.hwModel]

/-- What the agent checks of the command of a request. -/
theorem acceptsModel_parsed (p : Agent.Process) (req : CreateDeploymentRequest) (id : DeploymentID)
    {cmd : UpdateCommand} (h : cmd.hwModel = req.targetHw) :
    p.acceptsModel (System.Packet.parsed ⟨id, .update cmd⟩) ↔
      req.targetHw = "all" ∨ req.targetHw = p.hwModel := by
  have hmodel : (System.Packet.parsed ⟨id, .update cmd⟩).hwModel = req.targetHw := h
  have hnonempty : req.targetHw ≠ "" := req.targetHw_ne_empty
  rw [Agent.Process.acceptsModel_iff, hmodel, or_iff_right hnonempty]

/-- After any status messages of a device, the last of them from the agent {lit}`p`, a deployment
sends the model it has checked, and the two checks agree exactly if the request names no model, or
the first and the last message give the same answer to the model it names. -/
theorem hardware_checks_agree (rolloutMgr : Bool) (env : Nat → Nat → Reading) (s : ReportStore)
    (messages : List StatusMessage) (last : StatusMessage) (p : Agent.Process)
    (hfrom : ∀ m ∈ messages ++ [last], m.deviceID = p.deviceID) (hlast : last.hwModel = p.hwModel)
    (req : CreateDeploymentRequest) :
    Always AnyAnswer (CarriesModel req.targetHw) (createDeployment req) ∧
      ∀ id cmd, cmd.hwModel = req.targetHw →
        ((LetsThrough (receiveAll rolloutMgr env s (messages ++ [last])).db req.targetHw p.deviceID ↔
            p.acceptsModel (System.Packet.parsed ⟨id, .update cmd⟩)) ↔
          SameVerdict (keptModel env 0 (s.hwModel p.deviceID) (messages ++ [last])) last.hwModel
            req) := by
  refine ⟨createDeployment_model req, fun id cmd hcmd => ?_⟩
  rw [letsThrough_receiveAll rolloutMgr env s hfrom, acceptsModel_parsed p req id hcmd, hlast]
  by_cases hall : req.targetHw = "all"
  · have hnamed := CreateDeploymentRequest.targetHw_eq_all.mp hall
    cases keptModel env 0 (s.hwModel p.deviceID) (messages ++ [last]) with
    | none =>
        simp only [SameVerdict, hall, reduceCtorEq, false_and, exists_false, true_or, iff_true,
          false_iff]
        tauto
    | some model => simp [SameVerdict, hall, or_assoc.symm, hnamed]
  · have hnamed := mt CreateDeploymentRequest.targetHw_eq_all.mpr hall
    have htarget := CreateDeploymentRequest.targetHw_of_ne hall
    rw [htarget] at hall ⊢
    rw [not_or] at hnamed
    cases keptModel env 0 (s.hwModel p.deviceID) (messages ++ [last]) with
    | none => simp [SameVerdict, hall, hnamed.1, eq_comm]
    | some model => simp [SameVerdict, hall, hnamed.1, eq_comm]

/-! ## A robot that was replaced -/

/-- A status message of r1 from a robot of the model. -/
def statusFrom (hwModel : String) : StatusMessage where
  deviceID := "r1"
  factoryID := "factory-local"
  hwModel := hwModel
  version := "1.0.0"
  status := "online"
  fsmState := "online"
  timestamp := "2026-07-01T08:00:00Z"

/-- A robot of the model. -/
def robotOf (hwModel : String) : Agent.Process where
  deviceID := "r1"
  hwModel := hwModel
  ecdsaPubKey := none
  crypto := { sum256 := id, decodeBase64 := fun _ => none, verifyASN1 := fun _ _ _ => false }

/-- An empty registry. -/
def noDevices : ReportStore where
  db :=
    { firmware := Table.empty
      devices := Table.empty
      deployments := Table.empty
      deploymentDevices := [] }

/-- A robot keeps its model, and both checks let it through. -/
theorem hardware_checks_agree_scara :
    LetsThrough (receiveAll true (fun _ _ => {}) noDevices
        ([statusFrom "scara-v1"] ++ [statusFrom "scara-v1"])).db "scara-v1" "r1" ↔
      (robotOf "scara-v1").acceptsModel
        (System.Packet.parsed ⟨0, .update { version := "2.0.0", hwModel := "scara-v1" }⟩) :=
  ((hardware_checks_agree true (fun _ _ => {}) noDevices [statusFrom "scara-v1"]
    (statusFrom "scara-v1") (robotOf "scara-v1") (by decide) rfl
    { firmwareID := none, hwModel := "scara-v1" }).2 0
      { version := "2.0.0", hwModel := "scara-v1" } (by decide)).mpr (Or.inr (Or.inr Iff.rfl))

/-- A robot is replaced by one of another model under its id: the control plane sends it updates
for the old model, which it refuses. -/
theorem hardware_checks_differ :
    ¬ ∀ (rolloutMgr : Bool) (env : Nat → Nat → Reading) (s : ReportStore)
      (messages : List StatusMessage) (last : StatusMessage) (p : Agent.Process),
      (∀ m ∈ messages ++ [last], m.deviceID = p.deviceID) → last.hwModel = p.hwModel →
        ∀ (req : CreateDeploymentRequest) (id : DeploymentID) (cmd : UpdateCommand),
          cmd.hwModel = req.targetHw →
            (LetsThrough (receiveAll rolloutMgr env s (messages ++ [last])).db req.targetHw
                p.deviceID ↔
              p.acceptsModel (System.Packet.parsed ⟨id, .update cmd⟩)) := by
  intro h
  have hfrom : ∀ m ∈ [statusFrom "scara-v1"] ++ [statusFrom "delta-v2"],
      m.deviceID = (robotOf "delta-v2").deviceID := by
    decide
  have hagree := h true (fun _ _ => {}) noDevices [statusFrom "scara-v1"] (statusFrom "delta-v2")
    (robotOf "delta-v2") hfrom rfl { firmwareID := none, hwModel := "scara-v1" } 0
    { version := "2.0.0", hwModel := "scara-v1" } (by decide)
  rw [letsThrough_receiveAll true _ _ hfrom] at hagree
  have haccepts := hagree.mp ⟨"scara-v1", by decide, Or.inr (by decide)⟩
  exact absurd haccepts (by decide)

end OtaRobot
