import OtaRobot.Agent.Handlers
import OtaRobot.Mqtt.Client

/-!
# Status messages

What a robot publishes on its status topic, and what {lit}`handleStatus` leaves in the registry.
The heartbeat, the message of a graceful shutdown and the will the broker keeps for the robot
have the same fields; the last two are built by the same code at different times.

Main results:

- Theorem {lit}`StatusMessage.unmarshal_marshal`: {lit}`handleStatus` parses what the robot wrote.
- Theorem {lit}`registry_after`: the last message decides the version in the registry.
-/

namespace OtaRobot

open Prog

/-- {lit}`StatusUpdate` of {lit}`simulator/main.go`. -/
structure StatusMessage where
  deviceID : DeviceID
  factoryID : String
  hwModel : String
  version : String
  status : String
  fsmState : String
  timestamp : String
  telemetry : Option Agent.TelemetryData := none
deriving DecidableEq, Repr

namespace Agent

/-- The message a heartbeat sends. -/
def StatusUpdate.message (deviceID : DeviceID) (update : StatusUpdate) : StatusMessage where
  deviceID := deviceID
  factoryID := update.factoryID
  hwModel := update.hwModel
  version := update.version
  status := update.status
  fsmState := update.fsmState.text
  timestamp := update.timestamp
  telemetry := some update.telemetry

/-- The message that takes the robot offline. -/
def Process.offlineUpdate (p : Process) (currentVersion timestamp : String) : StatusMessage where
  deviceID := p.deviceID
  factoryID := p.factoryID
  hwModel := p.hwModel
  version := currentVersion
  status := "offline"
  fsmState := "offline"
  timestamp := timestamp

end Agent

namespace StatusMessage

/-- The fields in their order; an absent battery is left out. -/
def telemetryJson (t : Agent.TelemetryData) : Json :=
  .object ((t.batteryLevel.map fun level => ("battery_level", .int level)).toList ++
    (t.isCharging.map fun charging => ("is_charging", .bool charging)).toList ++
    [("network_rssi", .int t.networkRSSI), ("network_bandwidth", .string t.networkBandwidth),
      ("power_mode", .string t.powerMode), ("activity", .string t.activity)])

/-- The text fields. -/
def texts (m : StatusMessage) : List (String × Json) :=
  [("device_id", .string m.deviceID), ("factory_id", .string m.factoryID),
    ("hw_model", .string m.hwModel), ("version", .string m.version),
    ("status", .string m.status), ("fsm_state", .string m.fsmState),
    ("timestamp", .string m.timestamp)]

/-- The members in the order of the fields; an absent telemetry is left out. -/
def members (m : StatusMessage) : List (String × Json) :=
  m.texts ++ (m.telemetry.map fun t => ("telemetry", telemetryJson t)).toList

/-- {lit}`json.Marshal`. -/
def marshal (m : StatusMessage) : Json :=
  .object m.members

/-- The message as the backend receives it. -/
def received (m : StatusMessage) : Message where
  topicDevice := m.deviceID
  channel := .status
  payload := some m.marshal

/-- The structure the backend parses the message into. -/
def parsed (m : StatusMessage) : StatusPayload where
  deviceID := m.deviceID
  factoryID := m.factoryID
  hwModel := m.hwModel
  version := m.version
  status := m.status
  fsmState := m.fsmState
  telemetry := m.telemetry.map telemetryJson

/-- The keys of the message. -/
def keys : List String :=
  ["device_id", "factory_id", "hw_model", "version", "status", "fsm_state", "timestamp",
    "telemetry"]

/-- No key of the message matches another one. -/
theorem matchesKey_keys : ∀ name ∈ keys, ∀ key ∈ keys,
    Json.matchesKey name key = decide (name = key) := by
  decide +kernel

/-- A member of the message has one of the keys. -/
theorem name_mem_keys {m : StatusMessage} {entry : String × Json} (h : entry ∈ m.members) :
    entry.1 ∈ keys := by
  rcases List.mem_append.mp h with hfixed | htelemetry
  · simp only [texts, List.mem_cons, List.not_mem_nil, or_false] at hfixed
    rcases hfixed with rfl | rfl | rfl | rfl | rfl | rfl | rfl <;> simp [keys]
  · obtain ⟨t, -, rfl⟩ : ∃ t, m.telemetry = some t ∧ ("telemetry", telemetryJson t) = entry := by
      simpa using htelemetry
    simp [keys]

/-- A key of the message is matched by itself only. -/
theorem valuesOf_members (m : StatusMessage) {key : String} (hkey : key ∈ keys) :
    Json.valuesOf key m.members = (m.members.filter fun entry => entry.1 = key).map Prod.snd := by
  unfold Json.valuesOf
  congr 1
  apply List.filter_congr
  intro entry hentry
  exact matchesKey_keys entry.1 (name_mem_keys hentry) key hkey

/-- A text field holds the one text written to it. -/
theorem stringField_members (m : StatusMessage) {key text : String} (hkey : key ∈ keys)
    (hne : key ≠ "telemetry")
    (h : (m.texts.filter fun entry => entry.1 = key) = [(key, .string text)]) :
    stringField key m.members = some text := by
  have hrest : ((m.telemetry.map fun t => ("telemetry", telemetryJson t)).toList.filter
      fun entry => entry.1 = key) = [] := by
    cases m.telemetry with
    | none => rfl
    | some t => simp [Ne.symm hne]
  unfold stringField
  rw [valuesOf_members m hkey, members, List.filter_append, h, hrest]
  rfl

/-- {lit}`handleStatus` reads the fields the robot wrote. -/
theorem unmarshal_marshal (m : StatusMessage) : StatusPayload.unmarshal m.marshal = some m.parsed := by
  have hdevice : stringField "device_id" m.members = some m.deviceID :=
    m.stringField_members (by simp [keys]) (by simp) (by simp [texts])
  have hfactory : stringField "factory_id" m.members = some m.factoryID :=
    m.stringField_members (by simp [keys]) (by simp) (by simp [texts])
  have hmodel : stringField "hw_model" m.members = some m.hwModel :=
    m.stringField_members (by simp [keys]) (by simp) (by simp [texts])
  have hversion : stringField "version" m.members = some m.version :=
    m.stringField_members (by simp [keys]) (by simp) (by simp [texts])
  have hstatus : stringField "status" m.members = some m.status :=
    m.stringField_members (by simp [keys]) (by simp) (by simp [texts])
  have hfsm : stringField "fsm_state" m.members = some m.fsmState :=
    m.stringField_members (by simp [keys]) (by simp) (by simp [texts])
  have htelemetry : (Json.valuesOf "telemetry" m.members).getLast? =
      m.telemetry.map telemetryJson := by
    rw [valuesOf_members m (by simp [keys])]
    cases h : m.telemetry with
    | none => simp [members, texts, h]
    | some t => simp [members, texts, h]
  have hobject : m.marshal.structMembers = some m.members := rfl
  simp [StatusPayload.unmarshal, hobject, hdevice, hfactory, hmodel, hversion, hstatus, hfsm,
    htelemetry, parsed]

end StatusMessage

/-! ## The registry -/

namespace ReportStore

/-- The version of a device in the registry. -/
def currentVersion (s : ReportStore) (id : DeviceID) : Option String :=
  (s.db.device id).map Device.currentVersion

/-- The upsert trusts the message. -/
theorem currentVersion_upsertDevice (s : ReportStore) (p : UpsertDeviceParams) (now : Nat) :
    (s.upsertDevice p now).currentVersion p.id = some p.currentVersion := by
  unfold upsertDevice
  cases hinsert : s.db.devices.insert p.row with
  | some devices =>
      have hfind := Table.find?_insert hinsert p.id
      have hrow : devices.find? p.id = some p.row := by
        rw [hfind]
        exact if_pos rfl
      simp [currentVersion, setColumns, Db.device, hrow, UpsertDeviceParams.row]
  | none =>
      obtain ⟨d, hd⟩ : ∃ d, s.db.devices.find? p.id = some d := by
        apply Option.ne_none_iff_exists'.mp
        intro hnone
        obtain ⟨devices, hsome⟩ := Table.insert_eq_some (r := p.row) hnone
        rw [hinsert] at hsome
        cases hsome
      simp [currentVersion, setColumns, Db.device, hd]

end ReportStore

/-- The telemetry is stored in a column of its own. -/
theorem run_storeMetadata_db (p : StatusPayload) (env : Nat → Reading)
    (s : ReportStore × CallbackLog) : ((storeMetadata p).run (execRead env) s).2.1.db = s.1.db := by
  unfold storeMetadata
  split
  · show (if (env s.2.length).fault then s.1 else s.1.setMetadata _ p.deviceID).db = s.1.db
    split <;> rfl
  · rfl

/-- The database after a status message is the one after its upsert. -/
theorem process_db (rolloutMgr : Bool) (env : Nat → Reading) (s : ReportStore)
    (m : StatusMessage) : (process rolloutMgr env s m.received).1.db =
      (if (env 0).fault then s else s.upsertDevice m.parsed.upsertParams (env 0).now).db := by
  have hpayload : m.received.payload.bind StatusPayload.unmarshal = some m.parsed :=
    m.unmarshal_marshal
  have hrun : process rolloutMgr env s m.received =
      ((storeMetadata m.parsed).run (execRead env)
        (execRead env (s, []) (.upsertDevice m.parsed.upsertParams)).2).2 := by
    have hhandler : m.received.handler rolloutMgr = handleStatus m.received.payload := rfl
    unfold process
    rw [hhandler, handleStatus, hpayload]
    rfl
  rw [hrun, run_storeMetadata_db]
  rfl

/-- A status message whose upsert does not fail decides the version of its robot. -/
theorem currentVersion_process (rolloutMgr : Bool) {env : Nat → Reading} (s : ReportStore)
    (m : StatusMessage) (h : (env 0).fault = false) :
    (process rolloutMgr env s m.received).1.currentVersion m.deviceID = some m.version := by
  unfold ReportStore.currentVersion
  rw [process_db, h]
  exact s.currentVersion_upsertDevice m.parsed.upsertParams _

/-- The backend processes status messages in order; the environment has readings for each. -/
def receiveAll (rolloutMgr : Bool) (env : Nat → Nat → Reading) (s : ReportStore)
    (messages : List StatusMessage) : ReportStore :=
  messages.zipIdx.foldl (fun s m => (process rolloutMgr (env m.2) s m.1.received).1) s

/-- The last message decides the version in the registry. -/
theorem registry_after (rolloutMgr : Bool) {env : Nat → Nat → Reading} (s : ReportStore)
    (messages : List StatusMessage) (m : StatusMessage)
    (h : (env messages.length 0).fault = false) :
    (receiveAll rolloutMgr env s (messages ++ [m])).currentVersion m.deviceID =
      some m.version := by
  unfold receiveAll
  rw [List.zipIdx_append, List.foldl_append]
  simp only [List.zipIdx_singleton, List.foldl_cons, List.foldl_nil, Nat.zero_add]
  exact currentVersion_process rolloutMgr _ m h

end OtaRobot
