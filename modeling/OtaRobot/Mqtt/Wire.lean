import OtaRobot.Mqtt.Status
import OtaRobot.Mqtt.Text
import OtaRobot.System

/-!
# The messages as texts

What the control plane and the agent put on the wire, and what the other side reads from it.
A command is a map of texts on one side and a structure with optional fields on the other; a
progress report carries members the control plane does not read.

Main results:

- Theorem {lit}`System.Packet.ofText_payload`: the agent reads the command that was published.
- Theorems {lit}`Agent.ProgressUpdate.ofText_progressPayload` and {lit}`Agent.ofText_errorPayload`: the
  control plane reads the report that was published.
- Theorem {lit}`StatusMessage.ofText_marshal`: the same for heartbeats.
-/

namespace OtaRobot

open Json

/-! ## Commands -/

/-- The {lit}`map[string]string` of a command; {lit}`reasonText` formats the reason of a
rollback. -/
def Command.members (reasonText : RollbackReason → String) : Command → List (String × Json)
  | .update cmd =>
      [("action", .string "update"), ("version", .string cmd.version),
        ("hw_model", .string cmd.hwModel), ("download_url", .string cmd.downloadURL),
        ("sha256_checksum", .string cmd.sha256Checksum), ("signature", .string cmd.signature)]
  | .rollback version reason =>
      [("action", .string "rollback"), ("version", .string version),
        ("reason", .string (reasonText reason))]

/-- The payload of {lit}`PublishCommand`. -/
def Command.payload (reasonText : RollbackReason → String) (cmd : Command) : JsonText.Text :=
  (marshalMap (cmd.members reasonText)).text

namespace Json

/-- The value of a JSON Boolean. -/
def asBool : Json → Option Bool
  | .bool b => some b
  | _ => none

/-- {lit}`int` of a 64-bit platform. -/
def asInt : Json → Option Int
  | .int n => if -9223372036854775808 ≤ n ∧ n ≤ 9223372036854775807 then some n else none
  | _ => none

end Json

/-- {lit}`json.Unmarshal` into a {lit}`Command`. -/
def Agent.Command.unmarshal (j : Json) : Option Agent.Command := do
  let members ← j.structMembers
  let action ← stringField "action" members
  let version ← stringField "version" members
  let hwModel ← stringField "hw_model" members
  let downloadURL ← stringField "download_url" members
  let sha256Checksum ← stringField "sha256_checksum" members
  let signature ← stringField "signature" members
  let activity ← stringField "activity" members
  let batteryLevel ← decodePointer asInt none (valuesOf "battery_level" members)
  let isCharging ← decodePointer asBool none (valuesOf "is_charging" members)
  return { action, version, hwModel, downloadURL, sha256Checksum, signature, activity,
           batteryLevel, isCharging }

/-- The command the agent reads from a payload. -/
def Agent.Command.ofText (payload : JsonText.Text) : Option Agent.Command :=
  (Json.ofText payload).bind Agent.Command.unmarshal

/-! ## Reports -/

/-- The map of {lit}`publishProgressWithMeta`. -/
def Agent.ProgressUpdate.members (deviceID : DeviceID) (update : Agent.ProgressUpdate) :
    List (String × Json) :=
  [("device_id", .string deviceID), ("progress", .int update.progress),
    ("status", .string update.status)] ++
  (update.ecdsaVerifyMs.map fun ms => ("ecdsa_verify_ms", Json.int ms)).toList ++
  (update.sha256VerifyMs.map fun ms => ("sha256_verify_ms", Json.int ms)).toList ++
  [("fsm_state", .string update.fsmState.text)]

/-- The text of a progress report. -/
def Agent.ProgressUpdate.payload (deviceID : DeviceID) (update : Agent.ProgressUpdate) :
    JsonText.Text :=
  (marshalMap (update.members deviceID)).text

/-- The map of {lit}`publishError`. -/
def Agent.errorMembers (deviceID : DeviceID) (errMsg : String) : List (String × Json) :=
  [("device_id", .string deviceID), ("error", .string errMsg)]

/-- The text of an error report. -/
def Agent.errorPayload (deviceID : DeviceID) (errMsg : String) : JsonText.Text :=
  (marshalMap (Agent.errorMembers deviceID errMsg)).text

/-- The report the control plane reads from a payload. -/
def ProgressPayload.ofText (payload : JsonText.Text) : Option ProgressPayload :=
  (Json.ofText payload).bind ProgressPayload.unmarshal

/-- The error report the control plane reads from a payload. -/
def ErrorPayload.ofText (payload : JsonText.Text) : Option ErrorPayload :=
  (Json.ofText payload).bind ErrorPayload.unmarshal

/-- The status message the control plane reads from a payload. -/
def StatusPayload.ofText (payload : JsonText.Text) : Option StatusPayload :=
  (Json.ofText payload).bind StatusPayload.unmarshal

/-! ## What was written is what is read -/

/-- The keys of the maps, and of the structures they are read into. -/
def wireKeys : List String :=
  ["action", "version", "hw_model", "download_url", "sha256_checksum", "signature", "activity",
    "battery_level", "is_charging", "reason", "device_id", "progress", "status", "fsm_state",
    "ecdsa_verify_ms", "sha256_verify_ms", "error"]

/-- No key of a message matches another one. -/
theorem matchesKey_wireKeys : ∀ name ∈ wireKeys, ∀ key ∈ wireKeys,
    matchesKey name key = decide (name = key) := by
  decide +kernel

/-- The values that stand under the key itself. -/
def entriesOf (key : String) (m : List (String × Json)) : List Json :=
  (m.filter fun e => e.1 = key).map Prod.snd

/-- A map the keys of which are known, each of them there once. -/
structure WireMap (m : List (String × Json)) : Prop where
  keys : ∀ e ∈ m, e.1 ∈ wireKeys
  written : ∀ e ∈ m, Written 9999 e.2

/-- A key of the wire is matched by itself only. -/
theorem WireMap.valuesOf_eq {m : List (String × Json)} (h : WireMap m) {key : String}
    (hkey : key ∈ wireKeys) : valuesOf key m = entriesOf key m := by
  unfold valuesOf entriesOf
  congr 1
  apply List.filter_congr
  intro e he
  exact matchesKey_wireKeys e.1 (h.keys e he) key hkey

/-- A key that is there once is read as its value. -/
theorem WireMap.valuesOf_sorted {m : List (String × Json)} (h : WireMap m) (key : String)
    (js : List Json) (hkey : key ∈ wireKeys) (hentries : entriesOf key m = js)
    (hlength : js.length ≤ 1) :
    valuesOf key (m.insertionSort fun a b => a.1 ≤ b.1) = js := by
  have hvalues : valuesOf key m = js := (h.valuesOf_eq hkey).trans hentries
  rw [valuesOf_insertionSort (by rw [hvalues]; exact hlength), hvalues]

/-- A text that was written is read under its key. -/
theorem WireMap.stringField_sorted {m : List (String × Json)} (h : WireMap m) (key s : String)
    (hkey : key ∈ wireKeys) (hentries : entriesOf key m = [.string s]) :
    stringField key (m.insertionSort fun a b => a.1 ≤ b.1) = some s := by
  rw [stringField, h.valuesOf_sorted key _ hkey hentries (by simp)]
  rfl

/-- A text field of a map without its key. -/
theorem WireMap.stringField_sorted_nil {m : List (String × Json)} (h : WireMap m) (key : String)
    (hkey : key ∈ wireKeys) (hentries : entriesOf key m = []) :
    stringField key (m.insertionSort fun a b => a.1 ≤ b.1) = some "" := by
  rw [stringField, h.valuesOf_sorted key _ hkey hentries (by simp)]
  rfl

/-- The text of a map is parsed as the map. -/
theorem WireMap.ofText {m : List (String × Json)} (h : WireMap m) :
    Json.ofText (marshalMap m).text = some (marshalMap m) :=
  ofText_text (written_marshalMap h.written)

/-- The keys of a command are keys of the wire, each once. -/
theorem Command.wireMap (reasonText : RollbackReason → String) (cmd : Command) :
    WireMap (cmd.members reasonText) := by
  cases cmd with
  | update cmd =>
      constructor
      · simp [Command.members, wireKeys]
      · simp [Command.members, Written.string]
  | rollback version reason =>
      constructor
      · simp [Command.members, wireKeys]
      · simp [Command.members, Written.string]

/-- The keys of a progress report are keys of the wire, each once. -/
theorem Agent.ProgressUpdate.wireMap (deviceID : DeviceID) (update : Agent.ProgressUpdate) :
    WireMap (update.members deviceID) := by
  obtain ⟨progress, status, fsmState, ecdsaVerifyMs, sha256VerifyMs⟩ := update
  constructor
  · cases ecdsaVerifyMs <;> cases sha256VerifyMs <;>
      simp [Agent.ProgressUpdate.members, wireKeys]
  · cases ecdsaVerifyMs <;> cases sha256VerifyMs <;>
      simp [Agent.ProgressUpdate.members, Written.string, Written.int]

/-- The keys of an error report are keys of the wire, each once. -/
theorem Agent.wireMap_error (deviceID : DeviceID) (errMsg : String) :
    WireMap (Agent.errorMembers deviceID errMsg) := by
  constructor
  · simp [Agent.errorMembers, wireKeys]
  · simp [Agent.errorMembers, Written.string]

/-- The agent reads the command that was published. -/
theorem System.Packet.ofText_payload (reasonText : RollbackReason → String) (packet : Packet) :
    Agent.Command.ofText (packet.cmd.payload reasonText) = some packet.parsed := by
  have hmap := packet.cmd.wireMap reasonText
  rw [Agent.Command.ofText, Command.payload, hmap.ofText, Option.bind_some,
    Agent.Command.unmarshal, structMembers_marshalMap]
  cases h : packet.cmd with
  | update cmd =>
      rw [h] at hmap
      have haction := hmap.stringField_sorted "action" "update" (by simp [wireKeys])
        (by simp [entriesOf, Command.members])
      have hversion := hmap.stringField_sorted "version" cmd.version
        (by simp [wireKeys]) (by simp [entriesOf, Command.members])
      have hmodel := hmap.stringField_sorted "hw_model" cmd.hwModel
        (by simp [wireKeys]) (by simp [entriesOf, Command.members])
      have hurl := hmap.stringField_sorted "download_url" cmd.downloadURL
        (by simp [wireKeys]) (by simp [entriesOf, Command.members])
      have hchecksum := hmap.stringField_sorted "sha256_checksum" cmd.sha256Checksum
        (by simp [wireKeys]) (by simp [entriesOf, Command.members])
      have hsignature := hmap.stringField_sorted "signature" cmd.signature
        (by simp [wireKeys]) (by simp [entriesOf, Command.members])
      have hactivity := hmap.stringField_sorted_nil "activity"
        (by simp [wireKeys]) (by simp [entriesOf, Command.members])
      have hbattery := hmap.valuesOf_sorted "battery_level" []
        (by simp [wireKeys]) (by simp [entriesOf, Command.members]) (by simp)
      have hcharging := hmap.valuesOf_sorted "is_charging" []
        (by simp [wireKeys]) (by simp [entriesOf, Command.members]) (by simp)
      simp [haction, hversion, hmodel, hurl, hchecksum, hsignature, hactivity, hbattery, hcharging,
        decodePointer, Packet.parsed, h]
  | rollback version reason =>
      rw [h] at hmap
      have haction := hmap.stringField_sorted "action" "rollback"
        (by simp [wireKeys]) (by simp [entriesOf, Command.members])
      have hversion := hmap.stringField_sorted "version" version
        (by simp [wireKeys]) (by simp [entriesOf, Command.members])
      have hmodel := hmap.stringField_sorted_nil "hw_model"
        (by simp [wireKeys]) (by simp [entriesOf, Command.members])
      have hurl := hmap.stringField_sorted_nil "download_url"
        (by simp [wireKeys]) (by simp [entriesOf, Command.members])
      have hchecksum := hmap.stringField_sorted_nil "sha256_checksum"
        (by simp [wireKeys]) (by simp [entriesOf, Command.members])
      have hsignature := hmap.stringField_sorted_nil "signature"
        (by simp [wireKeys]) (by simp [entriesOf, Command.members])
      have hactivity := hmap.stringField_sorted_nil "activity"
        (by simp [wireKeys]) (by simp [entriesOf, Command.members])
      have hbattery := hmap.valuesOf_sorted "battery_level" []
        (by simp [wireKeys]) (by simp [entriesOf, Command.members]) (by simp)
      have hcharging := hmap.valuesOf_sorted "is_charging" []
        (by simp [wireKeys]) (by simp [entriesOf, Command.members]) (by simp)
      simp [haction, hversion, hmodel, hurl, hchecksum, hsignature, hactivity, hbattery, hcharging,
        decodePointer, Packet.parsed, h]

/-- What the control plane looks for stands before the members it does not read. -/
theorem Agent.ProgressUpdate.entriesOf_members (deviceID : DeviceID)
    (update : Agent.ProgressUpdate) {key : String}
    (hkey : key ∈ ["device_id", "progress", "status"]) :
    entriesOf key (update.members deviceID) =
      entriesOf key [("device_id", .string deviceID), ("progress", .int update.progress),
        ("status", .string update.status)] := by
  have hother : ∀ key' ∈ ["ecdsa_verify_ms", "sha256_verify_ms", "fsm_state"], key' ≠ key := by
    intro key' hkey' heq
    subst heq
    simp only [List.mem_cons, List.not_mem_nil, or_false] at hkey'
    rcases hkey' with rfl | rfl | rfl <;> simp at hkey
  have hecdsa := hother "ecdsa_verify_ms" (by simp)
  have hsha := hother "sha256_verify_ms" (by simp)
  have hfsm := hother "fsm_state" (by simp)
  unfold entriesOf Agent.ProgressUpdate.members
  rw [List.filter_append, List.filter_append, List.filter_append]
  cases update.ecdsaVerifyMs <;> cases update.sha256VerifyMs <;> simp [hecdsa, hsha, hfsm]

/-- The control plane reads the progress that was published; the timing and the state of the
state machine are not read. -/
theorem Agent.ProgressUpdate.ofText_progressPayload (deviceID : DeviceID) (update : Agent.ProgressUpdate)
    (h : update.progress ≤ 2147483647) :
    (ProgressPayload.ofText (update.payload deviceID)).map ProgressPayload.event =
      some { deviceID, status := update.status, progress := update.progress } := by
  have hmap := update.wireMap deviceID
  have hdevice := hmap.stringField_sorted "device_id" deviceID
    (by simp [wireKeys]) (by rw [update.entriesOf_members deviceID (by simp)]; simp [entriesOf])
  have hstatus := hmap.stringField_sorted "status" update.status
    (by simp [wireKeys]) (by rw [update.entriesOf_members deviceID (by simp)]; simp [entriesOf])
  have hprogress := hmap.valuesOf_sorted "progress" [.int update.progress]
    (by simp [wireKeys]) (by rw [update.entriesOf_members deviceID (by simp)]; simp [entriesOf])
    (by simp)
  have hint32 : asInt32 (.int update.progress) = some (update.progress : Int) := by
    rw [asInt32, if_pos ⟨by omega, by omega⟩]
  rw [ProgressPayload.ofText, Agent.ProgressUpdate.payload, hmap.ofText, Option.bind_some,
    ProgressPayload.unmarshal, structMembers_marshalMap]
  simp [hdevice, hstatus, hprogress, decodeField, isNull, hint32, ProgressPayload.event]

/-- The last report of an update. -/
theorem Agent.ProgressUpdate.ofText_progressPayload_success :
    (ProgressPayload.ofText (Agent.ProgressUpdate.payload "r1" ⟨100, "success", .online, none,
      none⟩)).map ProgressPayload.event =
        some { deviceID := "r1", status := "success", progress := 100 } :=
  Agent.ProgressUpdate.ofText_progressPayload "r1" ⟨100, "success", .online, none, none⟩
    (by decide)

/-- The control plane reads the error that was published. -/
theorem Agent.ofText_errorPayload (deviceID : DeviceID) (errMsg : String) :
    (ErrorPayload.ofText (Agent.errorPayload deviceID errMsg)).map ErrorPayload.event =
      some { deviceID, error := errMsg } := by
  have hmap := Agent.wireMap_error deviceID errMsg
  have hdevice := hmap.stringField_sorted "device_id" deviceID
    (by simp [wireKeys]) (by simp [entriesOf, Agent.errorMembers])
  have herror := hmap.stringField_sorted "error" errMsg
    (by simp [wireKeys]) (by simp [entriesOf, Agent.errorMembers])
  rw [ErrorPayload.ofText, Agent.errorPayload, hmap.ofText, Option.bind_some,
    ErrorPayload.unmarshal, structMembers_marshalMap]
  simp [hdevice, herror, ErrorPayload.event]

/-- A heartbeat nests two deep. -/
theorem StatusMessage.written_marshal (m : StatusMessage) : Written 10000 m.marshal := by
  apply Written.object
  intro e he
  rcases List.mem_append.mp he with htext | htelemetry
  · simp only [StatusMessage.texts, List.mem_cons, List.not_mem_nil, or_false] at htext
    rcases htext with rfl | rfl | rfl | rfl | rfl | rfl | rfl <;> exact Written.string _ _
  · obtain ⟨t, -, rfl⟩ : ∃ t, m.telemetry = some t ∧
        ("telemetry", StatusMessage.telemetryJson t) = e := by
      simpa using htelemetry
    obtain ⟨level, charging, rssi, bandwidth, mode, activity⟩ := t
    apply Written.object
    cases level <;> cases charging <;> simp [Written.string, Written.int, Written.bool]

/-- The control plane reads the heartbeat, and the last message of a robot. -/
theorem StatusMessage.ofText_marshal (m : StatusMessage) :
    StatusPayload.ofText m.marshal.text = some m.parsed := by
  rw [StatusPayload.ofText, Json.ofText_text m.written_marshal, Option.bind_some,
    m.unmarshal_marshal]

end OtaRobot
