import OtaRobot.Agent.StateMachine
import OtaRobot.Database
import OtaRobot.Library.FloatScan
import OtaRobot.Library.Pool

/-!
# The robot agent

The goroutines of {lit}`simulator/main.go`: a received command runs in a goroutine of
its own, next to the heartbeat.  One {lit}`Trigger` call, one access to a package
variable and one publish are atomic; {lit}`time.Sleep` is a point at which any other
goroutine may run, as is every other point.

What does not change while the process runs is a {lit}`Process`: the identity of the
robot, its public key, its environment variables and the cryptographic library.

Current gaps:

- An iteration of the heartbeat loop is a procedure, started at any time.
- A random number of {lit}`rand.Float32` is any rational number from zero up to one.
-/

namespace OtaRobot.Agent

/-! ## The process -/

/-- The bytes of a file, a digest or a signature. -/
abbrev Bytes := List UInt8

/-- A point of the curve P-256. -/
structure PublicKey where
  x : Nat
  y : Nat
deriving DecidableEq, Repr

/-- The library functions the agent calls: {lit}`sha256.Sum256`, the decoder of
{lit}`base64.StdEncoding` and {lit}`ecdsa.VerifyASN1`. -/
structure Crypto where
  sum256 : Bytes → Bytes
  decodeBase64 : String → Option Bytes
  verifyASN1 : PublicKey → Bytes → Bytes → Bool

/-- What a process of the agent knows from its start on: its names, the public key it has loaded,
its environment and its libraries. -/
structure Process where
  deviceID : DeviceID
  factoryID : String := "factory-local"
  hwModel : String := "sim-v1"
  ecdsaPubKey : Option PublicKey
  getenv : String → String := fun _ => ""
  crypto : Crypto

/-- One digit of {lit}`%x`. -/
def hexDigit (n : Nat) : Char :=
  if n < 10 then Char.ofNat ('0'.toNat + n) else Char.ofNat ('a'.toNat + (n - 10))

/-- {lit}`fmt.Sprintf("%x", data)`. -/
def hexEncode (data : Bytes) : String :=
  String.ofList (data.flatMap fun b => [hexDigit (b.toNat / 16), hexDigit (b.toNat % 16)])

/-- Two digits make a byte; an odd rest or another character is an error. -/
def hexDecodeChars : List Char → Option Bytes
  | [] => some []
  | [_] => none
  | hi :: lo :: cs => do
      let hi ← Hex.value hi
      let lo ← Hex.value lo
      let data ← hexDecodeChars cs
      return UInt8.ofNat (hi * 16 + lo) :: data

/-- {lit}`hex.DecodeString`. -/
def hexDecode (s : String) : Option Bytes :=
  hexDecodeChars s.toList

/-- A digit reads back as its value. -/
theorem value_hexDigit : ∀ n < 16, Hex.value (hexDigit n) = some n := by
  decide

/-- The digits of the bytes are decoded to the bytes. -/
theorem hexDecodeChars_flatMap (data : Bytes) :
    hexDecodeChars (data.flatMap fun b => [hexDigit (b.toNat / 16), hexDigit (b.toNat % 16)]) =
      some data := by
  induction data with
  | nil => rfl
  | cons b data ih =>
      have hbyte : b.toNat < 256 := b.toNat_lt
      have hhigh := value_hexDigit (b.toNat / 16) (by omega)
      have hlow := value_hexDigit (b.toNat % 16) (by omega)
      have hhalves : b.toNat / 16 * 16 + b.toNat % 16 = b.toNat := by omega
      simp only [List.flatMap_cons, List.cons_append, List.nil_append, hexDecodeChars, hhigh, hlow,
        ih]
      show some (UInt8.ofNat (b.toNat / 16 * 16 + b.toNat % 16) :: data) = some (b :: data)
      rw [hhalves, UInt8.ofNat_toNat]

/-- A text written in hexadecimal digits reads back as the bytes. -/
theorem hexDecode_hexEncode (data : Bytes) : hexDecode (hexEncode data) = some data := by
  rw [hexDecode, hexEncode, String.toList_ofList]
  exact hexDecodeChars_flatMap data

/-- {lit}`verifyECDSASignature`: a text that does not decode is no valid signature. -/
def verifyECDSASignature (crypto : Crypto) (pub : PublicKey) (sha256Hex signatureB64 : String) :
    Bool :=
  match hexDecode sha256Hex with
  | none => false
  | some hashBytes =>
      match crypto.decodeBase64 signatureB64 with
      | none => false
      | some sigBytes => crypto.verifyASN1 pub hashBytes sigBytes

/-! ## Messages and operations -/

/-- A message on the robot's command topic. -/
structure Command where
  action : String
  version : String := ""
  hwModel : String := ""
  downloadURL : String := ""
  sha256Checksum : String := ""
  signature : String := ""
  activity : String := ""
  batteryLevel : Option Int := none
  isCharging : Option Bool := none
deriving DecidableEq, Repr

/-- A progress report.  The robot adds its {lit}`device_id`. -/
structure ProgressUpdate where
  progress : Nat
  status : String
  fsmState : State
  ecdsaVerifyMs : Option Nat := none
  sha256VerifyMs : Option Nat := none
deriving DecidableEq, Repr

/-- The telemetry of a heartbeat; only an AGV has a battery. -/
structure TelemetryData where
  batteryLevel : Option Int := none
  isCharging : Option Bool := none
  networkRSSI : Int
  networkBandwidth : String
  powerMode : String
  activity : String
deriving DecidableEq, Repr

/-- A heartbeat.  The robot adds its {lit}`device_id`. -/
structure StatusUpdate where
  factoryID : String
  hwModel : String
  version : String
  status : String
  fsmState : State
  timestamp : String
  telemetry : TelemetryData
deriving DecidableEq, Repr

/-- The answer to the download; {lean}`none` is a body that cannot be read. -/
structure Response where
  statusCode : Nat
  body : Option Bytes
deriving DecidableEq, Repr

/-- One interaction of a goroutine with the rest of the agent and its environment. -/
inductive Op where
  | trigger (event : Event)
  | getState
  | readActivity
  | readIsAGV
  | readBattery
  | readCharging
  | readVersion
  | readStatus
  | httpGet (url : String)
  | elapsedMs
  | now
  | randIntn (n : Nat)
  | randFloat32
  | setActivity (activity : String)
  | setBattery (level : Int)
  | setCharging (charging : Bool)
  | setStatus (status : String)
  | setCurrentVersion (version : String)
  | publishProgress (update : ProgressUpdate)
  | publishError (text : String)
  | publishStatus (update : StatusUpdate)
deriving DecidableEq, Repr

/-- Answers: {lean}`none` is an error of {lit}`http.Get`; {lit}`now` is the time as
{lit}`time.RFC3339` writes it. -/
def Op.Ret : Op → Type
  | .trigger _ => Except String Change
  | .getState => State
  | .readIsAGV | .readCharging => Bool
  | .readBattery => Int
  | .readActivity | .readVersion | .readStatus => String
  | .httpGet _ => Option Response
  | .elapsedMs | .randIntn _ => Nat
  | .now => String
  | .randFloat32 => ℚ
  | _ => Unit

/-- A goroutine of the agent, as a program over its operations. -/
abbrev Handler := Prog Op.Ret

/-- {lit}`agent.Trigger` on the state machine. -/
def trigger (event : Event) : Handler (Except String Change) :=
  Prog.perform (Op.trigger event)

/-- {lit}`agent.GetState`. -/
def getState : Handler State :=
  Prog.perform Op.getState

/-- Reads {lit}`robotActivity`. -/
def readActivity : Handler String :=
  Prog.perform Op.readActivity

/-- Reads {lit}`isAGV`. -/
def readIsAGV : Handler Bool :=
  Prog.perform Op.readIsAGV

/-- Reads {lit}`currentBattery`. -/
def readBattery : Handler Int :=
  Prog.perform Op.readBattery

/-- Reads {lit}`isCharging`. -/
def readCharging : Handler Bool :=
  Prog.perform Op.readCharging

/-- A timing measured with {lit}`time.Since`. -/
def elapsedMs : Handler Nat :=
  Prog.perform Op.elapsedMs

/-- Writes {lit}`robotActivity`. -/
def setActivity (activity : String) : Handler Unit :=
  Prog.perform (Op.setActivity activity)

/-- Writes {lit}`currentBattery`. -/
def setBattery (level : Int) : Handler Unit :=
  Prog.perform (Op.setBattery level)

/-- Writes {lit}`isCharging`. -/
def setCharging (charging : Bool) : Handler Unit :=
  Prog.perform (Op.setCharging charging)

/-- Writes {lit}`status`. -/
def setStatus (status : String) : Handler Unit :=
  Prog.perform (Op.setStatus status)

/-- Writes {lit}`currentVersion`. -/
def setCurrentVersion (version : String) : Handler Unit :=
  Prog.perform (Op.setCurrentVersion version)

/-- {lit}`publishError`. -/
def publishError (text : String) : Handler Unit :=
  Prog.perform (Op.publishError text)

/-- {lit}`publishProgressWithMeta`; every caller reports the state it reads before. -/
def publishProgressWithMeta (progress : Nat) (status : String)
    (ecdsaVerifyMs sha256VerifyMs : Option Nat := none) : Handler Unit := do
  let fsmState ← getState
  Prog.perform (Op.publishProgress { progress, status, fsmState, ecdsaVerifyMs, sha256VerifyMs })

/-! ## Updates -/

/-- The failure branches before the installation: leave the update with
{lit}`event`, report the text, recover. -/
def abortUpdate (event : Event) (text : Handler String) : Handler Unit := do
  let _ ← trigger event
  let text ← text
  publishError text
  let _ ← trigger .reset
  setStatus "online"

/-- The failure branches of the installation: the robot stays in the error state. -/
def failInstall (text : String) : Handler Unit := do
  let _ ← trigger .installFail
  publishError text
  setStatus "error"

/-- The switch to the new version. -/
def completeUpdate (cmd : Command) : Handler Unit := do
  publishProgressWithMeta 90 "installing"
  let _ ← trigger .installOK
  let _ ← trigger .rebootOK
  setCurrentVersion cmd.version
  setStatus "online"
  publishProgressWithMeta 100 "success"

/-- The rate at which installations are to fail: a text that is a number above zero. -/
def simulatedRate (failRateStr : String) : Option FloatScan.Value :=
  if failRateStr ≠ "" then (FloatScan.sscanf failRateStr).filter fun rate => rate.exceeds 0
  else none

/-- {lit}`rand.Float32() < float32(failRate)`. -/
def failsAt (failRate : FloatScan.Value) (random : ℚ) : Bool :=
  (failRate.convert FloatScan.single).exceeds random

example : simulatedRate "0" = none ∧ simulatedRate "abc" = none ∧ simulatedRate "-0.2" = none := by
  decide +kernel

example : (simulatedRate "0.35").map FloatScan.Value.twoDecimals = some "0.35" := by
  decide +kernel

/-- {lit}`handleUpdate` from the accepted signature on. -/
def installFirmware (p : Process) (cmd : Command) (ecdsaMs : Nat) : Handler Unit := do
  let _ ← trigger .verifyOK
  let sha256Ms ← elapsedMs
  publishProgressWithMeta 20 "verified" (some ecdsaMs) (some sha256Ms)
  publishProgressWithMeta 25 "installing"
  publishProgressWithMeta 50 "installing"
  publishProgressWithMeta 75 "installing"
  let failOnVer := p.getenv "FAIL_ON_VERSION"
  if (failOnVer ≠ "" ∧ cmd.version = failOnVer) ∨ p.getenv "SIMULATE_FAILURE" = "true" then
    failInstall "hardware flashing fault (simulated)"
  else
    match simulatedRate (p.getenv "RANDOM_FAILURE_RATE") with
    | some failRate => do
        let random ← Prog.perform Op.randFloat32
        if failsAt failRate random then
          failInstall ("installation failed randomly (rate=" ++ failRate.twoDecimals ++ ")")
        else
          completeUpdate cmd
    | none => completeUpdate cmd

/-- {lit}`handleUpdate` from the downloaded image on. -/
def verifyFirmware (p : Process) (cmd : Command) (pub : PublicKey) (data : Bytes) :
    Handler Unit := do
  let _ ← trigger .downloadOK
  let hashStr := hexEncode (p.crypto.sum256 data)
  if hashStr ≠ cmd.sha256Checksum then
    abortUpdate .verifyFail (pure "checksum mismatch")
  else if cmd.signature = "" then
    abortUpdate .verifyFail (pure "missing firmware signature")
  else
    let ecdsaMs ← elapsedMs
    if verifyECDSASignature p.crypto pub hashStr cmd.signature then
      installFirmware p cmd ecdsaMs
    else
      abortUpdate .verifyFail
        (pure ("ecdsa signature verification failed (overhead: " ++ toString ecdsaMs ++ " ms)"))

/-- {lit}`handleUpdate` from the download on. -/
def downloadFirmware (p : Process) (cmd : Command) (pub : PublicKey) : Handler Unit := do
  setStatus "updating"
  publishProgressWithMeta 0 "downloading"
  match ← Prog.perform (Op.httpGet cmd.downloadURL) with
  | none => abortUpdate .downloadFail (pure "download failed")
  | some { statusCode, body } =>
      if statusCode ≠ 200 then
        abortUpdate .downloadFail (pure ("download failed: HTTP " ++ toString statusCode))
      else
        match body with
        | none => abortUpdate .downloadFail (pure "read failed")
        | some data => verifyFirmware p cmd pub data

/-- {lit}`cmd.HwModel != "" && cmd.HwModel != "all" && cmd.HwModel != hwModel` does not hold. -/
def Process.acceptsModel (p : Process) (cmd : Command) : Prop :=
  ¬ (cmd.hwModel ≠ "" ∧ cmd.hwModel ≠ "all" ∧ cmd.hwModel ≠ p.hwModel)

instance (p : Process) (cmd : Command) : Decidable (p.acceptsModel cmd) :=
  inferInstanceAs (Decidable (¬ _))

/-- The command names no model, all of them, or the robot's own. -/
theorem Process.acceptsModel_iff {p : Process} {cmd : Command} :
    p.acceptsModel cmd ↔ cmd.hwModel = "" ∨ cmd.hwModel = "all" ∨ cmd.hwModel = p.hwModel := by
  unfold Process.acceptsModel
  tauto

/-- The hardware check and the key check of {lit}`handleUpdate`. -/
def checkCompatible (p : Process) (cmd : Command) : Handler Unit :=
  if ¬ p.acceptsModel cmd then
    abortUpdate .verifyFail
      (pure ("incompatible hardware model: robot is " ++ p.hwModel ++ ", update requires " ++
        cmd.hwModel))
  else
    match p.ecdsaPubKey with
    | none =>
        abortUpdate .verifyFail (pure
          "cryptographic verification failed: root of trust public key unavailable (fail-closed)")
    | some pub => downloadFirmware p cmd pub

/-- {lit}`isAGV && currentBattery < 50`. -/
def lowBattery : Handler Bool := do
  let isAGV ← readIsAGV
  if isAGV then
    let battery ← readBattery
    return battery < 50
  else
    return false

/-- The error text of the activity interlock; it reads the activity a second time. -/
def busyText : Handler String := do
  let activity ← readActivity
  return "safety interlock engaged: robot is currently running activity '" ++ activity ++ "'"

/-- The error text of the battery interlock; it reads the level a second time. -/
def lowBatteryText : Handler String := do
  let battery ← readBattery
  return "safety interlock engaged: AGV battery level (" ++ toString battery ++
    "%) is below safe threshold 50%"

/-- The safety interlocks of {lit}`handleUpdate`. -/
def checkInterlocks (p : Process) (cmd : Command) : Handler Unit := do
  let activity ← readActivity
  if activity ≠ "idle" then
    abortUpdate .verifyFail busyText
  else
    let low ← lowBattery
    if low then
      abortUpdate .verifyFail lowBatteryText
    else
      checkCompatible p cmd

/-- {lit}`handleUpdate`: the trigger comes first, and a refused one ends the handler. -/
def handleUpdate (p : Process) (cmd : Command) : Handler Unit := do
  match ← trigger .updateCommand with
  | .error _ =>
      let s ← getState
      publishError ("invalid agent state for update: " ++ s.text)
  | .ok _ => checkInterlocks p cmd

/-! ## Rollbacks and settings -/

/-- A rejected trigger is logged only. -/
def handleRollback (cmd : Command) : Handler Unit := do
  setStatus "updating"
  let _ ← trigger .rollbackCommand
  publishProgressWithMeta 50 "rolling_back"
  let _ ← trigger .rollbackComplete
  setCurrentVersion cmd.version
  setStatus "online"
  publishProgressWithMeta 100 "success"

/-- The activity of a settings command, if it names one. -/
def applyActivity (activity : String) : Handler Unit :=
  if activity ≠ "" then setActivity activity else return ()

/-- The battery level of a settings command, if it has one. -/
def applyBattery : Option Int → Handler Unit
  | some level => setBattery level
  | none => return ()

/-- The charging state of a settings command, if it has one. -/
def applyCharging : Option Bool → Handler Unit
  | some charging => setCharging charging
  | none => return ()

/-- The branch of {lit}`messagePubHandler` for {lit}`simulate` and
{lit}`set_telemetry`. -/
def applySettings (cmd : Command) : Handler Unit := do
  applyActivity cmd.activity
  applyBattery cmd.batteryLevel
  applyCharging cmd.isCharging

/-- The handler of the command topic, by the action of the command. -/
def messagePubHandler (p : Process) (cmd : Command) : Handler Unit :=
  if cmd.action = "update" then handleUpdate p cmd
  else if cmd.action = "rollback" then handleRollback cmd
  else if cmd.action = "simulate" ∨ cmd.action = "set_telemetry" then applySettings cmd
  else return ()

/-- A heartbeat of a charging AGV adds one percent and stops charging at 98. -/
def chargeBattery : Handler Unit := do
  let battery ← readBattery
  setBattery (battery + 1)
  let battery ← readBattery
  if battery ≥ 98 then setCharging false else return ()

/-- A heartbeat of an AGV that is not charging takes one percent, down to 15. -/
def drainBattery : Handler Unit := do
  let battery ← readBattery
  if battery > 15 then
    let battery ← readBattery
    setBattery (battery - 1)
  else
    return ()

/-- The battery of an AGV in one iteration of the heartbeat. -/
def runBattery : Handler Unit := do
  let charging ← readCharging
  if charging then chargeBattery else drainBattery

/-- The battery part of the telemetry, which an AGV alone has. -/
def batteryTelemetry : Handler (Option (Int × Bool)) := do
  let isAGV ← readIsAGV
  if isAGV then
    runBattery
    let battery ← readBattery
    let charging ← readCharging
    return some (battery, charging)
  else
    return none

/-- The telemetry of an AGV, and that of any other robot; {lit}`noise` is the random part of the
signal strength. -/
def telemetryData (noise : Nat) (activity : String) : Option (Int × Bool) → TelemetryData
  | some (batVal, chgVal) =>
      { batteryLevel := some batVal, isCharging := some chgVal, networkRSSI := -58 - noise
        networkBandwidth := "54 Mbps (Wi-Fi 802.11ac)", powerMode := "li_ion_pack", activity }
  | none =>
      { networkRSSI := -50 - noise, networkBandwidth := "100 Mbps (Gigabit Ethernet)"
        powerMode := "ac_mains_3phase", activity }

/-- One iteration of the heartbeat loop. -/
def heartbeat (p : Process) : Handler Unit := do
  let battery ← batteryTelemetry
  let noise ← Prog.perform (Op.randIntn (if battery.isSome then 10 else 12))
  let activity ← readActivity
  let version ← Prog.perform Op.readVersion
  let status ← Prog.perform Op.readStatus
  let fsmState ← getState
  let timestamp ← Prog.perform Op.now
  Prog.perform (Op.publishStatus
    { factoryID := p.factoryID, hwModel := p.hwModel, version, status, fsmState, timestamp
      telemetry := telemetryData noise activity battery })

/-! ## The machine -/

/-- The package variables of the agent. -/
structure Robot where
  fsm : StateMachine
  currentVersion : String := "1.0.0"
  status : String := "online"
  isAGV : Bool := false
  currentBattery : Int := 88
  isCharging : Bool := true
  configuredActivity : String := "idle"
deriving DecidableEq, Repr

/-- The environment's part of a step. -/
structure Choice where
  response : Option Response := none
  elapsedMs : Nat := 0
  now : String := ""
  noise : Nat := 0
  random : ℚ := 0
deriving DecidableEq, Repr

/-- What a goroutine of the agent is started for. -/
inductive Routine where
  | command (cmd : Command)
  | heartbeat
deriving DecidableEq, Repr

/-- The program of a goroutine. -/
def body (p : Process) : Routine → Handler Unit
  | .command cmd => messagePubHandler p cmd
  | .heartbeat => heartbeat p

/-- One atomic operation. -/
def exec (r : Robot) : (op : Op) → Choice → op.Ret × Robot
  | .trigger event, _ => ((r.fsm.trigger event).1, { r with fsm := (r.fsm.trigger event).2 })
  | .getState, _ => (r.fsm.current, r)
  | .readActivity, _ => (r.configuredActivity, r)
  | .readIsAGV, _ => (r.isAGV, r)
  | .readBattery, _ => (r.currentBattery, r)
  | .readCharging, _ => (r.isCharging, r)
  | .readVersion, _ => (r.currentVersion, r)
  | .readStatus, _ => (r.status, r)
  | .httpGet _, x => (x.response, r)
  | .elapsedMs, x => (x.elapsedMs, r)
  | .now, x => (x.now, r)
  | .randIntn n, x => (x.noise % n, r)
  | .randFloat32, x => ((Int.fract x.random : ℚ), r)
  | .setActivity activity, _ => ((), { r with configuredActivity := activity })
  | .setBattery level, _ => ((), { r with currentBattery := level })
  | .setCharging charging, _ => ((), { r with isCharging := charging })
  | .setStatus status, _ => ((), { r with status })
  | .setCurrentVersion version, _ => ((), { r with currentVersion := version })
  | .publishProgress _, _ => ((), r)
  | .publishError _, _ => ((), r)
  | .publishStatus _, _ => ((), r)

/-- The agent. -/
def machine (p : Process) : Machine Op.Ret Robot Routine Choice where
  body := body p
  accept r _ := some r
  exec := exec

/-- A state of the agent: the variables of the process and its goroutines. -/
abbrev Config := Machine.Config Op.Ret Robot Routine

/-- A goroutine starts, or executes its next operation. -/
abbrev Label := Machine.Label Routine Choice

/-- An operation that was executed, with its answer. -/
abbrev Record := Machine.Event Op.Ret

/-- The interleaved steps of the goroutines. -/
def step (p : Process) : Config → Label → Option Config :=
  (machine p).step

/-- The agent after the boot transition; no goroutine is running. -/
def start (p : Process) (r : Robot) : Config :=
  Machine.initial { r with fsm := .booted p.deviceID }

/-! ## A robot -/

/-- The SHA-256 digest of the empty image. -/
def emptyDigest : Bytes :=
  [0xe3, 0xb0, 0xc4, 0x42, 0x98, 0xfc, 0x1c, 0x14, 0x9a, 0xfb, 0xf4, 0xc8, 0x99, 0x6f, 0xb9,
    0x24, 0x27, 0xae, 0x41, 0xe4, 0x64, 0x9b, 0x93, 0x4c, 0xa4, 0x95, 0x99, 0x1b, 0x78, 0x52,
    0xb8, 0x55]

/-- A robot that is handed the empty image; the library is given on this image and its
signature, the bytes {lit}`sig`. -/
def robotProcess (deviceID : DeviceID) : Process where
  deviceID := deviceID
  ecdsaPubKey := some ⟨1, 2⟩
  crypto :=
    { sum256 := fun _ => emptyDigest
      decodeBase64 := fun s => if s = "c2ln" then some [0x73, 0x69, 0x67] else none
      verifyASN1 := fun _ digest sig => digest = emptyDigest && sig = [0x73, 0x69, 0x67] }

/-- A booted robot with the defaults of the process. -/
def robot (deviceID : DeviceID) : Robot where
  fsm := .booted deviceID

/-- An update whose checksum is that of the empty image. -/
def updateTo (version : String) : Command where
  action := "update"
  version := version
  sha256Checksum := hexEncode emptyDigest
  signature := "c2ln"

/-- A rollback to the version. -/
def rollbackTo (version : String) : Command where
  action := "rollback"
  version := version

/-- The labels that let a goroutine execute {lit}`n` more operations; the download
succeeds. -/
def resume (i n : Nat) : List Label :=
  List.replicate n (.step i { response := some ⟨200, some []⟩ })

/-- The labels that receive a command and execute {lit}`n` operations of its goroutine. -/
def receive (i : Nat) (cmd : Command) (n : Nat) : List Label :=
  .spawn i (.command cmd) :: resume i n

end OtaRobot.Agent
