import Mathlib.Data.Rat.Floor

/-!
# The rollout plan of the dashboard

{lit}`evaluateRolloutPlan` of {lit}`frontend/src/lib/planning.ts`, with the fields of its
arguments that it reads.  {lit}`n * 0.20` is an exact rational.
-/

namespace OtaRobot.Planning

/-- The strategies of the wizard. -/
inductive RolloutStrategy where
  | full
  | canary
deriving DecidableEq, Repr

/-- {lit}`Device` of {lit}`types.ts`. -/
structure PlanDevice where
  id : String
  name : String
  currentVersion : String
deriving DecidableEq, Repr

/-- {lit}`FirmwareVersion` of {lit}`types.ts`. -/
structure PlanFirmware where
  version : String
deriving DecidableEq, Repr

/-- What was chosen in the wizard. -/
structure RolloutDraft where
  selectedFwID : String
  strategy : RolloutStrategy
deriving DecidableEq, Repr

/-- What the wizard shows about the choice. -/
structure RolloutValidationResult where
  isValid : Bool
  errors : List String
  warnings : List String
  hasHardwareMismatch : Bool
  mismatchedDevices : List PlanDevice
  sentinelCount : Nat
  subsequentCount : Nat
deriving DecidableEq, Repr

/-- {lit}`Math.max(1, Math.ceil(n * 0.20))`. -/
def sentinels (n : Nat) : Nat :=
  max 1 ((n : ℚ) * (1 / 5)).ceil.toNat

/-- The devices that run the target version already. -/
def versionWarnings (targetDevices : List PlanDevice) (firmware : PlanFirmware) : List String :=
  targetDevices.filterMap fun dev =>
    if dev.currentVersion = firmware.version then
      some ("Device " ++ dev.name ++ " is already running target version " ++
        firmware.version ++ ".")
    else none

/-- No device is ever put on the list of mismatches. -/
def evaluateRolloutPlan (draft : RolloutDraft) (targetDevices : List PlanDevice)
    (firmware : Option PlanFirmware) : RolloutValidationResult :=
  let errors :=
    (if draft.selectedFwID = "" then ["No firmware version selected."] else []) ++
      if targetDevices.length = 0 then
        ["No eligible online devices selected for deployment."]
      else []
  let warnings :=
    match firmware with
    | some firmware => versionWarnings targetDevices firmware
    | none => []
  let n := targetDevices.length
  let counts :=
    if draft.strategy = .canary ∧ n > 0 then (sentinels n, n - sentinels n) else (n, 0)
  { isValid := errors.length = 0
    errors
    warnings
    hasHardwareMismatch := false
    mismatchedDevices := []
    sentinelCount := counts.1
    subsequentCount := counts.2 }

end OtaRobot.Planning
