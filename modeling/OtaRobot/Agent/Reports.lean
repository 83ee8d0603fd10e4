import OtaRobot.Agent.Operations

/-!
# The reports of the agent

The pairs of progress and status that the handlers report.

Main results:

- Theorem {lit}`step_staged`: no goroutine reports another pair.
-/

namespace OtaRobot.Agent

open Prog

/-- The stages of an update, in order, and of a rollback. -/
def reportedStages : List (Nat × String) :=
  [(0, "downloading"), (20, "verified"), (25, "installing"), (50, "installing"),
    (75, "installing"), (90, "installing"), (100, "success"), (50, "rolling_back")]

/-- A progress report says one of the stages. -/
def Op.IsStaged : Op → Prop
  | .publishProgress update => (update.progress, update.status) ∈ reportedStages
  | _ => True

/-- The procedure reports pairs of the list only. -/
abbrev Staged {α : Type} (m : Handler α) : Prop :=
  Always (fun _ _ => True) Op.IsStaged m

/-- A pair of the list. -/
theorem publishProgress_staged {progress : Nat} {status : String}
    (h : (progress, status) ∈ reportedStages) (ecdsaMs sha256Ms : Option Nat) :
    Staged (publishProgressWithMeta progress status ecdsaMs sha256Ms) :=
  publishProgress_always trivial fun _ => h

/-- An aborted update reports no progress. -/
theorem abortUpdate_staged (event : Event) {text : Handler String} (htext : Staged text) :
    Staged (abortUpdate event text) :=
  abortUpdate_always trivial htext (fun _ => trivial) trivial trivial

/-- A failed installation reports no progress. -/
theorem failInstall_staged (text : String) : Staged (failInstall text) :=
  failInstall_always trivial trivial trivial

section

variable (p : Process) (cmd : Command)

/-- A completed update reports the last pairs. -/
theorem completeUpdate_staged : Staged (completeUpdate cmd) := by
  apply Always.bind (publishProgress_staged (by simp [reportedStages]) _ _)
  intro _
  apply Always.bind (perform_always trivial)
  intro _
  apply Always.bind (perform_always trivial)
  intro _
  apply Always.bind (perform_always trivial)
  intro _
  apply Always.bind (perform_always trivial)
  intro _
  exact publishProgress_staged (by simp [reportedStages]) _ _

/-- The installation reports pairs of the list. -/
theorem installFirmware_staged (ecdsaMs : Nat) : Staged (installFirmware p cmd ecdsaMs) := by
  apply Always.bind (perform_always trivial)
  intro _
  apply Always.bind (perform_always trivial)
  intro sha256Ms
  apply Always.bind (publishProgress_staged (by simp [reportedStages]) _ _)
  intro _
  apply Always.bind (publishProgress_staged (by simp [reportedStages]) _ _)
  intro _
  apply Always.bind (publishProgress_staged (by simp [reportedStages]) _ _)
  intro _
  apply Always.bind (publishProgress_staged (by simp [reportedStages]) _ _)
  intro _
  dsimp only
  split
  · exact failInstall_staged _
  · split
    · apply Always.bind (perform_always trivial)
      intro random
      split
      · exact failInstall_staged _
      · exact completeUpdate_staged cmd
    · exact completeUpdate_staged cmd

/-- The verification reports pairs of the list. -/
theorem verifyFirmware_staged (pub : PublicKey) (data : Bytes) :
    Staged (verifyFirmware p cmd pub data) := by
  apply Always.bind (perform_always trivial)
  intro _
  dsimp only
  split
  · exact abortUpdate_staged _ trivial
  · split
    · exact abortUpdate_staged _ trivial
    · apply Always.bind (perform_always trivial)
      intro ecdsaMs
      split
      · exact installFirmware_staged p cmd ecdsaMs
      · exact abortUpdate_staged _ trivial

/-- The download reports pairs of the list. -/
theorem downloadFirmware_staged (pub : PublicKey) : Staged (downloadFirmware p cmd pub) := by
  apply Always.bind (perform_always trivial)
  intro _
  apply Always.bind (publishProgress_staged (by simp [reportedStages]) _ _)
  intro _
  apply Always.bind (perform_always trivial)
  intro (response : Option Response)
  cases response with
  | none => exact abortUpdate_staged _ trivial
  | some response =>
      obtain ⟨statusCode, body⟩ := response
      dsimp only
      split
      · exact abortUpdate_staged _ trivial
      · cases body with
        | none => exact abortUpdate_staged _ trivial
        | some data => exact verifyFirmware_staged p cmd pub data

/-- The hardware and the key check report nothing themselves. -/
theorem checkCompatible_staged : Staged (checkCompatible p cmd) := by
  unfold checkCompatible
  split
  · exact abortUpdate_staged _ trivial
  · split
    · exact abortUpdate_staged _ trivial
    · exact downloadFirmware_staged p cmd _

/-- An update reports pairs of the list. -/
theorem handleUpdate_staged : Staged (handleUpdate p cmd) := by
  apply Always.bind (perform_always trivial)
  intro (r : Except String Change)
  cases r with
  | error text =>
      apply Always.bind (perform_always trivial)
      intro s
      exact perform_always trivial
  | ok change =>
      apply Always.bind (perform_always trivial)
      intro activity
      split
      · exact abortUpdate_staged _ (busyText_always trivial)
      · apply Always.bind (lowBattery_always trivial trivial)
        intro low
        split
        · exact abortUpdate_staged _ (lowBatteryText_always trivial)
        · exact checkCompatible_staged p cmd

/-- A rollback reports pairs of the list. -/
theorem handleRollback_staged : Staged (handleRollback cmd) := by
  apply Always.bind (perform_always trivial)
  intro _
  apply Always.bind (perform_always trivial)
  intro _
  apply Always.bind (publishProgress_staged (by simp [reportedStages]) _ _)
  intro _
  apply Always.bind (perform_always trivial)
  intro _
  apply Always.bind (perform_always trivial)
  intro _
  apply Always.bind (perform_always trivial)
  intro _
  exact publishProgress_staged (by simp [reportedStages]) _ _

theorem applySettings_staged : Staged (applySettings cmd) := by
  have hactivity : Staged (applyActivity cmd.activity) := by
    unfold applyActivity
    split
    · exact perform_always trivial
    · trivial
  have hbattery : Staged (applyBattery cmd.batteryLevel) := by
    unfold applyBattery
    split
    · exact perform_always trivial
    · trivial
  have hcharging : Staged (applyCharging cmd.isCharging) := by
    unfold applyCharging
    split
    · exact perform_always trivial
    · trivial
  exact Always.bind hactivity fun _ => Always.bind hbattery fun _ => hcharging

/-- The battery reports no progress. -/
theorem batteryTelemetry_staged : Staged batteryTelemetry := by
  have hbattery : Staged runBattery := by
    apply Always.bind (perform_always trivial)
    intro charging
    split
    · apply Always.bind (perform_always trivial)
      intro _
      apply Always.bind (perform_always trivial)
      intro _
      apply Always.bind (perform_always trivial)
      intro battery
      split
      · exact perform_always trivial
      · trivial
    · apply Always.bind (perform_always trivial)
      intro battery
      split
      · apply Always.bind (perform_always trivial)
        intro _
        exact perform_always trivial
      · trivial
  apply Always.bind (perform_always trivial)
  intro isAGV
  split
  · apply Always.bind hbattery
    intro _
    apply Always.bind (perform_always trivial)
    intro _
    apply Always.bind (perform_always trivial)
    intro _
    trivial
  · trivial

/-- A heartbeat reports no progress. -/
theorem heartbeat_staged : Staged (heartbeat p) := by
  apply Always.bind batteryTelemetry_staged
  intro _
  apply Always.bind (perform_always trivial)
  intro _
  apply Always.bind (perform_always trivial)
  intro _
  apply Always.bind (perform_always trivial)
  intro _
  apply Always.bind (perform_always trivial)
  intro _
  apply Always.bind (perform_always trivial)
  intro _
  apply Always.bind (perform_always trivial)
  intro _
  exact perform_always trivial

/-- Whatever a goroutine of the agent is started for. -/
theorem body_staged (routine : Routine) : Staged (body p routine) := by
  cases routine with
  | command cmd =>
      show Staged (messagePubHandler p cmd)
      unfold messagePubHandler
      split
      · exact handleUpdate_staged p cmd
      · split
        · exact handleRollback_staged cmd
        · split
          · exact applySettings_staged cmd
          · trivial
  | heartbeat => exact heartbeat_staged p

end

/-- What is left of every goroutine reports stages only. -/
def Config.Staged (c : Config) : Prop :=
  c.AllThreads fun _ m => Agent.Staged m

/-- Nobody runs at the start. -/
theorem start_staged (p : Process) (r : Robot) : (start p r).Staged :=
  Machine.allThreads_initial _ _

/-- A step keeps every goroutine to the list. -/
theorem step_staged {p : Process} {c c' : Config} {l : Label} (h : step p c l = some c')
    (hc : c.Staged) : c'.Staged := by
  apply Machine.step_allThreads h hc
  · intro id routine _ _
    exact body_staged p routine
  · intro id x routine op k r _ _ hcall
    exact hcall.2 r trivial

/-- A goroutine that is about to report says one of the stages. -/
theorem Config.Staged.report {c : Config} (hc : c.Staged) {i : Nat} {routine : Routine}
    {update : ProgressUpdate} {k : Unit → Prog Op.Ret Unit}
    (h : c.thread i = some (routine, .call (.publishProgress update) k)) :
    (update.progress, update.status) ∈ reportedStages :=
  (hc i routine _ h).1

end OtaRobot.Agent
