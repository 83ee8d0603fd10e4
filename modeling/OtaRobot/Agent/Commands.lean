import OtaRobot.Agent.Operations

/-!
# What the handlers of commands touch

The handlers of update and rollback commands drive the state machine, set the version and the
status, and report; they neither read the status nor change the telemetry.

Main results:

- Theorem {lit}`command_ops`: the operations of a handler of an update or a rollback.
-/

namespace OtaRobot.Agent

open Prog

/-- The operation is one of a handler of an update or a rollback. -/
def Op.isCommandOp : Op → Bool
  | .readVersion | .readStatus | .setActivity _ | .setBattery _ | .setCharging _
  | .publishStatus _ => false
  | _ => true

/-- The procedure issues operations of these handlers only. -/
abbrev Commanded {α : Type} (m : Handler α) : Prop :=
  Always (fun _ _ => True) (fun op => op.isCommandOp = true) m

theorem perform_commanded {op : Op} (h : op.isCommandOp = true) : Commanded (perform op) :=
  ⟨h, fun _ _ => trivial⟩

theorem pure_commanded {α : Type} (a : α) : Commanded (pure a : Handler α) :=
  trivial

theorem trigger_commanded (event : Event) : Commanded (trigger event) :=
  perform_commanded rfl

theorem publishProgress_commanded (progress : Nat) (status : String)
    (ecdsaMs sha256Ms : Option Nat) :
    Commanded (publishProgressWithMeta progress status ecdsaMs sha256Ms) :=
  publishProgress_always rfl fun _ => rfl

theorem busyText_commanded : Commanded busyText :=
  busyText_always rfl

theorem lowBatteryText_commanded : Commanded lowBatteryText :=
  lowBatteryText_always rfl

theorem lowBattery_commanded : Commanded lowBattery :=
  lowBattery_always rfl rfl

theorem abortUpdate_commanded (event : Event) {text : Handler String} (htext : Commanded text) :
    Commanded (abortUpdate event text) :=
  abortUpdate_always rfl htext (fun _ => rfl) rfl rfl

theorem failInstall_commanded (text : String) : Commanded (failInstall text) :=
  failInstall_always rfl rfl rfl

section

variable (p : Process) (cmd : Command)

theorem completeUpdate_commanded : Commanded (completeUpdate cmd) := by
  apply Always.bind (publishProgress_commanded _ _ _ _)
  intro _
  apply Always.bind (trigger_commanded .installOK)
  intro _
  apply Always.bind (trigger_commanded .rebootOK)
  intro _
  apply Always.bind (perform_commanded rfl)
  intro _
  apply Always.bind (perform_commanded rfl)
  intro _
  exact publishProgress_commanded _ _ _ _

theorem installFirmware_commanded (ecdsaMs : Nat) :
    Commanded (installFirmware p cmd ecdsaMs) := by
  apply Always.bind (trigger_commanded .verifyOK)
  intro _
  apply Always.bind (perform_commanded rfl)
  intro sha256Ms
  apply Always.bind (publishProgress_commanded _ _ _ _)
  intro _
  apply Always.bind (publishProgress_commanded _ _ _ _)
  intro _
  apply Always.bind (publishProgress_commanded _ _ _ _)
  intro _
  apply Always.bind (publishProgress_commanded _ _ _ _)
  intro _
  dsimp only
  split
  · exact failInstall_commanded _
  · split
    · apply Always.bind (perform_commanded rfl)
      intro random
      split
      · exact failInstall_commanded _
      · exact completeUpdate_commanded cmd
    · exact completeUpdate_commanded cmd

theorem verifyFirmware_commanded (pub : PublicKey) (data : Bytes) :
    Commanded (verifyFirmware p cmd pub data) := by
  apply Always.bind (trigger_commanded .downloadOK)
  intro _
  dsimp only
  split
  · exact abortUpdate_commanded _ (pure_commanded _)
  · split
    · exact abortUpdate_commanded _ (pure_commanded _)
    · apply Always.bind (perform_commanded rfl)
      intro ecdsaMs
      split
      · exact installFirmware_commanded p cmd ecdsaMs
      · exact abortUpdate_commanded _ (pure_commanded _)

theorem downloadFirmware_commanded (pub : PublicKey) :
    Commanded (downloadFirmware p cmd pub) := by
  apply Always.bind (perform_commanded rfl)
  intro _
  apply Always.bind (publishProgress_commanded _ _ _ _)
  intro _
  apply Always.bind (perform_commanded rfl)
  intro (response : Option Response)
  cases response with
  | none => exact abortUpdate_commanded _ (pure_commanded _)
  | some response =>
      obtain ⟨statusCode, body⟩ := response
      dsimp only
      split
      · exact abortUpdate_commanded _ (pure_commanded _)
      · cases body with
        | none => exact abortUpdate_commanded _ (pure_commanded _)
        | some data => exact verifyFirmware_commanded p cmd pub data

theorem checkCompatible_commanded : Commanded (checkCompatible p cmd) := by
  unfold checkCompatible
  split
  · exact abortUpdate_commanded _ (pure_commanded _)
  · split
    · exact abortUpdate_commanded _ (pure_commanded _)
    · exact downloadFirmware_commanded p cmd _

/-- An update executes operations of commands only. -/
theorem handleUpdate_commanded : Commanded (handleUpdate p cmd) := by
  apply Always.bind (trigger_commanded .updateCommand)
  intro (r : Except String Change)
  cases r with
  | error text =>
      apply Always.bind (perform_commanded rfl)
      intro s
      exact perform_commanded rfl
  | ok change =>
      apply Always.bind (perform_commanded rfl)
      intro activity
      split
      · exact abortUpdate_commanded _ busyText_commanded
      · apply Always.bind lowBattery_commanded
        intro low
        split
        · exact abortUpdate_commanded _ lowBatteryText_commanded
        · exact checkCompatible_commanded p cmd

/-- A rollback executes operations of commands only. -/
theorem handleRollback_commanded : Commanded (handleRollback cmd) := by
  apply Always.bind (perform_commanded rfl)
  intro _
  apply Always.bind (trigger_commanded .rollbackCommand)
  intro _
  apply Always.bind (publishProgress_commanded _ _ _ _)
  intro _
  apply Always.bind (trigger_commanded .rollbackComplete)
  intro _
  apply Always.bind (perform_commanded rfl)
  intro _
  apply Always.bind (perform_commanded rfl)
  intro _
  exact publishProgress_commanded _ _ _ _

/-- The operations of a handler of an update or a rollback. -/
theorem command_ops (h : cmd.action = "update" ∨ cmd.action = "rollback") :
    Commanded (messagePubHandler p cmd) := by
  unfold messagePubHandler
  split
  · exact handleUpdate_commanded p cmd
  · split
    · exact handleRollback_commanded cmd
    · rename_i hupdate hrollback
      rcases h with h | h
      · exact absurd h hupdate
      · exact absurd h hrollback

end

end OtaRobot.Agent
