import OtaRobot.Agent.Handlers

/-!
# The operations of the agent's procedures

What the small procedures of the handlers issue, for any predicate on operations.

Main results:

- Theorems {lit}`publishProgress_always`, {lit}`abortUpdate_always` and {lit}`failInstall_always`.
-/

namespace OtaRobot.Agent

open Prog

section

variable {Q : Op → Prop}

theorem perform_always {op : Op} (h : Q op) :
    Always (fun _ _ => True) Q (perform op : Handler op.Ret) :=
  ⟨h, fun _ _ => trivial⟩

/-- What a progress report executes. -/
theorem publishProgress_always {progress : Nat} {status : String} {ecdsaMs sha256Ms : Option Nat}
    (hread : Q .getState)
    (hreport : ∀ fsmState, Q (.publishProgress
      { progress, status, fsmState, ecdsaVerifyMs := ecdsaMs, sha256VerifyMs := sha256Ms })) :
    Always (fun _ _ => True) Q (publishProgressWithMeta progress status ecdsaMs sha256Ms) := by
  apply Always.bind (perform_always hread)
  intro fsmState
  exact perform_always (hreport fsmState)

/-- What the text of the activity interlock executes. -/
theorem busyText_always (h : Q .readActivity) : Always (fun _ _ => True) Q busyText := by
  apply Always.bind (perform_always h)
  intro activity
  trivial

/-- What the text of the battery interlock executes. -/
theorem lowBatteryText_always (h : Q .readBattery) :
    Always (fun _ _ => True) Q lowBatteryText := by
  apply Always.bind (perform_always h)
  intro battery
  trivial

/-- What the battery interlock executes. -/
theorem lowBattery_always (hmodel : Q .readIsAGV) (hbattery : Q .readBattery) :
    Always (fun _ _ => True) Q lowBattery := by
  apply Always.bind (perform_always hmodel)
  intro isAGV
  split
  · apply Always.bind (perform_always hbattery)
    intro battery
    trivial
  · trivial

/-- What an aborted update executes. -/
theorem abortUpdate_always {event : Event} {text : Handler String} (hevent : Q (.trigger event))
    (htext : Always (fun _ _ => True) Q text) (herror : ∀ t, Q (.publishError t))
    (hreset : Q (.trigger .reset)) (hstatus : Q (.setStatus "online")) :
    Always (fun _ _ => True) Q (abortUpdate event text) := by
  apply Always.bind (perform_always hevent)
  intro _
  apply Always.bind htext
  intro t
  apply Always.bind (perform_always (herror t))
  intro _
  apply Always.bind (perform_always hreset)
  intro _
  exact perform_always hstatus

/-- What a failed installation executes. -/
theorem failInstall_always {text : String} (hevent : Q (.trigger .installFail))
    (herror : Q (.publishError text)) (hstatus : Q (.setStatus "error")) :
    Always (fun _ _ => True) Q (failInstall text) := by
  apply Always.bind (perform_always hevent)
  intro _
  apply Always.bind (perform_always herror)
  intro _
  exact perform_always hstatus

end

end OtaRobot.Agent
