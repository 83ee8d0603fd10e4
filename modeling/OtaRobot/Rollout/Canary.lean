import Mathlib.Data.List.Infix
import OtaRobot.Rollout.Launch
import OtaRobot.Rollout.RolledBack

/-!
# The blast radius of a canary

The goroutine of a canary keeps two numbers in its program counter: how many update
commands it has issued and which phase check was the last to succeed.  It issues
commands up to the end of that phase, in the order of the target list, and it reads
the deployment only when the phase is dispatched.  The status column decides whether
the next phase opens; once it is not {lit}`running` any more it never is again.

Main results:

- Theorem {lit}`runCanary_dispatch`: the dispatch discipline of {lit}`runCanary`.
- Theorem {lit}`canary_blast_radius`: what a canary has issued is an initial segment
  of the target list, which stops growing at the end of the phase that was open when
  the status left {lit}`running`.
-/

namespace OtaRobot

open Prog Transition

/-! ## Phase ends -/

/-- The end index of a phase in a target list of length {lit}`n`; before the first
phase nothing may be issued. -/
def phaseEnd (n : Nat) : Nat → Nat
  | 0 => 0
  | 1 => p1End n
  | 2 => p2End n
  | _ => n

/-- No phase ends behind the last device. -/
theorem phaseEnd_le (n phase : Nat) : phaseEnd n phase ≤ n := by
  match phase with
  | 0 => exact Nat.zero_le n
  | 1 => exact p1End_le n
  | 2 => exact p2End_le n
  | _ + 3 => exact Nat.le_refl n

/-- A later phase ends later. -/
theorem phaseEnd_mono (n : Nat) {phase phase' : Nat} (h : phase ≤ phase') :
    phaseEnd n phase ≤ phaseEnd n phase' := by
  have hsucc : ∀ m, phaseEnd n m ≤ phaseEnd n (m + 1) := by
    intro m
    match m with
    | 0 => exact Nat.zero_le _
    | 1 => exact p1End_le_p2End n
    | 2 => exact p2End_le n
    | _ + 3 => exact Nat.le_refl n
  exact monotone_nat_of_le_succ hsucc h

/-- Each phase continues the target list where the phases before it end. -/
def Continues (devs : List Device) : Nat → List Phase → Prop
  | _, [] => True
  | sent, p :: ps =>
      p.devices <+: devs.drop sent ∧ sent = phaseEnd devs.length (p.phaseNum - 1) ∧
        sent + p.devices.length = phaseEnd devs.length p.phaseNum ∧
        (∀ q ∈ ps, p.phaseNum < q.phaseNum) ∧
        Continues devs (sent + p.devices.length) ps

/-- The phases continue each other. -/
theorem continues_canaryPhases (devs : List Device) :
    Continues devs 0 (canaryPhases devs) := by
  have h₁ : p1End devs.length ≤ devs.length := p1End_le _
  have h₂ : p2End devs.length ≤ devs.length := p2End_le _
  have h₁₂ : p1End devs.length ≤ p2End devs.length := p1End_le_p2End _
  have hfirst : (devs.take (p1End devs.length)).length = p1End devs.length := by
    rw [List.length_take]
    omega
  have hsecond : p1End devs.length +
      ((devs.take (p2End devs.length)).drop (p1End devs.length)).length =
        p2End devs.length := by
    rw [List.length_drop, List.length_take]
    omega
  refine ⟨List.take_prefix _ _, rfl, ?_, by simp, ?_⟩
  · rw [hfirst, Nat.zero_add]
    rfl
  rw [hfirst, Nat.zero_add]
  refine ⟨(List.take_prefix _ _).drop _, rfl, hsecond, by simp, ?_⟩
  rw [hsecond]
  refine ⟨List.prefix_rfl, rfl, ?_, by simp, trivial⟩
  rw [List.length_drop]
  exact Nat.add_sub_cancel' h₂

namespace ControlPlane

/-! ## The dispatch discipline -/

/-- The program counter of a canary: commands issued, phase opened, phase observed to
the end of its window. -/
structure Dispatched where
  sent : Nat := 0
  phase : Nat := 0
  observed : Nat := 0
deriving DecidableEq, Repr

/-- The answer of a phase check with which the canary goes on. -/
def readsRunning : Option Deployment → Bool
  | some dep => dep.status = .running
  | none => false

@[simp]
theorem readsRunning_none : readsRunning none = false :=
  rfl

@[simp]
theorem readsRunning_some (dep : Deployment) :
    readsRunning (some dep) = decide (dep.status = .running) :=
  rfl

/-- A phase opens when its check reads a running deployment. -/
def phaseAfter (id : DeploymentID) (phase : Nat) : (op : Op) → op.Ret → Nat
  | .sql (.getDeployment id' (.phaseCheck phaseNum)), r =>
      if id' = id ∧ readsRunning r = true then phaseNum else phase
  | _, _ => phase

/-- A phase opens when the deployment is read as running. -/
theorem phaseAfter_running (id : DeploymentID) (phase phaseNum : Nat) {dep : Deployment}
    (h : dep.status = .running) :
    phaseAfter id phase (.sql (.getDeployment id (.phaseCheck phaseNum))) (some dep) = phaseNum :=
  if_pos ⟨rfl, decide_eq_true h⟩

/-- The number of commands after an operation. -/
def sentAfter (sent : Nat) : Op → Nat
  | .publishCommand _ _ _ => sent + 1
  | _ => sent

/-- The last phase that was observed to its end. -/
def observedAfter (observed : Nat) : Op → Nat
  | .windowOver _ phaseNum => phaseNum
  | _ => observed

/-- A canary publishes its update command to the next device of the list, inside the
open phase; it reads its deployment only when the phase is dispatched, and opens the
phases in order, each when the one before it is observed. -/
def CanaryAllowed (id : DeploymentID) (devs : List Device) (cmd : UpdateCommand)
    (g : Dispatched) : Op → Prop
  | .publishCommand id' deviceID c =>
      g.sent < phaseEnd devs.length g.phase ∧ id' = id ∧ c = .update cmd ∧
        devs[g.sent]?.map (fun dev => dev.id) = some deviceID
  | .sql (.getDeployment _ (.phaseCheck phaseNum)) =>
      g.sent = phaseEnd devs.length g.phase ∧ g.observed = g.phase ∧ g.phase < phaseNum ∧
        g.sent = phaseEnd devs.length (phaseNum - 1)
  | .sql (.getDeployment _ _) => g.sent = phaseEnd devs.length g.phase
  | .windowOver id' phaseNum => id' = id ∧ phaseNum = g.phase ∧ 0 < phaseNum
  | _ => True

/-- A canary sends to the devices of open phases, in order. -/
def canaryDiscipline (id : DeploymentID) (devs : List Device) (cmd : UpdateCommand) :
    Discipline Op.Ret Dispatched where
  allowed := CanaryAllowed id devs cmd
  rely _ _ _ := True
  next g op r := ⟨sentAfter g.sent op, phaseAfter id g.phase op r, observedAfter g.observed op⟩

section

variable (id : DeploymentID) (devs : List Device) (cmd : UpdateCommand)

/-- The open phase is dispatched. -/
private abbrev Settles (g : Dispatched) : Prop :=
  g.sent = phaseEnd devs.length g.phase

/-- The dispatch loop issues the rest of its list and stops at the end of the phase. -/
theorem dispatch_canary (rest : List Device) (g : Dispatched)
    (hrest : rest <+: devs.drop g.sent)
    (hend : g.sent + rest.length = phaseEnd devs.length g.phase) :
    Obeys (canaryDiscipline id devs cmd)
      (fun g' _ => Settles devs g' ∧ g'.phase = g.phase) g (dispatch id cmd rest) := by
  induction rest generalizing g with
  | nil => exact ⟨by simpa using hend, rfl⟩
  | cons dev rest ih =>
      have hhead : devs[g.sent]? = some dev := by
        obtain ⟨tail, htail⟩ := hrest
        rw [← List.head?_drop, ← htail]
        rfl
      have htail : rest <+: devs.drop (g.sent + 1) := by
        have hdrop := hrest.drop 1
        rwa [List.drop_drop] at hdrop
      rw [List.length_cons] at hend
      refine ⟨⟨by omega, rfl, rfl, by simp [hhead]⟩, fun _ _ => ?_⟩
      exact ih ⟨g.sent + 1, g.phase, g.observed⟩ htail (by dsimp only; omega)

/-- An observation leaves the dispatch alone and, unless it aborts, observes the open
phase. -/
private abbrev Observes (g g' : Dispatched) (aborted : Bool) : Prop :=
  g'.sent = g.sent ∧ g'.phase = g.phase ∧ (aborted = false → g'.observed = g'.phase)

/-- The polls observe the open phase. -/
theorem pollStatus_canary (ticks : Nat) (g : Dispatched) (hg : Settles devs g)
    (hopen : 0 < g.phase) :
    Obeys (canaryDiscipline id devs cmd) (Observes g) g (pollStatus id g.phase ticks) := by
  induction ticks with
  | zero => exact ⟨⟨rfl, rfl, hopen⟩, fun _ _ => ⟨rfl, rfl, fun _ => rfl⟩⟩
  | succ ticks ih =>
      rw [pollStatus, getDeployment_bind]
      refine ⟨hg, fun (r : Option Deployment) _ => ?_⟩
      rcases r with _ | dep
      · exact ⟨rfl, rfl, by simp⟩
      · dsimp only
        split
        · exact ⟨rfl, rfl, by simp⟩
        · exact ih

/-- The phases are opened one after the other. -/
theorem runPhases_canary (n : Nat) (ps : List Phase) (g : Dispatched)
    (hg : Settles devs g) (hobserved : g.observed = g.phase)
    (hps : ∀ p ∈ ps, g.phase < p.phaseNum) (hcont : Continues devs g.sent ps) :
    Obeys (canaryDiscipline id devs cmd) (fun g' _ => Settles devs g') g
      (runPhases id cmd n ps) := by
  induction ps generalizing g with
  | nil => exact hg
  | cons p ps ih =>
      obtain ⟨hdevices, hstart, hend, horder, hrest⟩ := hcont
      have hnext : g.phase < p.phaseNum := hps p List.mem_cons_self
      rw [runPhases, getDeployment_bind]
      split
      · -- An empty phase is skipped, its check included.
        rename_i hempty
        rw [hempty, Nat.add_zero] at hrest
        exact ih g hg hobserved (fun q hq => hps q (List.mem_cons_of_mem p hq)) hrest
      · refine ⟨⟨hg, hobserved, hnext, hstart⟩, fun (r : Option Deployment) _ => ?_⟩
        rcases r with _ | cur
        · simpa [canaryDiscipline, sentAfter, phaseAfter] using hg
        · dsimp only
          split
          · rename_i hstatus
            simpa [canaryDiscipline, sentAfter, phaseAfter, hstatus] using hg
          · rename_i hstatus
            have hrunning : cur.status = .running := not_not.mp hstatus
            have hopen : (canaryDiscipline id devs cmd).next g
                (.sql (.getDeployment id (.phaseCheck p.phaseNum))) (some cur) =
                  ⟨g.sent, p.phaseNum, g.observed⟩ := by
              show Dispatched.mk g.sent _ g.observed = _
              rw [phaseAfter_running id g.phase p.phaseNum hrunning]
            rw [query_bind]
            refine Obeys.of_eq hopen ⟨trivial, fun _ _ => ?_⟩
            refine Obeys.bind (dispatch_canary id devs cmd p.devices
              ⟨g.sent, p.phaseNum, g.observed⟩ hdevices hend) ?_
            intro g' _ hg'
            obtain ⟨hsettled, hphase⟩ := hg'
            dsimp only at hphase
            have hsent : g'.sent = g.sent + p.devices.length := by
              rw [hend, hsettled, hphase]
            split
            · exact hsettled
            · have hpoll : ∀ ticks, Obeys (canaryDiscipline id devs cmd) (Observes g') g'
                  (pollStatus id p.phaseNum ticks) := by
                intro ticks
                rw [← hphase]
                exact pollStatus_canary id devs cmd ticks g' hsettled (by omega)
              have hobserve : Obeys (canaryDiscipline id devs cmd) (Observes g') g'
                  (observeWindow id p.phaseNum) := ⟨trivial, fun ticks _ => hpoll ticks⟩
              refine hobserve.bind ?_
              intro g'' aborted hobs
              obtain ⟨hsent', hphase', hwindow⟩ := hobs
              have hsettled' : Settles devs g'' := by
                rw [Settles, hsent', hphase']
                exact hsettled
              split
              · exact hsettled'
              · rename_i haborted
                apply ih g'' hsettled' (hwindow (by simpa using haborted))
                · intro q hq
                  rw [hphase', hphase]
                  exact horder q hq
                · rw [hsent', hsent]
                  exact hrest

/-- The end of a canary sends nothing. -/
theorem finishCanary_canary (g : Dispatched) (hg : Settles devs g) :
    Obeys (canaryDiscipline id devs cmd) (fun _ _ => True) g (finishCanary id) := by
  rw [finishCanary, getDeployment_bind]
  refine ⟨hg, fun (r : Option Deployment) _ => ?_⟩
  rcases r with _ | cur
  · trivial
  · dsimp only
    split
    · exact ⟨trivial, fun _ _ => trivial⟩
    · trivial

/-- A canary keeps to the discipline. -/
theorem runCanary_dispatch :
    Obeys (canaryDiscipline id devs cmd) (fun _ _ => True) {} (runCanary id devs cmd) := by
  have hphases : Obeys (canaryDiscipline id devs cmd) (fun g' _ => Settles devs g') {}
      (runPhases id cmd devs.length (canaryPhases devs)) := by
    apply runPhases_canary id devs cmd devs.length (canaryPhases devs) {} rfl rfl
    · simp [canaryPhases]
    · exact continues_canaryPhases devs
  unfold runCanary
  split
  · trivial
  · refine hphases.bind fun g finished hg => ?_
    split
    · exact finishCanary_canary id devs cmd g hg
    · trivial

end

/-! ## Canary threads along a run -/

/-- The dispatch discipline of a thread; only canaries have one. -/
def dispatchDiscipline : Call → Discipline Op.Ret Dispatched
  | .runCanary id devs cmd => canaryDiscipline id devs cmd
  | _ => ⟨fun _ _ => True, fun _ _ _ => True, fun g _ _ => g⟩

theorem body_dispatch (call : Call) :
    Obeys (dispatchDiscipline call) (fun _ _ => True) {} (body call) := by
  cases call with
  | runCanary id devs cmd => exact runCanary_dispatch id devs cmd
  | progress | error | createDeployment | getDeployment | rollback =>
      exact obeys_of_forall (fun _ _ => trivial) (fun _ _ => trivial) _ _

/-- The commands a thread has published, in order. -/
def published (events : List Event) : List (DeploymentID × DeviceID × Command) :=
  events.filterMap fun e =>
    match e.op with
    | .publishCommand id deviceID cmd => some (id, deviceID, cmd)
    | _ => none

/-- The commands thread {lit}`i` has published. -/
def publishedBy (i : Nat) (c : Config) : List (DeploymentID × DeviceID × Command) :=
  published (Machine.eventsOf i c.trace)

/-- The phase of deployment {lit}`id` whose check by thread {lit}`i` was the last to
succeed, zero before the first. -/
def openPhase (id : DeploymentID) (i : Nat) (c : Config) : Nat :=
  (Machine.eventsOf i c.trace).foldl (fun phase e => phaseAfter id phase e.op e.ret) 0

/-- The last phase thread {lit}`i` has observed to the end of its window, zero before the
first. -/
def observedPhase (i : Nat) (c : Config) : Nat :=
  (Machine.eventsOf i c.trace).foldl (fun observed e => observedAfter observed e.op) 0

/-- The update commands of a deployment for a list of devices. -/
def updateCommands (id : DeploymentID) (cmd : UpdateCommand) (devs : List Device) :
    List (DeploymentID × DeviceID × Command) :=
  devs.map fun dev => (id, dev.id, .update cmd)

/-- The last command is inside the open phase, or at the end of the phase before. -/
structure Within (n sent phase : Nat) : Prop where
  begun : phaseEnd n (phase - 1) ≤ sent
  inside : sent ≤ phaseEnd n phase

/-- The published commands and the open phase are those of the program counter. -/
def Issues (call : Call) (g : Dispatched) (events : List Event) : Prop :=
  match call with
  | .runCanary id devs cmd =>
      Within devs.length g.sent g.phase ∧
        g.phase = events.foldl (fun phase e => phaseAfter id phase e.op e.ret) 0 ∧
        g.observed = events.foldl (fun observed e => observedAfter observed e.op) 0 ∧
        published events = updateCommands id cmd (devs.take g.sent)
  | _ => True

/-- The canary stays inside the open phase. -/
theorem canaryNext_within {id : DeploymentID} {devs : List Device} {cmd : UpdateCommand}
    {g : Dispatched} {op : Op} (r : op.Ret) (hg : Within devs.length g.sent g.phase)
    (hallowed : CanaryAllowed id devs cmd g op) :
    Within devs.length (sentAfter g.sent op) (phaseAfter id g.phase op r) := by
  cases op with
  | publishCommand id' deviceID c =>
      have hlt : g.sent < phaseEnd devs.length g.phase := hallowed.1
      exact ⟨Nat.le_succ_of_le hg.begun, hlt⟩
  | sql q =>
      cases q with
      | getDeployment id' site =>
          cases site with
          | phaseCheck phaseNum =>
              obtain ⟨-, -, hlt, hstart⟩ := hallowed
              have hmono := phaseEnd_mono devs.length (Nat.le_of_lt hlt)
              simp only [phaseAfter, sentAfter]
              split
              · exact ⟨Nat.le_of_eq hstart.symm, hg.inside.trans hmono⟩
              · exact hg
          | _ => exact hg
      | _ => exact hg
  | _ => exact hg

/-- The canary continues the target list. -/
theorem published_next {id : DeploymentID} {devs : List Device} {cmd : UpdateCommand}
    {g : Dispatched} {events : List Event} (e : Event)
    (hpublished : published events = updateCommands id cmd (devs.take g.sent))
    (hallowed : CanaryAllowed id devs cmd g e.op) :
    published (events ++ [e]) = updateCommands id cmd (devs.take (sentAfter g.sent e.op)) := by
  obtain ⟨i, op, r⟩ := e
  have happend : published (events ++ [⟨i, op, r⟩]) =
      published events ++ published [⟨i, op, r⟩] := List.filterMap_append
  rw [happend, hpublished]
  cases op with
  | publishCommand id' deviceID c =>
      obtain ⟨-, rfl, rfl, hdevice⟩ := hallowed
      obtain ⟨dev, hdev, rfl⟩ := Option.map_eq_some_iff.mp hdevice
      have htake : devs.take (g.sent + 1) = devs.take g.sent ++ [dev] := by
        rw [List.take_add_one, hdev]
        rfl
      simp [published, updateCommands, sentAfter, htake]
  | _ => simp [published, sentAfter]

theorem issues_next (call : Call) (g : Dispatched) (events : List Event) (e : Event)
    (h : Issues call g events) (hallowed : (dispatchDiscipline call).allowed g e.op) :
    Issues call ((dispatchDiscipline call).next g e.op e.ret) (events ++ [e]) := by
  cases call with
  | runCanary id devs cmd =>
      obtain ⟨hwithin, hphase, hobserved, hpublished⟩ := h
      refine ⟨canaryNext_within e.ret hwithin hallowed, ?_, ?_,
        published_next e hpublished hallowed⟩
      · rw [List.foldl_append, ← hphase]
        rfl
      · rw [List.foldl_append, ← hobserved]
        rfl
  | progress | error | createDeployment | getDeployment | rollback => trivial

/-- Every thread keeps to its dispatch discipline. -/
structure DispatchInvariant (c : Config) : Prop where
  disciplined : Machine.Disciplined dispatchDiscipline (fun _ _ => True) (fun _ => {}) c
  issues : c.AllGhosts dispatchDiscipline (fun _ => {}) Issues

/-- Nothing was sent at the start. -/
theorem dispatchInvariant_start (db : Db) : DispatchInvariant (start db) where
  disciplined := Machine.disciplined_initial _ _ _ _
  issues := Machine.allGhosts_initial _ _ _ _

/-- A step keeps every canary to its phases. -/
theorem dispatchInvariant_step {c c' : Config} {l : Label} (hc : DispatchInvariant c)
    (h : step c l = some c') : DispatchInvariant c' where
  disciplined := by
    refine Machine.step_disciplined h hc.disciplined body_dispatch ?_
    intro i x call op k r _
    cases call <;> trivial
  issues := by
    refine Machine.step_allGhosts h hc.disciplined hc.issues ?_ issues_next
    intro call
    cases call with
    | runCanary id devs cmd => exact ⟨⟨Nat.zero_le _, Nat.zero_le _⟩, rfl, rfl, rfl⟩
    | progress | error | createDeployment | getDeployment | rollback => trivial

theorem dispatchInvariant_run {db : Db} {ls : List Label} {c : Config}
    (h : run step (start db) ls = some c) : DispatchInvariant c :=
  run_invariant (fun _ _ _ hc hstep => dispatchInvariant_step hc hstep)
    (dispatchInvariant_start db) h

/-- What a canary has published is an initial segment of its target list, inside the
open phase. -/
theorem DispatchInvariant.publishedBy_eq {c : Config} (hc : DispatchInvariant c) {i : Nat}
    {id : DeploymentID} {devs : List Device} {cmd : UpdateCommand} {p : Rollout Unit}
    (hi : c.thread i = some (.runCanary id devs cmd, p)) :
    ∃ m, Within devs.length m (openPhase id i c) ∧
      publishedBy i c = updateCommands id cmd (devs.take m) := by
  obtain ⟨hwithin, hphase, -, hpublished⟩ := hc.issues i _ p hi
  refine ⟨_, ?_, hpublished⟩
  rw [openPhase, ← hphase]
  exact hwithin

/-! ## The status column and the open phase -/

/-- A launched deployment that is not running stays so. -/
theorem Launched.not_running_step {id : DeploymentID} {c c' : Config} {l : Label}
    (hc : Launched id c) (hstatus : status c id ≠ some .running) (h : step c l = some c') :
    status c' id ≠ some .running := by
  obtain hsame | ⟨i, x, tag, st, k, r, -, -, hst, hafter⟩ := hc.status_step h
  · rw [hsame]
    exact hstatus
  · rw [hafter]
    rcases hst with rfl | rfl <;> simp

/-- While the deployment is not running every phase check fails. -/
theorem phaseAfter_executed {c c' : Config} {i : Nat} {x : Choice} {tag : Call} {op : Op}
    {k : op.Ret → Rollout Unit} {r : op.Ret} (hs : machine.Executed c c' i x tag op k r)
    {id : DeploymentID} (hstatus : status c id ≠ some .running) (phase : Nat) :
    phaseAfter id phase op r = phase := by
  cases op with
  | sql q =>
      cases q with
      | getDeployment id' site =>
          cases site with
          | phaseCheck phaseNum =>
              apply if_neg
              intro hopens
              obtain ⟨rfl, hrunning⟩ := hopens
              rcases executed_getDeployment hs with hnone | hrow
              · rw [hnone] at hrunning
                exact Bool.false_ne_true hrunning
              · rw [hrow] at hrunning
                apply hstatus
                rw [status]
                cases hdep : deployment c id' with
                | none =>
                    rw [hdep] at hrunning
                    exact absurd hrunning Bool.false_ne_true
                | some dep =>
                    rw [hdep] at hrunning
                    exact congrArg some (of_decide_eq_true hrunning)
          | _ => rfl
      | _ => rfl
  | _ => rfl

/-- While the deployment is not running no phase opens. -/
theorem openPhase_step {id : DeploymentID} {c c' : Config} {l : Label}
    (hstatus : status c id ≠ some .running) (h : step c l = some c') (i : Nat) :
    openPhase id i c' = openPhase id i c := by
  obtain ⟨j, tag, -, hs⟩ | ⟨j, x, tag, op, k, r, -, hs⟩ := Machine.step_cases h
  · rw [openPhase, hs.trace]
    rfl
  · rw [openPhase, hs.trace, Machine.eventsOf_append]
    split
    · rw [List.foldl_append]
      exact phaseAfter_executed hs hstatus _
    · rfl

/-- From the moment the status of a launched deployment is not running, no phase of
it opens. -/
theorem openPhase_run {id : DeploymentID} {c c' : Config} {ls : List Label}
    (hlaunched : Launched id c) (hstatus : status c id ≠ some .running)
    (h : run step c ls = some c') (i : Nat) : openPhase id i c' = openPhase id i c := by
  have hinv : Launched id c' ∧ status c' id ≠ some .running ∧
      openPhase id i c' = openPhase id i c := by
    refine run_invariant (I := fun c' => Launched id c' ∧ status c' id ≠ some .running ∧
      openPhase id i c' = openPhase id i c) ?_ ⟨hlaunched, hstatus, rfl⟩ h
    intro m l m' hm hstep
    obtain ⟨hlaunched, hstatus, hphase⟩ := hm
    refine ⟨launched_step hlaunched hstep, hlaunched.not_running_step hstatus hstep, ?_⟩
    rw [openPhase_step hstatus hstep, hphase]
  exact hinv.2.2

/-! ## What a canary has published -/

/-- A canary that has not been started has published nothing. -/
theorem DispatchInvariant.publishedBy_eq_of_run {c c' : Config} {ls : List Label}
    (hc : DispatchInvariant c) (h : run step c ls = some c') {i : Nat} {id : DeploymentID}
    {devs : List Device} {cmd : UpdateCommand} {p : Rollout Unit}
    (hi : c'.thread i = some (.runCanary id devs cmd, p)) :
    ∃ m, Within devs.length m (openPhase id i c) ∧
      publishedBy i c = updateCommands id cmd (devs.take m) := by
  cases hthread : c.thread i with
  | none =>
      have hnil : Machine.eventsOf i c.trace = [] :=
        Machine.eventsOf_eq_nil hc.disciplined.closed hthread
      refine ⟨0, ?_, ?_⟩
      · rw [openPhase, hnil]
        exact ⟨Nat.zero_le _, Nat.zero_le _⟩
      · rw [publishedBy, hnil]
        rfl
  | some t =>
      obtain ⟨tag, p₀⟩ := t
      obtain ⟨p', hp'⟩ := Machine.run_tag h hthread
      obtain ⟨rfl, -⟩ : tag = .runCanary id devs cmd ∧ p' = p := by simpa [hp'] using hi
      exact hc.publishedBy_eq hthread

/-- At every moment a canary has issued its update command for an initial segment of
its target list, in order.  From the moment the deployment is not running any more,
the segment stays inside the phase that was open then. -/
theorem canary_blast_radius {id : DeploymentID} {db : Db} {ls₁ ls₂ : List Label}
    {c₁ c₂ : Config} {i : Nat} {devs : List Device} {cmd : UpdateCommand} {p : Rollout Unit}
    (h₁ : run step (start db) ls₁ = some c₁) (h₂ : run step c₁ ls₂ = some c₂)
    (hi : c₂.thread i = some (.runCanary id devs cmd, p)) :
    ∃ m₁ m₂, m₁ ≤ m₂ ∧ m₂ ≤ devs.length ∧
      publishedBy i c₁ = updateCommands id cmd (devs.take m₁) ∧
      publishedBy i c₂ = updateCommands id cmd (devs.take m₂) ∧
      (StartRolloutCalled id c₁ → status c₁ id ≠ some .running →
        phaseEnd devs.length (openPhase id i c₁ - 1) ≤ m₁ ∧
          m₂ ≤ phaseEnd devs.length (openPhase id i c₁)) := by
  have hinv₁ : DispatchInvariant c₁ := dispatchInvariant_run h₁
  have hinv₂ : DispatchInvariant c₂ := dispatchInvariant_run (run_trans h₁ h₂)
  obtain ⟨m₁, hwithin₁, hpublished₁⟩ := hinv₁.publishedBy_eq_of_run h₂ hi
  obtain ⟨m₂, hwithin₂, hpublished₂⟩ := hinv₂.publishedBy_eq hi
  have hle₁ : m₁ ≤ devs.length := hwithin₁.inside.trans (phaseEnd_le _ _)
  have hle₂ : m₂ ≤ devs.length := hwithin₂.inside.trans (phaseEnd_le _ _)
  have hgrows : publishedBy i c₁ <+: publishedBy i c₂ :=
    ((Machine.run_trace h₂).filter _).filterMap _
  have hle : m₁ ≤ m₂ := by
    have hlength := hgrows.length_le
    simp only [hpublished₁, hpublished₂, updateCommands, List.length_map,
      List.length_take] at hlength
    omega
  refine ⟨m₁, m₂, hle, hle₂, hpublished₁, hpublished₂, fun hcalled hstatus => ?_⟩
  have hphase : openPhase id i c₂ = openPhase id i c₁ :=
    openPhase_run (launched_of_startRollout h₁ hcalled) hstatus h₂ i
  rw [hphase] at hwithin₂
  exact ⟨hwithin₁.begun, hwithin₂.inside⟩

/-- The target list of a rollout to five robots. -/
def fiveTargets : List Device :=
  ["r5", "r4", "r3", "r2", "r1"].map fun robot =>
    { id := robot, currentVersion := "1.0.0", status := "online" }

/-- A canary over five robots up to the first command of its second phase, rolled
back by the operator at that moment. -/
private def rollbackInPhaseTwo : List Label :=
  startCall 0 (.createDeployment (rolloutRequest "canary")) 13 ++
    startCall 1 (.runCanary 0 fiveTargets { version := "2.0.0" }) 8 ++
    startCall 2 (.rollback 0) 14

/-- The canary dispatches the rest of its second phase and stops. -/
theorem canary_blast_radius_rollback_in_phase_two :
    ∃ c, run step (start (fleetDb ["r1", "r2", "r3", "r4", "r5"] (by decide)))
      (rollbackInPhaseTwo ++ resumeCall 1 4) = some c ∧
      ∃ m ≤ 3, publishedBy 1 c = updateCommands 0 { version := "2.0.0" } (fiveTargets.take m) := by
  obtain ⟨c₂, h, hhalted⟩ := endsWith_eq_true
    (show endsWith step (start (fleetDb ["r1", "r2", "r3", "r4", "r5"] (by decide)))
      (rollbackInPhaseTwo ++ resumeCall 1 4)
      (fun c => (c.thread 1).any fun t =>
        t.1 = .runCanary 0 fiveTargets { version := "2.0.0" } && Machine.isDone t.2) = true by
      decide +kernel)
  obtain ⟨c₁, h₁, hrolled⟩ := endsWith_eq_true
    (show endsWith step (start (fleetDb ["r1", "r2", "r3", "r4", "r5"] (by decide)))
      rollbackInPhaseTwo (fun c => openPhase 0 1 c = 2 && (status c 0 = some .rolledBack &&
        c.trace.any fun e => e.op = .startRollout 0)) = true by decide +kernel)
  obtain ⟨m, hm, h₂⟩ := run_append_eq_some h
  obtain rfl : c₁ = m := Option.some.inj (h₁.symm.trans hm)
  obtain ⟨⟨tag, p⟩, hi, htag⟩ := (Option.any_eq_true _ _).mp hhalted
  obtain ⟨rfl, -⟩ : tag = .runCanary 0 fiveTargets { version := "2.0.0" } ∧ _ := by
    simpa using htag
  simp only [Bool.and_eq_true, decide_eq_true_eq, List.any_eq_true] at hrolled
  obtain ⟨hphase, hstatus, hcalled⟩ := hrolled
  obtain ⟨m₁, m₂, -, -, -, hpublished, hstops⟩ := canary_blast_radius h₁ h₂ hi
  have hle := (hstops hcalled (by simp [hstatus])).2
  have hend : phaseEnd fiveTargets.length 2 = 3 := by decide +kernel
  rw [hphase, hend] at hle
  exact ⟨c₂, h, m₂, hle, hpublished⟩

end ControlPlane

end OtaRobot
