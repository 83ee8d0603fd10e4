import OtaRobot.Agent.Switching

/-!
# The last rollback and the version of the robot

{lit}`handleRollback` carries on when the state machine rejects its triggers, so it
switches the version while an update is still under way; the update switches it
again when it completes.  The version is that of the last command when no other
handler can still switch to another one at the moment the rollback switches.

Main results:

- Theorem {lit}`switching_step`: what a step keeps before and after the last switch.
- Theorem {lit}`rollback_final`: when the robot runs the version of its last rollback.
- Theorem {lit}`rollback_not_final`: a run in which an older update has the last word.
-/

namespace OtaRobot.Agent

open Prog Transition

/-! ## Switches to another version -/

/-- The operation switches to a version other than {lit}`version`. -/
def Op.SwitchesElsewhere (version : String) (op : Op) : Prop :=
  ∃ other, op = .setCurrentVersion other ∧ other ≠ version

/-- On some answers the rest of the handler switches to another version. -/
def MaySwitch (version : String) (q : Handler Unit) : Prop :=
  Pending (fun _ _ => True) (fun _ => False) (Op.SwitchesElsewhere version) q

/-- A handler that has switched does not switch again. -/
theorem not_maySwitch_of_switched {version : String} {q : Handler Unit}
    {post : Bool → Unit → Prop} (h : Obeys (switchDiscipline version) post true q)
    (other : String) : ¬ MaySwitch other q := by
  apply Obeys.not_pending (G := fun switched => switched = true) ?_ ?_ ?_ h rfl
  · exact fun _ _ _ _ => trivial
  · intro switched op r hswitched _ _
    show (switched || op.isSwitch) = true
    rw [hswitched, Bool.true_or]
  · intro switched op hswitched hallowed htarget
    obtain ⟨v, hv, -⟩ := htarget
    have hfalse : switched = false := (hallowed.1 v hv).2
    rw [hswitched] at hfalse
    exact Bool.false_ne_true hfalse.symm

/-- What is local does not switch. -/
theorem Local.not_maySwitch {q : Handler Unit} (h : Local q) (version : String) :
    ¬ MaySwitch version q := by
  apply Always.not_pending h
  intro op hlocal htarget
  obtain ⟨v, rfl, -⟩ := htarget
  simp [Op.isLocal] at hlocal

/-! ## Commands -/

/-- The goroutine handles an update or a rollback. -/
def Routine.isHandler : Routine → Bool
  | .command cmd => cmd.action = "update" || cmd.action = "rollback"
  | .heartbeat => false

/-- The step receives no update and no rollback. -/
def NoCommand : Label → Prop
  | .spawn _ t => t.isHandler = false
  | .step _ _ => True

/-- The other goroutines work on the settings and the heartbeat. -/
theorem body_local (p : Process) {t : Routine} (h : t.isHandler = false) : Local (body p t) := by
  cases t with
  | heartbeat => exact heartbeat_local p
  | command cmd =>
      obtain ⟨hupdate, hrollback⟩ : ¬ cmd.action = "update" ∧ ¬ cmd.action = "rollback" := by
        simpa [Routine.isHandler] using h
      show Local (messagePubHandler p cmd)
      rw [messagePubHandler, if_neg hupdate, if_neg hrollback]
      split
      · exact applySettings_local cmd
      · exact pure_local _

/-- The goroutine of a rollback. -/
theorem body_rollback (p : Process) {cmd : Command} (h : cmd.action = "rollback") :
    body p (.command cmd) = handleRollback cmd := by
  show messagePubHandler p cmd = handleRollback cmd
  rw [messagePubHandler, if_neg (by rw [h]; decide), if_pos h]

/-! ## The last switch -/

/-- Goroutine {lit}`i` has published its report {lit}`(100, 'success')`. -/
def Acknowledged (i : Nat) (c : Config) : Prop :=
  ∃ e ∈ c.trace, e.thread = i ∧ e.op.isSuccess = true

/-- The rollback in goroutine {lit}`i` has yet to switch the version. -/
structure BeforeSwitch (i : Nat) (version : String) (c : Config) : Prop where
  running : ∃ t q, t.isHandler = true ∧ c.thread i = some (t, q) ∧
    Obeys (switchDiscipline version) (fun switched _ => switched = true) false q
  unacknowledged : ¬ Acknowledged i c

/-- No handler can switch elsewhere any more. -/
structure AfterSwitch (version : String) (c : Config) : Prop where
  current : c.store.currentVersion = version
  settled : c.AllThreads fun _ q => ¬ MaySwitch version q

/-- The rollback has switched, or is about to. -/
def Switching (i : Nat) (version : String) (c : Config) : Prop :=
  BeforeSwitch i version c ∨ AfterSwitch version c

/-- When goroutine {lit}`i` switches the version, no other handler can still switch to
another one. -/
def Undisturbed (i : Nat) (version : String) (c : Config) (l : Label) : Prop :=
  ∀ x t v k, l = .step i x → c.thread i = some (t, .call (.setCurrentVersion v) k) →
    ∀ j t' q, j ≠ i → c.thread j = some (t', q) → ¬ MaySwitch version q

section

variable {p : Process} {c c' : Config} {i : Nat} {version : String}

/-- One operation sets the version, the others do not. -/
theorem exec_currentVersion (r : Robot) (op : Op) (x : Choice) :
    (exec r op x).2.currentVersion = r.currentVersion ∨
      op = .setCurrentVersion (exec r op x).2.currentVersion := by
  cases op with
  | setCurrentVersion v => exact Or.inr rfl
  | _ => exact Or.inl rfl

/-- After the last switch every further switch is to the same version. -/
theorem afterSwitch_step {l : Label} (hc : AfterSwitch version c) (hl : NoCommand l)
    (h : step p c l = some c') : AfterSwitch version c' := by
  constructor
  · obtain ⟨j, t, -, hs⟩ | ⟨j, x, t, op, k, r, -, hs⟩ := Machine.step_cases h
    · have hstore : c.store = c'.store := Option.some.inj hs.accepted
      rw [← hstore]
      exact hc.current
    · have heffect : exec c.store op x = (r, c'.store) := hs.effect
      have hstore : c'.store = (exec c.store op x).2 := by rw [heffect]
      rw [hstore]
      rcases exec_currentVersion c.store op x with hsame | hswitch
      · rw [hsame]
        exact hc.current
      · by_contra helse
        exact hc.settled j t _ hs.before (Or.inl ⟨_, hswitch, helse⟩)
  · apply Machine.step_allThreads h hc.settled
    · intro j t hlabel _
      rw [hlabel] at hl
      exact (body_local p hl).not_maySwitch version
    · intro j x t op k r _ _ hbefore hafter
      exact hbefore (Pending.of_answer id trivial hafter)

/-- The switch of the rollback itself. -/
theorem afterSwitch_of_executed {x : Choice} {t : Routine}
    {k : (Op.setCurrentVersion version).Ret → Handler Unit}
    {r : (Op.setCurrentVersion version).Ret}
    (hs : (machine p).Executed c c' i x t (.setCurrentVersion version) k r)
    (hrest : Obeys (switchDiscipline version) (fun switched _ => switched = true) true (k r))
    (hund : Undisturbed i version c (.step i x)) : AfterSwitch version c' := by
  constructor
  · have heffect : exec c.store (.setCurrentVersion version) x = (r, c'.store) := hs.effect
    have hstore : c'.store = { c.store with currentVersion := version } :=
      (congrArg Prod.snd heffect).symm
    rw [hstore]
  · intro j t' q hj
    rw [hs.threads] at hj
    by_cases hji : j = i
    · rw [if_pos hji] at hj
      obtain ⟨-, rfl⟩ : t = t' ∧ k r = q := by simpa using hj
      exact not_maySwitch_of_switched hrest version
    · rw [if_neg hji] at hj
      exact hund x t version k rfl hs.before j t' q hji hj

/-- A success is reported by a handler. -/
theorem acknowledged_executed {x : Choice} {j : Nat} {t : Routine} {op : Op}
    {k : op.Ret → Handler Unit} {r : op.Ret} (hs : (machine p).Executed c c' j x t op k r)
    (h : Acknowledged i c') : Acknowledged i c ∨ (j = i ∧ op.isSuccess = true) := by
  obtain ⟨e, he, hthread, hsuccess⟩ := h
  rw [hs.trace, List.mem_append, List.mem_singleton] at he
  rcases he with he | rfl
  · exact Or.inl ⟨e, he, hthread, hsuccess⟩
  · exact Or.inr ⟨hthread, hsuccess⟩

/-- An undisturbed step keeps the version of the rollback. -/
theorem switching_step {l : Label} (hc : Switching i version c) (hl : NoCommand l)
    (hund : Undisturbed i version c l) (h : step p c l = some c') :
    Switching i version c' := by
  rcases hc with hc | hc
  · obtain ⟨t, q, ht, hi, hobeys⟩ := hc.running
    obtain ⟨j, t', -, hs⟩ | ⟨j, x, t', op, k, r, hlabel, hs⟩ := Machine.step_cases h
    · left
      have hne : i ≠ j := by
        intro hij
        rw [hij, hs.fresh] at hi
        cases hi
      refine ⟨⟨t, q, ht, by rw [hs.threads, if_neg hne]; exact hi, hobeys⟩, ?_⟩
      intro hack
      rw [Acknowledged, hs.trace] at hack
      exact hc.unacknowledged hack
    · by_cases hij : j = i
      · subst hij
        obtain ⟨rfl, rfl⟩ : t' = t ∧ Prog.call op k = q := by simpa [hs.before] using hi
        obtain ⟨⟨hswitches, hsuccess⟩, hnext⟩ := hobeys
        have hrest := hnext r trivial
        cases hswitch : op.isSwitch with
        | false =>
            left
            constructor
            · refine ⟨t', k r, ht, by rw [hs.threads, if_pos rfl], ?_⟩
              exact Obeys.of_eq (by show false = (false || op.isSwitch); rw [hswitch]; rfl) hrest
            · intro hack
              rcases acknowledged_executed hs hack with hbefore | ⟨-, hnow⟩
              · exact hc.unacknowledged hbefore
              · exact Bool.false_ne_true (hsuccess hnow)
        | true =>
            right
            obtain ⟨v, rfl⟩ : ∃ v, op = .setCurrentVersion v := by
              cases op <;> first | exact ⟨_, rfl⟩ | simp [Op.isSwitch] at hswitch
            obtain rfl : v = version := (hswitches v rfl).1
            rw [hlabel] at hund
            exact afterSwitch_of_executed hs hrest hund
      · left
        have hne : i ≠ j := fun hji => hij hji.symm
        refine ⟨⟨t, q, ht, by rw [hs.threads, if_neg hne]; exact hi, hobeys⟩, ?_⟩
        intro hack
        rcases acknowledged_executed hs hack with hbefore | ⟨hji, -⟩
        · exact hc.unacknowledged hbefore
        · exact hij hji
  · exact Or.inr (afterSwitch_step hc hl h)

/-- A rollback that has just been received has yet to switch. -/
theorem switching_spawn {cmd : Command} (hc : PipelineInvariant c)
    (hrollback : cmd.action = "rollback") (h : step p c (.spawn i (.command cmd)) = some c') :
    Switching i cmd.version c' := by
  obtain ⟨j, t, hl, hs⟩ | ⟨j, x, t, op, k, r, hl, -⟩ := Machine.step_cases h
  · obtain ⟨rfl, rfl⟩ : i = j ∧ Routine.command cmd = t := by simpa using hl
    left
    constructor
    · refine ⟨.command cmd, _, by simp [Routine.isHandler, hrollback],
        by rw [hs.threads, if_pos rfl], ?_⟩
      rw [show (machine p).body (.command cmd) = handleRollback cmd from body_rollback p hrollback]
      exact handleRollback_switches cmd
    · intro hack
      obtain ⟨e, he, hthread, -⟩ := hack
      rw [hs.trace] at he
      apply hc.disciplined.closed e he
      rw [hthread]
      exact hs.fresh
  · simp at hl

end

/-! ## The version after a rollback -/

/-- Let the last command a robot receives be a rollback, and let no other handler be able
to switch to another version when the rollback switches.  Then the robot runs the
version of the rollback when all handlers have finished, and from the rollback's
success report on. -/
theorem rollback_final {p : Process} {r : Robot} {ls₀ ls : List Label} {c : Config} {i : Nat}
    {cmd : Command}
    (h : run (step p) (start p r) (ls₀ ++ .spawn i (.command cmd) :: ls) = some c)
    (hrollback : cmd.action = "rollback") (hlast : ∀ l ∈ ls, NoCommand l)
    (hund : EachStep (step p) (Undisturbed i cmd.version) (start p r)
      (ls₀ ++ .spawn i (.command cmd) :: ls)) :
    ((∀ j t q, t.isHandler = true → c.thread j = some (t, q) → q = .done ()) →
      c.store.currentVersion = cmd.version) ∧
      (Acknowledged i c → c.store.currentVersion = cmd.version) := by
  obtain ⟨c₀, h₀, hrest⟩ := run_append_eq_some h
  obtain ⟨c₁, hspawn, hrun⟩ := run_cons_eq_some hrest
  have hstart : Switching i cmd.version c₁ :=
    switching_spawn (pipelineInvariant_run h₀) hrollback hspawn
  have htail : EachStep (step p) (fun c l => NoCommand l ∧ Undisturbed i cmd.version c l) c₁ ls :=
    (EachStep.of_forall_mem hlast).and ((hund.suffix h₀).2 c₁ hspawn)
  have hend : Switching i cmd.version c := by
    apply run_invariant_of_eachStep ?_ hstart htail hrun
    intro m l m' hm hl hstep
    exact switching_step hm hl.1 hl.2 hstep
  rcases hend with hbefore | hafter
  · constructor
    · intro hdone
      obtain ⟨t, q, ht, hi, hobeys⟩ := hbefore.running
      have hq : q = .done () := hdone i t q ht hi
      rw [hq] at hobeys
      exact absurd hobeys Bool.false_ne_true
    · intro hack
      exact absurd hack hbefore.unacknowledged
  · exact ⟨fun _ => hafter.current, fun _ => hafter.current⟩

/-- The other goroutines have run to their end when goroutine {lit}`i` switches. -/
def undisturbed (i : Nat) (c : Config) : Label → Bool
  | .spawn _ _ => true
  | .step _ _ =>
      match c.thread i with
      | some (_, .call op _) => !op.isSwitch || c.restDone i
      | _ => true

theorem undisturbed_spec {i : Nat} {version : String} {c : Config} {l : Label}
    (h : undisturbed i c l = true) : Undisturbed i version c l := by
  intro x t v k hl hi j t' q hne hj
  have hdone : c.restDone i = true := by simpa [undisturbed, hl, hi, Op.isSwitch] using h
  rw [Machine.Config.restDone_spec hdone hj hne]
  exact not_pending_done _ _ _ _

/-- A rollback after an update that has completed. -/
theorem rollback_final_after_update :
    ∃ c, run (step (robotProcess "r1")) (start (robotProcess "r1") (robot "r1"))
      (receive 0 (updateTo "2.0.0") 27 ++ receive 1 (rollbackTo "1.0.0") 9) = some c ∧
      c.store.currentVersion = "1.0.0" := by
  obtain ⟨c, h, hack⟩ := endsWith_eq_true
    (show endsWith (step (robotProcess "r1")) (start (robotProcess "r1") (robot "r1"))
      (receive 0 (updateTo "2.0.0") 27 ++ receive 1 (rollbackTo "1.0.0") 9)
      (fun c => c.trace.any fun e => e.thread = 1 && e.op.isSuccess) = true by decide +kernel)
  have hund : eachStep (step (robotProcess "r1")) (undisturbed 1)
      (start (robotProcess "r1") (robot "r1"))
      (receive 0 (updateTo "2.0.0") 27 ++ receive 1 (rollbackTo "1.0.0") 9) = true := by
    decide +kernel
  have hacknowledged : Acknowledged 1 c := by
    obtain ⟨e, he, hsuccess⟩ := List.any_eq_true.mp hack
    simp only [Bool.and_eq_true, decide_eq_true_eq] at hsuccess
    exact ⟨e, he, hsuccess.1, hsuccess.2⟩
  have hnone : ∀ l ∈ resume 1 9, NoCommand l := by
    intro l hl
    obtain rfl := List.eq_of_mem_replicate hl
    trivial
  exact ⟨c, h, (rollback_final h rfl hnone
    (EachStep.of_eachStep (fun _ _ => undisturbed_spec) hund)).2 hacknowledged⟩

/-- The rollback arrives while the update is installed.  Both its triggers are rejected,
it switches to its version all the same and reports success; the update completes
afterwards. -/
theorem rollback_not_final :
    ∃ c, run (step (robotProcess "r1")) (start (robotProcess "r1") (robot "r1"))
      (receive 0 (updateTo "2.0.0") 10 ++ receive 1 (rollbackTo "1.0.0") 9 ++ resume 0 17) =
        some c ∧ (∀ j t q, c.thread j = some (t, q) → q = .done ()) ∧ Acknowledged 1 c ∧
      c.store.currentVersion = "2.0.0" := by
  obtain ⟨c, h, hend⟩ := endsWith_eq_true
    (show endsWith (step (robotProcess "r1")) (start (robotProcess "r1") (robot "r1"))
      (receive 0 (updateTo "2.0.0") 10 ++ receive 1 (rollbackTo "1.0.0") 9 ++ resume 0 17)
      (fun c => c.restDone 2 && ((c.trace.any fun e => e.thread = 1 && e.op.isSuccess) &&
        ((c.thread 2).isNone && c.store.currentVersion = "2.0.0"))) = true by decide +kernel)
  simp only [Bool.and_eq_true, decide_eq_true_eq, List.any_eq_true, Option.isNone_iff_eq_none]
    at hend
  obtain ⟨hdone, ⟨e, he, hthread, hsuccess⟩, hfresh, hversion⟩ := hend
  refine ⟨c, h, ?_, ⟨e, he, hthread, hsuccess⟩, hversion⟩
  intro j t q hj
  apply Machine.Config.restDone_spec hdone hj
  intro hj2
  rw [hj2, hfresh] at hj
  cases hj

end OtaRobot.Agent
