import OtaRobot.Library.Pool

/-!
# Triples

A procedure that runs alone, one operation after the other, has pre- and
postconditions.  An assertion is about the state the operations are executed
against; a postcondition may also mention the value the procedure returns.  Every
procedure returns, so a triple is about total correctness.

A procedure that runs alone in a pool goes through the same operations: no other
thread executes one in between.

Main results:

- Theorem {lit}`Prog.Triple.bind`: the rule for sequences.
- Theorem {lit}`Machine.run_alone`: a thread that runs alone in a pool ends where its
  program does.
-/

namespace Prog

variable {Op : Type} {Ret : Op → Type} {α β σ : Type}

/-- From every state in {lit}`P` the procedure ends in {lit}`Q` of what it returns. -/
structure Triple (exec : σ → (op : Op) → Ret op × σ) (P : σ → Prop) (p : Prog Ret α)
    (Q : α → σ → Prop) : Prop where
  ends : ∀ s, P s → Q (p.run exec s).1 (p.run exec s).2

namespace Triple

variable {exec : σ → (op : Op) → Ret op × σ} {P P' : σ → Prop} {p : Prog Ret α}

/-- The rule for a result. -/
theorem pure {Q : α → σ → Prop} (a : α) (h : ∀ s, P s → Q a s) :
    Triple exec P (Pure.pure a : Prog Ret α) Q :=
  ⟨h⟩

/-- The rule for one operation. -/
theorem perform {op : Op} {Q : Ret op → σ → Prop}
    (h : ∀ s, P s → Q (exec s op).1 (exec s op).2) :
    Triple exec P (Prog.perform op : Prog Ret (Ret op)) Q :=
  ⟨h⟩

/-- The rule for sequences. -/
theorem bind {R : α → σ → Prop} {f : α → Prog Ret β} {Q : β → σ → Prop}
    (hp : Triple exec P p R) (hf : ∀ a, Triple exec (R a) (f a) Q) :
    Triple exec P (p >>= f) Q := by
  constructor
  intro s hs
  rw [run_bind]
  exact (hf _).ends _ (hp.ends s hs)

end Triple

end Prog

/-! ## A thread that runs alone -/

namespace Machine

open Prog Transition

variable {Op : Type} {Ret : Op → Type} {σ τ χ : Type}

/-- One operation of a thread that runs alone, with the next of the given choices. -/
def execAlone (M : Machine Ret σ τ χ) (choice : Nat → χ) (s : σ × Nat) (op : Op) :
    Ret op × (σ × Nat) :=
  ((M.exec s.1 op (choice s.2)).1, ((M.exec s.1 op (choice s.2)).2, s.2 + 1))

/-- A thread with something left to run can execute its next operation. -/
theorem step_call {M : Machine Ret σ τ χ} {c : Config Ret σ τ} {id : Nat} {x : χ} {tag : τ}
    {op : Op} {k : Ret op → Prog Ret Unit} (hc : c.thread id = some (tag, .call op k)) :
    ∃ c', M.step c (.step id x) = some c' ∧
      M.Executed c c' id x tag op k (M.exec c.store op x).1 := by
  obtain ⟨t, hfind, ht⟩ : ∃ t, c.threads.find? id = some t ∧
      (t.tag, t.prog) = (tag, Prog.call op k) := by
    simpa [Config.thread] using hc
  have hprog : t.prog = .call op k := congrArg Prod.snd ht
  obtain ⟨c', hstep⟩ : ∃ c', M.step c (.step id x) = some c' := by
    simp [step, hfind, hprog, stepThread]
  obtain ⟨id', tag', hl, -⟩ | ⟨id', x', tag', op', k', r', hl, hs⟩ := step_cases hstep
  · cases hl
  · cases hl
    have hbefore := hs.before.symm.trans hc
    cases hbefore
    have hr : r' = (M.exec c.store op x).1 := (congrArg Prod.fst hs.effect).symm
    exact ⟨c', hstep, hr ▸ hs⟩

/-- The run in which only this thread executes operations ends with the thread at its
end, in the store in which its program ends. -/
theorem run_alone {M : Machine Ret σ τ χ} (choice : Nat → χ) {id : Nat} {tag : τ}
    {p : Prog Ret Unit} {c : Config Ret σ τ} (n : Nat) (hc : c.thread id = some (tag, p))
    (log : List (Answered Ret)) :
    ∃ m c' more, run M.step c ((List.range' n m).map fun k => .step id (choice k)) = some c' ∧
      c'.thread id = some (tag, .done ()) ∧
      (p.run (logged (M.execAlone choice)) ((c.store, n), log)).2 =
        ((c'.store, n + m), log ++ more) ∧
      c'.trace = c.trace ++ more.map fun e => ⟨id, e.op, e.ret⟩ := by
  induction p generalizing c n log with
  | done a =>
      refine ⟨0, c, [], rfl, hc, ?_, ?_⟩
      · simp
      · simp
  | call op k ih =>
      obtain ⟨c₁, hstep, hs⟩ := step_call (M := M) (x := choice n) hc
      have hafter : c₁.thread id = some (tag, k (M.exec c.store op (choice n)).1) := by
        rw [hs.threads, if_pos rfl]
      have hstore : (M.exec c.store op (choice n)).2 = c₁.store := congrArg Prod.snd hs.effect
      obtain ⟨m, c', more, hrun, hdone, hend, htrace⟩ :=
        ih (M.exec c.store op (choice n)).1 (n + 1) hafter
          (log ++ [⟨op, (M.exec c.store op (choice n)).1⟩])
      refine ⟨m + 1, c', ⟨op, (M.exec c.store op (choice n)).1⟩ :: more, ?_, hdone, ?_, ?_⟩
      · rw [List.range'_succ, List.map_cons, run_cons hstep]
        exact hrun
      · rw [← hstore] at hend
        rw [run_call]
        refine hend.trans ?_
        simp [Nat.add_comm, Nat.add_left_comm]
      · rw [htrace, hs.trace]
        simp

end Machine
