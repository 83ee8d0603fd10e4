import OtaRobot.Library.Pool

/-!
# Runs without their silent steps

Some steps of a system are silent: another system that is related to it does not take them.  When
a silent step keeps the relation, and each of the other steps is one of the other system too, a
run without its silent steps is a run of the other system.

Main results:

- Theorem {lit}`Transition.run_erase`: the run without its silent steps.
- Theorems {lit}`Machine.exists_spawned` and {lit}`Machine.exists_executed`: when a machine can take
  a step.
-/

namespace Transition

variable {σ τ α : Type} {step : σ → α → Option σ} {step' : τ → α → Option τ}

/-- The labels of a run without those of its silent steps. -/
def erase (step : σ → α → Option σ) (silent : σ → α → Bool) : σ → List α → List α
  | _, [] => []
  | s, a :: as =>
      match step s a with
      | none => []
      | some s' => if silent s a then erase step silent s' as else a :: erase step silent s' as

/-- Silent steps keep the relation, and the others are steps of both systems. -/
theorem run_erase {R : σ → τ → Prop} {P : σ → α → Prop} {silent : σ → α → Bool}
    (hsilent : ∀ s t a s', R s t → P s a → silent s a = true → step s a = some s' → R s' t)
    (hvisible : ∀ s t a s', R s t → P s a → silent s a = false → step s a = some s' →
      ∃ t', step' t a = some t' ∧ R s' t')
    {s s' : σ} {t : τ} {as : List α} (hR : R s t) (hP : EachStep step P s as)
    (hrun : run step s as = some s') :
    ∃ t', run step' t (erase step silent s as) = some t' ∧ R s' t' := by
  induction as generalizing s t with
  | nil =>
      obtain rfl : s = s' := by simpa using hrun
      exact ⟨t, rfl, hR⟩
  | cons a as ih =>
      obtain ⟨m, hstep, hrest⟩ := run_cons_eq_some hrun
      have hnext : EachStep step P m as := hP.2 m hstep
      rw [erase, hstep]
      dsimp only
      by_cases ha : silent s a = true
      · rw [if_pos ha]
        exact ih (hsilent s t a m hR hP.1 ha hstep) hnext hrest
      · rw [if_neg ha]
        obtain ⟨t₁, ht₁, hR₁⟩ := hvisible s t a m hR hP.1 (by simpa using ha) hstep
        obtain ⟨t', ht', hR'⟩ := ih hR₁ hnext hrest
        exact ⟨t', by rw [run_cons ht₁, ht'], hR'⟩

end Transition

namespace Machine

variable {Op : Type} {Ret : Op → Type} {σ τ χ : Type} {M : Machine Ret σ τ χ}
  {c : Config Ret σ τ} {i : Nat} {tag : τ}

/-- A thread that is accepted and has a new number can be started. -/
theorem exists_spawned {s' : σ} (hfresh : c.thread i = none)
    (haccept : M.accept c.store tag = some s') :
    ∃ c', M.step c (.spawn i tag) = some c' ∧ M.Spawned c c' i tag ∧ c'.store = s' := by
  have hfind : c.threads.find? i = none := by
    simpa [Config.thread] using hfresh
  obtain ⟨threads, hinsert⟩ : ∃ threads, c.threads.insert ⟨i, tag, M.body tag⟩ = some threads :=
    Table.insert_eq_some hfind
  have hstep : M.step c (.spawn i tag) = some { c with store := s', threads } := by
    simp only [step, haccept, hinsert]
  refine ⟨_, hstep, ?_, rfl⟩
  obtain ⟨j, tag', hl, hs⟩ | ⟨j, x, tag', op, k, r, hl, -⟩ := step_cases hstep
  · obtain ⟨rfl, rfl⟩ := Label.spawn.inj hl
    exact hs
  · cases hl

/-- A thread that has an operation left can execute it. -/
theorem exists_executed {op : Op} {k : Ret op → Prog Ret Unit} (x : χ)
    (hthread : c.thread i = some (tag, .call op k)) :
    ∃ c', M.step c (.step i x) = some c' ∧
      M.Executed c c' i x tag op k (M.exec c.store op x).1 := by
  obtain ⟨t, ht, heq⟩ := Option.map_eq_some_iff.mp hthread
  have hprog : t.prog = .call op k := congrArg Prod.snd heq
  obtain ⟨c', hstep⟩ : ∃ c', M.step c (.step i x) = some c' := by
    simp only [step, ht, hprog, stepThread]
    exact ⟨_, rfl⟩
  refine ⟨c', hstep, ?_⟩
  obtain ⟨j, tag', hl, -⟩ | ⟨j, y, tag', op', k', r, hl, hs⟩ := step_cases hstep
  · cases hl
  · obtain ⟨rfl, rfl⟩ := Label.step.inj hl
    have hpair := Option.some.inj (hthread.symm.trans hs.before)
    have htag : tag = tag' := congrArg Prod.fst hpair
    have hcall : Prog.call op k = .call op' k' := congrArg Prod.snd hpair
    subst htag
    cases hcall
    have hr : r = (M.exec c.store op x).1 := by rw [hs.effect]
    exact hr ▸ hs

end Machine
