import OtaRobot.Library.Erasure

/-!
# Pools at rest

A pool is at rest when all its threads have run to their ends.  Threads end by themselves: a
procedure is a well-founded tree, and an operation is always executed.

What a thread has begun and still has to finish is a debt.  A state of the store that only an
indebted thread can leave behind is over when the pool is at rest.

Main results:

- Theorem {lit}`Machine.exists_rest`: every pool can come to rest.
- Theorem {lit}`Machine.step_indebted`: somebody owes the end of what has been begun.
-/

open Transition

namespace Machine

variable {Op : Type} {Ret : Op → Type} {σ τ χ γ : Type} {M : Machine Ret σ τ χ}
  {c c' : Config Ret σ τ}

/-- Every thread has run to its end. -/
def Config.AtRest (c : Config Ret σ τ) : Prop :=
  ∀ i tag p, c.thread i = some (tag, p) → p = .done ()

/-- The executable form. -/
def Config.atRest (c : Config Ret σ τ) : Bool :=
  c.threads.rows.all fun t => isDone t.prog

theorem Config.atRest_spec (h : c.atRest = true) : c.AtRest := by
  intro i tag p hi
  obtain ⟨t, ht, heq⟩ := Option.map_eq_some_iff.mp hi
  have hdone := List.all_eq_true.mp h t (Table.mem_of_find? ht)
  have hprog : t.prog = p := congrArg Prod.snd heq
  rw [hprog] at hdone
  cases p with
  | done a => rfl
  | call op k => simp [isDone] at hdone

/-- A thread can run to its end, and no other thread notices. -/
theorem exists_finished (x : χ) {i : Nat} {tag : τ} {p : Prog Ret Unit}
    (hi : c.thread i = some (tag, p)) :
    ∃ n c', run M.step c (List.replicate n (.step i x)) = some c' ∧
      c'.thread i = some (tag, .done ()) ∧ ∀ j, j ≠ i → c'.thread j = c.thread j := by
  induction p generalizing c with
  | done a => exact ⟨0, c, rfl, hi, fun _ _ => rfl⟩
  | call op k ih =>
      obtain ⟨m, hm, hs⟩ := exists_executed (M := M) x hi
      obtain ⟨n, c', hrun, hdone, hother⟩ := ih (M.exec c.store op x).1 (c := m)
        (by rw [hs.threads, if_pos rfl])
      refine ⟨n + 1, c', ?_, hdone, fun j hj => ?_⟩
      · rw [List.replicate_succ, run_cons hm, hrun]
      · rw [hother j hj, hs.threads, if_neg hj]

/-- Every pool can come to rest. -/
theorem exists_rest (M : Machine Ret σ τ χ) (c : Config Ret σ τ) (x : χ) :
    ∃ ls c', run M.step c ls = some c' ∧ (∀ l ∈ ls, ∃ i, l = .step i x) ∧ c'.AtRest := by
  have hlist : ∀ (ids : List Nat) (c : Config Ret σ τ),
      (∀ i tag p, c.thread i = some (tag, p) → i ∈ ids ∨ p = .done ()) →
      ∃ ls c', run M.step c ls = some c' ∧ (∀ l ∈ ls, ∃ i, l = .step i x) ∧ c'.AtRest := by
    intro ids
    induction ids with
    | nil =>
        intro c hc
        refine ⟨[], c, rfl, by simp, fun i tag p hi => ?_⟩
        rcases hc i tag p hi with hmem | hdone
        · simp at hmem
        · exact hdone
    | cons i ids ih =>
        intro c hc
        cases hi : c.thread i with
        | none =>
            apply ih
            intro j tag p hj
            rcases hc j tag p hj with hmem | hdone
            · rcases List.mem_cons.mp hmem with rfl | hmem
              · rw [hi] at hj
                cases hj
              · exact Or.inl hmem
            · exact Or.inr hdone
        | some t =>
            obtain ⟨n, m, hrun, hfinished, hother⟩ := exists_finished (M := M) x hi
            obtain ⟨ls, c', hrest, hsteps, hatRest⟩ := ih m (by
              intro j tag p hj
              by_cases hji : j = i
              · subst hji
                rw [hfinished] at hj
                exact Or.inr (congrArg Prod.snd (Option.some.inj hj)).symm
              · rw [hother j hji] at hj
                rcases hc j tag p hj with hmem | hdone
                · exact Or.inl ((List.mem_cons.mp hmem).resolve_left hji)
                · exact Or.inr hdone)
            refine ⟨List.replicate n (.step i x) ++ ls, c', run_trans hrun hrest, ?_, hatRest⟩
            intro l hl
            rcases List.mem_append.mp hl with hl | hl
            · exact ⟨i, List.eq_of_mem_replicate hl⟩
            · exact hsteps l hl
  apply hlist (c.threads.rows.map Thread.id) c
  intro i tag p hi
  obtain ⟨t, ht, -⟩ := Option.map_eq_some_iff.mp hi
  exact Or.inl (List.mem_map.mpr ⟨t, Table.mem_of_find? ht, Table.find?_key ht⟩)

/-! ## Debts -/

/-- While the store is in a state of {lit}`Bad`, the automaton of some thread says it owes. -/
def Config.Indebted (c : Config Ret σ τ) (A : τ → Prog.Discipline Ret γ) (g₀ : τ → γ)
    (Bad : σ → Prop) (Owes : γ → Prop) : Prop :=
  Bad c.store → ∃ i tag p, c.thread i = some (tag, p) ∧ Owes (ghost (A tag) (g₀ tag) i c.trace)

/-- An operation after which the store is bad leaves its thread indebted, or the store was bad
before and its thread did not owe. -/
theorem step_indebted {A : τ → Prog.Discipline Ret γ} {g₀ : τ → γ} {Bad : σ → Prop}
    {Owes : γ → Prop} {l : Label τ χ} (h : M.step c l = some c')
    (haccept : ∀ s tag s', M.accept s tag = some s' → Bad s' → Bad s)
    (hexec : ∀ i x tag op k r, M.Executed c c' i x tag op k r → Bad c'.store →
      Owes ((A tag).next (ghost (A tag) (g₀ tag) i c.trace) op r) ∨
        Bad c.store ∧ ¬ Owes (ghost (A tag) (g₀ tag) i c.trace))
    (hc : c.Indebted A g₀ Bad Owes) : c'.Indebted A g₀ Bad Owes := by
  intro hbad
  obtain ⟨id, tag', -, hs⟩ | ⟨id, x, tag', op, k, r, -, hs⟩ := step_cases h
  · obtain ⟨j, tag, p, hj, howes⟩ := hc (haccept _ _ _ hs.accepted hbad)
    have hne : j ≠ id := by
      rintro rfl
      simp [hs.fresh] at hj
    exact ⟨j, tag, p, by rw [hs.threads, if_neg hne, hj], by rw [hs.trace]; exact howes⟩
  · rcases hexec id x tag' op k r hs hbad with howes | ⟨hbefore, hnot⟩
    · exact ⟨id, tag', k r, by rw [hs.threads, if_pos rfl],
        by rw [hs.trace, ghost_append_self]; exact howes⟩
    · obtain ⟨j, tag, p, hj, howes⟩ := hc hbefore
      have hne : j ≠ id := by
        rintro rfl
        obtain ⟨rfl, -⟩ : tag' = tag ∧ _ := by simpa [hs.before] using hj
        exact hnot howes
      exact ⟨j, tag, p, by rw [hs.threads, if_neg hne, hj],
        by rw [hs.trace, ghost_append_ne _ _ _ (Ne.symm hne)]; exact howes⟩

/-- At rest nobody owes, if the procedures end without debts. -/
theorem Config.Indebted.not_bad {A : τ → Prog.Discipline Ret γ} {post : τ → γ → Prop} {g₀ : τ → γ}
    {Bad : σ → Prop} {Owes : γ → Prop} (hc : c.Indebted A g₀ Bad Owes)
    (hdisciplined : Disciplined A post g₀ c) (hpost : ∀ tag g, post tag g → ¬ Owes g)
    (hrest : c.AtRest) : ¬ Bad c.store := by
  intro hbad
  obtain ⟨i, tag, p, hi, howes⟩ := hc hbad
  obtain rfl := hrest i tag p hi
  exact hpost tag _ (hdisciplined.obeys i tag _ hi) howes

end Machine
