import Mathlib.Data.List.Basic
import Mathlib.Tactic.Common

/-!
# Labelled runs of a partial step function

A system is given by a partial step function: {lit}`step s a = some s'` says that
label {lit}`a` is enabled in {lit}`s` and leads to {lit}`s'`.  A run is the label
list it executes.  This file fixes the vocabulary in which properties of runs are
stated and the induction rules by which they are proved.

Main results:

- Theorem {lit}`run_invariant`: an inductive invariant holds after every run.
- Theorem {lit}`run_invariant_of_eachStep`: the same, when every step of the run
  meets a side condition on the state before it.
- Theorem {lit}`everyState_iff_eachStep`: if a step keeps a property exactly when
  the side condition holds before it, then a run keeps the property throughout
  exactly when each of its steps meets the side condition.
-/

namespace Transition

variable {σ α : Type} (step : σ → α → Option σ)

/-! ## Runs -/

/-- Execute a label list; {lean}`none` as soon as one label is not enabled. -/
def run : σ → List α → Option σ
  | s, [] => some s
  | s, a :: as =>
      match step s a with
      | none => none
      | some s' => run s' as

/-- The test {lit}`p` passes in the state the run ends in. -/
def endsWith (s : σ) (as : List α) (p : σ → Bool) : Bool :=
  match run step s as with
  | none => false
  | some s' => p s'

variable {step}

@[simp]
theorem run_nil (s : σ) : run step s [] = some s :=
  rfl

/-- The first step of a run. -/
theorem run_cons {s s' : σ} {a : α} {as : List α} (h : step s a = some s') :
    run step s (a :: as) = run step s' as := by
  simp [run, h]

/-- A run of a nonempty list starts with one step. -/
theorem run_cons_eq_some {s t : σ} {a : α} {as : List α}
    (h : run step s (a :: as) = some t) :
    ∃ s', step s a = some s' ∧ run step s' as = some t := by
  cases hstep : step s a with
  | none => simp [run, hstep] at h
  | some s' => exact ⟨s', rfl, by simpa [run, hstep] using h⟩

/-- One run after the other. -/
theorem run_append (s : σ) (as bs : List α) :
    run step s (as ++ bs) = (run step s as).bind fun s' => run step s' bs := by
  induction as generalizing s with
  | nil => simp
  | cons a as ih =>
      cases hstep : step s a with
      | none => simp [run, hstep]
      | some s' => simpa [run, hstep] using ih s'

/-- A run of a concatenation passes through the state between the two parts. -/
theorem run_append_eq_some {s t : σ} {as bs : List α}
    (h : run step s (as ++ bs) = some t) :
    ∃ m, run step s as = some m ∧ run step m bs = some t := by
  rw [run_append, Option.bind_eq_some_iff] at h
  exact h

/-- One run after the other, when both are possible. -/
theorem run_trans {s m t : σ} {as bs : List α}
    (h₁ : run step s as = some m) (h₂ : run step m bs = some t) :
    run step s (as ++ bs) = some t := by
  rw [run_append, h₁]
  exact h₂

/-- The executable form implies that there is such a run. -/
theorem endsWith_eq_true {s : σ} {as : List α} {p : σ → Bool}
    (h : endsWith step s as p = true) :
    ∃ t, run step s as = some t ∧ p t = true := by
  cases hrun : run step s as with
  | none => simp [endsWith, hrun] at h
  | some t => exact ⟨t, rfl, by simpa [endsWith, hrun] using h⟩

/-! ## Side conditions and properties along a run -/

variable (step)

/-- Every step of the run meets {lit}`P`, a condition on the state before the step
and on its label. -/
def EachStep (P : σ → α → Prop) : σ → List α → Prop
  | _, [] => True
  | s, a :: as => P s a ∧ ∀ s', step s a = some s' → EachStep P s' as

/-- Every state the run passes through, the first and the last included,
satisfies {lit}`Q`. -/
def EveryState (Q : σ → Prop) : σ → List α → Prop
  | s, [] => Q s
  | s, a :: as => Q s ∧ ∀ s', step s a = some s' → EveryState Q s' as

/-- The executable form of {lean}`EachStep` for a Boolean side condition. -/
def eachStep (p : σ → α → Bool) : σ → List α → Bool
  | _, [] => true
  | s, a :: as =>
      p s a &&
        match step s a with
        | none => true
        | some s' => eachStep p s' as

variable {step}

theorem EachStep.of_eachStep {p : σ → α → Bool} {P : σ → α → Prop}
    (hP : ∀ s a, p s a = true → P s a) {s : σ} {as : List α}
    (h : eachStep step p s as = true) : EachStep step P s as := by
  induction as generalizing s with
  | nil => trivial
  | cons a as ih =>
      rw [eachStep, Bool.and_eq_true] at h
      refine ⟨hP s a h.1, fun s' hs' => ih ?_⟩
      simpa [hs'] using h.2

/-- Two conditions on the steps. -/
theorem EachStep.and {P P' : σ → α → Prop} {s : σ} {as : List α}
    (h : EachStep step P s as) (h' : EachStep step P' s as) :
    EachStep step (fun s a => P s a ∧ P' s a) s as := by
  induction as generalizing s with
  | nil => trivial
  | cons a as ih => exact ⟨⟨h.1, h'.1⟩, fun s' hs' => ih (h.2 s' hs') (h'.2 s' hs')⟩

/-- A condition on the labels alone. -/
theorem EachStep.of_forall_mem {P : α → Prop} {s : σ} {as : List α} (h : ∀ a ∈ as, P a) :
    EachStep step (fun _ a => P a) s as := by
  induction as generalizing s with
  | nil => trivial
  | cons a as ih =>
      refine ⟨h a List.mem_cons_self, fun s' _ => ih ?_⟩
      intro b hb
      exact h b (List.mem_cons_of_mem a hb)

/-- A condition that holds wherever the rest of the run leads to its last state. -/
theorem EachStep.of_run {P : σ → α → Prop} {s t : σ} {as : List α}
    (h : run step s as = some t) (hP : ∀ s a bs, run step s bs = some t → P s a) :
    EachStep step P s as := by
  induction as generalizing s with
  | nil => trivial
  | cons a as ih =>
      refine ⟨hP s a _ h, fun s' hs' => ih ?_⟩
      rwa [run_cons hs'] at h

/-- The condition holds at every split point of the run. -/
theorem EachStep.at {P : σ → α → Prop} {s m : σ} {pre suf : List α} {a : α}
    (h : EachStep step P s (pre ++ a :: suf)) (hrun : run step s pre = some m) :
    P m a := by
  induction pre generalizing s with
  | nil =>
      obtain rfl : s = m := by simpa using hrun
      exact h.1
  | cons b pre ih =>
      obtain ⟨s', hstep, hrest⟩ := run_cons_eq_some hrun
      exact ih (h.2 s' hstep) hrest

/-- A prefix of the run meets the condition as well. -/
theorem EachStep.of_append {P : σ → α → Prop} {s : σ} {pre suf : List α}
    (h : EachStep step P s (pre ++ suf)) : EachStep step P s pre := by
  induction pre generalizing s with
  | nil => trivial
  | cons b pre ih => exact ⟨h.1, fun s' hs' => ih (h.2 s' hs')⟩

/-- The part of the run after a prefix meets the condition as well. -/
theorem EachStep.suffix {P : σ → α → Prop} {s m : σ} {pre suf : List α}
    (h : EachStep step P s (pre ++ suf)) (hrun : run step s pre = some m) :
    EachStep step P m suf := by
  induction pre generalizing s with
  | nil =>
      obtain rfl : s = m := by simpa using hrun
      exact h
  | cons b pre ih =>
      obtain ⟨s', hstep, hrest⟩ := run_cons_eq_some hrun
      exact ih (h.2 s' hstep) hrest

/-- The first state is one of them. -/
theorem EveryState.head {Q : σ → Prop} {s : σ} {as : List α}
    (h : EveryState step Q s as) : Q s := by
  cases as with
  | nil => exact h
  | cons a as => exact h.1

/-- The last state is one of them. -/
theorem EveryState.last {Q : σ → Prop} {s t : σ} {as : List α} (h : EveryState step Q s as)
    (hrun : run step s as = some t) : Q t := by
  induction as generalizing s with
  | nil =>
      obtain rfl : s = t := by simpa using hrun
      exact h
  | cons a as ih =>
      obtain ⟨s', hstep, hrest⟩ := run_cons_eq_some hrun
      exact ih (h.2 s' hstep) hrest

/-! ## Remembering -/

/-- The step on states that remember whether the test {lit}`p` has passed in some
state so far. -/
def latched (step : σ → α → Option σ) (p : σ → Bool) (s : σ × Bool) (a : α) :
    Option (σ × Bool) :=
  (step s.1 a).map fun s' => (s', s.2 || p s')

/-- A step that remembers whether the test has held. -/
theorem latched_eq_some {p : σ → Bool} {s t : σ × Bool} {a : α} :
    latched step p s a = some t ↔ step s.1 a = some t.1 ∧ t.2 = (s.2 || p t.1) := by
  rw [latched, Option.map_eq_some_iff]
  constructor
  · rintro ⟨s', hs', rfl⟩
    exact ⟨hs', rfl⟩
  · rintro ⟨hs', hlatch⟩
    exact ⟨t.1, hs', by rw [← hlatch]⟩

/-- Remembering does not change the run. -/
theorem run_latched {p : σ → Bool} {s t : σ} {as : List α} (h : run step s as = some t)
    (b : Bool) : ∃ b', run (latched step p) (s, b) as = some (t, b') := by
  induction as generalizing s b with
  | nil =>
      obtain rfl : s = t := by simpa using h
      exact ⟨b, rfl⟩
  | cons a as ih =>
      obtain ⟨s', hstep, hrest⟩ := run_cons_eq_some h
      obtain ⟨b', hb'⟩ := ih hrest (b || p s')
      have hlatched : latched step p (s, b) a = some (s', b || p s') :=
        latched_eq_some.mpr ⟨hstep, rfl⟩
      exact ⟨b', by rw [run_cons hlatched, hb']⟩

/-! ## Induction rules -/

/-- An invariant kept by every step is kept by every run. -/
theorem run_invariant {I : σ → Prop} (hstep : ∀ s a s', I s → step s a = some s' → I s')
    {s t : σ} {as : List α} (hs : I s) (h : run step s as = some t) : I t := by
  induction as generalizing s with
  | nil =>
      obtain rfl : s = t := by simpa using h
      exact hs
  | cons a as ih =>
      obtain ⟨s', hstep', hrest⟩ := run_cons_eq_some h
      exact ih (hstep s a s' hs hstep') hrest

/-- An invariant kept by every step that meets {lit}`P` is kept by every run all of
whose steps meet {lit}`P`. -/
theorem run_invariant_of_eachStep {I : σ → Prop} {P : σ → α → Prop}
    (hstep : ∀ s a s', I s → P s a → step s a = some s' → I s')
    {s t : σ} {as : List α} (hs : I s) (hP : EachStep step P s as)
    (h : run step s as = some t) : I t := by
  induction as generalizing s with
  | nil =>
      obtain rfl : s = t := by simpa using h
      exact hs
  | cons a as ih =>
      obtain ⟨s', hstep', hrest⟩ := run_cons_eq_some h
      exact ih (hstep s a s' hs hP.1 hstep') (hP.2 s' hstep') hrest

/-- Under the same conditions, what the invariant implies holds in every state of the run. -/
theorem EveryState.of_eachStep {I Q : σ → Prop} {P : σ → α → Prop}
    (hstep : ∀ s a s', I s → P s a → step s a = some s' → I s') (hQ : ∀ s, I s → Q s)
    {s : σ} {as : List α} (hs : I s) (hP : EachStep step P s as) : EveryState step Q s as := by
  induction as generalizing s with
  | nil => exact hQ s hs
  | cons a as ih =>
      refine ⟨hQ s hs, fun s' hs' => ?_⟩
      exact ih (hstep s a s' hs hP.1 hs') (hP.2 s' hs')

/-- The invariant may be used to derive another condition on every step. -/
theorem EachStep.of_invariant {I : σ → Prop} {P P' : σ → α → Prop}
    (hstep : ∀ s a s', I s → P s a → step s a = some s' → I s')
    (hP' : ∀ s a, I s → P s a → P' s a) {s : σ} {as : List α} (hs : I s)
    (hP : EachStep step P s as) : EachStep step P' s as := by
  induction as generalizing s with
  | nil => trivial
  | cons a as ih =>
      refine ⟨hP' s a hs hP.1, fun s' hs' => ?_⟩
      exact ih (hstep s a s' hs hP.1 hs') (hP.2 s' hs')

/-- What a state has left bounds how many steps of a kind can follow it. -/
theorem run_countP_le {R : σ → Nat → Prop} {p : α → Bool}
    (hstep : ∀ s a s' n, R s n → step s a = some s' →
      ∃ n', R s' n' ∧ n' + (if p a then 1 else 0) ≤ n)
    {s t : σ} {as : List α} {n : Nat} (hs : R s n) (h : run step s as = some t) :
    ∃ n', R t n' ∧ n' + as.countP p ≤ n := by
  induction as generalizing s n with
  | nil =>
      obtain rfl : s = t := by simpa using h
      exact ⟨n, hs, Nat.le_refl n⟩
  | cons a as ih =>
      obtain ⟨s', hs', hrest⟩ := run_cons_eq_some h
      obtain ⟨m, hm, hle⟩ := hstep s a s' n hs hs'
      obtain ⟨n', hn', hle'⟩ := ih hm hrest
      refine ⟨n', hn', ?_⟩
      rw [List.countP_cons]
      omega

/-- If each step of one system is matched by one of another, so is each run. -/
theorem run_simulation {τ β : Type} {step' : τ → β → Option τ} {R : σ → τ → Prop}
    (hstep : ∀ s a s' t, R s t → step s a = some s' → ∃ b t', step' t b = some t' ∧ R s' t')
    {s s' : σ} {t : τ} {as : List α} (hR : R s t) (h : run step s as = some s') :
    ∃ bs t', bs.length = as.length ∧ run step' t bs = some t' ∧ R s' t' := by
  induction as generalizing s t with
  | nil =>
      obtain rfl : s = s' := by simpa using h
      exact ⟨[], t, rfl, rfl, hR⟩
  | cons a as ih =>
      obtain ⟨m, hm, hrest⟩ := run_cons_eq_some h
      obtain ⟨b, n, hn, hR'⟩ := hstep s a m t hR hm
      obtain ⟨bs, t', hlength, ht', hR''⟩ := ih hR' hrest
      exact ⟨b :: bs, t', by simp [hlength], by rw [run_cons hn, ht'], hR''⟩

/-- If, under an invariant, a step leads to a {lit}`Q`-state exactly when {lit}`P`
held before it, then a run stays in {lit}`Q` exactly when each of its steps
meets {lit}`P`.  The invariant may use the rest of the run as well: it relates a
state to the labels that are still to come. -/
theorem everyState_iff_eachStep {I : σ → List α → Prop} {Q : σ → Prop}
    {P : σ → α → Prop} (henabled : ∀ s a as, I s (a :: as) → ∃ s', step s a = some s')
    (hiff : ∀ s a as s', I s (a :: as) → step s a = some s' → (Q s' ↔ P s a))
    (hnext : ∀ s a as s', I s (a :: as) → step s a = some s' → P s a → I s' as)
    (hQ : ∀ s as, I s as → Q s) {s : σ} {as : List α} (hs : I s as) :
    EveryState step Q s as ↔ EachStep step P s as := by
  induction as generalizing s with
  | nil => simpa [EveryState, EachStep] using hQ s [] hs
  | cons a as ih =>
      obtain ⟨s', hs'⟩ := henabled s a as hs
      constructor
      · rintro ⟨-, hrest⟩
        have hP : P s a := (hiff s a as s' hs hs').mp (hrest s' hs').head
        refine ⟨hP, fun t ht => ?_⟩
        obtain rfl : s' = t := by simpa [hs'] using ht
        exact (ih (hnext s a as s' hs hs' hP)).mp (hrest s' hs')
      · rintro ⟨hP, hrest⟩
        refine ⟨hQ s _ hs, fun t ht => ?_⟩
        obtain rfl : s' = t := by simpa [hs'] using ht
        exact (ih (hnext s a as s' hs hs' hP)).mpr (hrest s' hs')

end Transition
