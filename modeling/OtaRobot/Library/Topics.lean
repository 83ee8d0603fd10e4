import Mathlib.Data.List.Basic
import Mathlib.Tactic.Common

/-!
# Topic names and topic filters

Topic names of a message broker: levels with slashes between them.  A filter is written
the same way; the level {lit}`+` stands for any one level, and {lit}`#` at its end for
any number of them.

Main results:

- Theorem {lit}`Topics.accepts_iff_eq`: a filter without wildcards accepts itself only.
- Theorem {lit}`Topics.accepts_append`: a filter that starts with the levels of a name is
  decided by the rest.

Current gaps:

- Names of the broker's own, which start with a dollar sign, are not told apart.
-/

namespace Topics

/-- A text by its characters. -/
abbrev Text := List Char

/-- The levels of a topic or a filter. -/
def levels (topic : Text) : List Text :=
  topic.splitOn '/'

/-- A filter, level by level. -/
def acceptsLevels : List Text → List Text → Bool
  | [], [] => true
  | [], _ :: _ => false
  | f :: fs, ts =>
      if f = ['#'] ∧ fs = [] then true
      else
        match ts with
        | [] => false
        | t :: ts => (f = ['+'] || f = t) && acceptsLevels fs ts

/-- Messages on the topic reach a subscriber to the filter. -/
def accepts (filter topic : Text) : Bool :=
  acceptsLevels (levels filter) (levels topic)

/-- No level of the filter is a wildcard. -/
def Plain (fs : List Text) : Prop :=
  ∀ f ∈ fs, f ≠ ['+'] ∧ f ≠ ['#']

/-- The levels before and after a slash. -/
theorem levels_append (as bs : Text) : levels (as ++ '/' :: bs) = levels as ++ levels bs :=
  List.splitOn_append_cons_self as bs

/-- A text without a slash is one level. -/
theorem levels_of_notMem {t : Text} (h : '/' ∉ t) : levels t = [t] :=
  List.splitOn_eq_singleton h

/-- A name of one level is a name without slash. -/
theorem levels_eq_singleton {t u : Text} (h : levels t = [u]) : '/' ∉ t := by
  intro hslash
  obtain ⟨as, bs, rfl⟩ := List.append_of_mem hslash
  have hlength := congrArg List.length h
  rw [levels_append, List.length_append] at hlength
  have has := List.length_pos_iff.mpr (List.splitOn_ne_nil '/' as)
  have hbs := List.length_pos_iff.mpr (List.splitOn_ne_nil '/' bs)
  simp only [levels, List.length_singleton] at hlength
  omega

/-- The levels say what the name is. -/
theorem levels_injective {as bs : Text} (h : levels as = levels bs) : as = bs := by
  have has : ['/'].intercalate (levels as) = as := List.intercalate_splitOn '/'
  have hbs : ['/'].intercalate (levels bs) = bs := List.intercalate_splitOn '/'
  rw [← has, h, hbs]

/-- The first level decides, and then the rest. -/
theorem acceptsLevels_cons {f t : Text} {fs ts : List Text} (h : f ≠ ['#']) :
    acceptsLevels (f :: fs) (t :: ts) = ((f = ['+'] || f = t) && acceptsLevels fs ts) := by
  simp [acceptsLevels, h]

/-- An empty filter accepts nothing else. -/
theorem acceptsLevels_nil (ts : List Text) : acceptsLevels [] ts = true ↔ ts = [] := by
  cases ts <;> simp [acceptsLevels]

/-- A level without wildcard accepts itself, one name level at a time. -/
theorem acceptsLevels_append {ps : List Text} (h : Plain ps) (fs ts : List Text) :
    acceptsLevels (ps ++ fs) (ps ++ ts) = acceptsLevels fs ts := by
  induction ps with
  | nil => rfl
  | cons p ps ih =>
      have hp := h p (by simp)
      have hps : Plain ps := fun f hf => h f (List.mem_cons_of_mem p hf)
      rw [List.cons_append, List.cons_append, acceptsLevels_cons hp.2, ih hps]
      simp

/-- A filter without wildcards accepts itself. -/
theorem acceptsLevels_iff_eq {fs ts : List Text} (h : Plain fs) :
    acceptsLevels fs ts = true ↔ fs = ts := by
  induction fs generalizing ts with
  | nil => rw [acceptsLevels_nil, eq_comm]
  | cons f fs ih =>
      have hf := h f (by simp)
      have hfs : Plain fs := fun g hg => h g (List.mem_cons_of_mem f hg)
      cases ts with
      | nil => simp [acceptsLevels, hf.2]
      | cons t ts => simp [acceptsLevels_cons hf.2, hf.1, ih hfs]

/-- A wildcard of one level stands for one level. -/
theorem acceptsLevels_wildcard {fs ts : List Text} (h : Plain fs) :
    acceptsLevels (['+'] :: fs) ts = true ↔ ∃ t, ts = t :: fs := by
  cases ts with
  | nil => simp [acceptsLevels]
  | cons t ts =>
      rw [acceptsLevels_cons (by decide)]
      simp [acceptsLevels_iff_eq h, eq_comm]

/-- A filter without wildcards accepts one topic. -/
theorem accepts_iff_eq {filter topic : Text} (h : Plain (levels filter)) :
    accepts filter topic = true ↔ filter = topic := by
  rw [accepts, acceptsLevels_iff_eq h]
  exact ⟨levels_injective, congrArg levels⟩

theorem accepts_append {name : Text} (h : Plain (levels name)) (filter topic : Text) :
    accepts (name ++ '/' :: filter) (name ++ '/' :: topic) = accepts filter topic := by
  rw [accepts, levels_append, levels_append, acceptsLevels_append h]
  rfl

/-- A text without the wildcard characters has no wildcard level. -/
theorem plain_levels {t : Text} (hplus : '+' ∉ t) (hhash : '#' ∉ t) : Plain (levels t) := by
  induction t with
  | nil => intro f hf; simp_all [levels]
  | cons c t ih =>
      have ht := ih (fun h => hplus (List.mem_cons_of_mem c h))
        fun h => hhash (List.mem_cons_of_mem c h)
      rw [levels, List.splitOn_cons_eq_if_modifyHead]
      split
      · intro f hf
        rcases List.mem_cons.mp hf with rfl | hf
        · simp
        · exact ht f hf
      · obtain ⟨l, ls, hl⟩ := List.exists_cons_of_ne_nil (List.splitOn_ne_nil '/' t)
        intro f hf
        rw [hl, List.modifyHead_cons] at hf
        rcases List.mem_cons.mp hf with rfl | hf
        · constructor
          · intro heq
            have hc : c = '+' := (List.cons.inj heq).1
            exact hplus (hc ▸ List.mem_cons_self)
          · intro heq
            have hc : c = '#' := (List.cons.inj heq).1
            exact hhash (hc ▸ List.mem_cons_self)
        · exact ht f (by rw [levels, hl]; exact List.mem_cons_of_mem l hf)

end Topics
