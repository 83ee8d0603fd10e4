import Mathlib.Data.List.Nodup
import Mathlib.Tactic.Common

/-!
# Tables with a primary key

A table is a list of rows in insertion order, no two of which have the same key.
The key law is a field of the structure, so lookups by key, updates by key and
inserts of fresh keys compose without side conditions on the table.

Main results:

- Theorems {lit}`Table.find?_modify` and {lit}`Table.find?_insert`: what a lookup
  sees after an update and after an insert.
- Theorem {lit}`Table.find?_some_iff`: a lookup returns exactly the row with the key.
- Theorem {lit}`countP_update_unique`: how a count of rows changes when the only
  row selected by an update changes.
-/

/-- Rows of type {lit}`ρ` with primary key {lit}`key`, in insertion order. -/
structure Table {ρ κ : Type} (key : ρ → κ) where
  rows : List ρ
  nodup : (rows.map key).Nodup

namespace Table

variable {ρ κ : Type} {key : ρ → κ}

/-- The table without rows. -/
def empty : Table key where
  rows := []
  nodup := List.nodup_nil

/-- The table with one row. -/
def single (r : ρ) : Table key where
  rows := [r]
  nodup := List.nodup_singleton _

/-- Two rows of one key are one. -/
theorem eq_of_key_eq {t : Table key} {r r' : ρ} (hr : r ∈ t.rows) (hr' : r' ∈ t.rows)
    (h : key r = key r') : r = r' :=
  List.inj_on_of_nodup_map t.nodup hr hr' h

/-- A table is its rows. -/
theorem ext_rows {t t' : Table key} (h : t.rows = t'.rows) : t = t' := by
  cases t
  cases t'
  congr

variable [DecidableEq κ]

/-- The row with the given key. -/
def find? (t : Table key) (k : κ) : Option ρ :=
  t.rows.find? fun r => key r = k

/-- Append a row whose key is not in use. -/
def insert (t : Table key) (r : ρ) : Option (Table key) :=
  if h : key r ∈ t.rows.map key then none
  else
    some
      { rows := t.rows ++ [r]
        nodup := by
          rw [List.map_append]
          exact List.Nodup.append t.nodup (List.nodup_singleton _)
            (by simpa [List.disjoint_singleton] using h) }

/-- Update the row with the given key; the update does not touch the key. -/
def modify (t : Table key) (k : κ) (f : ρ → ρ) (hf : ∀ r, key (f r) = key r) :
    Table key where
  rows := t.rows.map fun r => if key r = k then f r else r
  nodup := by
    have hkeys : (t.rows.map fun r => if key r = k then f r else r).map key =
        t.rows.map key := by
      rw [List.map_map]
      apply List.map_congr_left
      intro r _
      by_cases h : key r = k <;> simp [h, hf r]
    rw [hkeys]
    exact t.nodup

/-- Update every row; the update does not touch the keys. -/
def modifyAll (t : Table key) (f : ρ → ρ) (hf : ∀ r, key (f r) = key r) : Table key where
  rows := t.rows.map f
  nodup := by
    have hkeys : (t.rows.map f).map key = t.rows.map key := by
      rw [List.map_map]
      exact List.map_congr_left fun r _ => hf r
    rw [hkeys]
    exact t.nodup

/-- Delete the rows that do not pass the test. -/
def filter (t : Table key) (p : ρ → Bool) : Table key where
  rows := t.rows.filter p
  nodup := t.nodup.sublist (List.filter_sublist.map key)

/-! ## Lookups -/

/-- A row is found under its key. -/
theorem find?_key {t : Table key} {k : κ} {r : ρ} (h : t.find? k = some r) :
    key r = k := by
  simpa using List.find?_some h

/-- A row that is found is in the table. -/
theorem mem_of_find? {t : Table key} {k : κ} {r : ρ} (h : t.find? k = some r) :
    r ∈ t.rows :=
  List.mem_of_find?_eq_some h

/-- A lookup returns exactly the row with the key. -/
theorem find?_some_iff {t : Table key} {k : κ} {r : ρ} :
    t.find? k = some r ↔ r ∈ t.rows ∧ key r = k := by
  constructor
  · exact fun h => ⟨mem_of_find? h, find?_key h⟩
  · rintro ⟨hr, rfl⟩
    cases hfind : t.find? (key r) with
    | none =>
        have hnone := List.find?_eq_none.mp hfind r hr
        simp at hnone
    | some r' =>
        rw [eq_of_key_eq (mem_of_find? hfind) hr (find?_key hfind)]

/-- A key that is not found is not there. -/
theorem find?_none_iff {t : Table key} {k : κ} :
    t.find? k = none ↔ k ∉ t.rows.map key := by
  simp [find?, List.find?_eq_none]

@[simp]
theorem find?_empty (k : κ) : (empty : Table key).find? k = none :=
  rfl

/-- What a lookup sees after an update by key. -/
theorem find?_modify (t : Table key) (k k' : κ) (f : ρ → ρ)
    (hf : ∀ r, key (f r) = key r) :
    (t.modify k f hf).find? k' =
      if k' = k then (t.find? k').map f else t.find? k' := by
  have hpred : ((fun r => decide (key r = k')) ∘ fun r => if key r = k then f r else r) =
      fun r => decide (key r = k') := by
    funext r
    by_cases h : key r = k <;> simp [h, hf r]
  have hlookup : (t.modify k f hf).find? k' =
      (t.find? k').map fun r => if key r = k then f r else r := by
    simp only [find?, modify, List.find?_map, hpred]
  rw [hlookup]
  cases hfind : t.find? k' with
  | none => simp
  | some r => by_cases h : k' = k <;> simp [h, find?_key hfind]

/-- A lookup of the row that was updated. -/
@[simp]
theorem find?_modify_self (t : Table key) (k : κ) (f : ρ → ρ)
    (hf : ∀ r, key (f r) = key r) :
    (t.modify k f hf).find? k = (t.find? k).map f := by
  simp [find?_modify]

/-- A lookup of another row. -/
theorem find?_modify_ne (t : Table key) {k k' : κ} (f : ρ → ρ)
    (hf : ∀ r, key (f r) = key r) (h : k' ≠ k) :
    (t.modify k f hf).find? k' = t.find? k' := by
  simp [find?_modify, h]

/-- The second of two updates of one row is an update of the first one's result. -/
theorem modify_modify (t : Table key) (k : κ) (f g : ρ → ρ) (hf : ∀ r, key (f r) = key r)
    (hg : ∀ r, key (g r) = key r) :
    (t.modify k f hf).modify k g hg =
      t.modify k (fun r => g (f r)) fun r => (hg (f r)).trans (hf r) := by
  apply ext_rows
  simp only [modify, List.map_map]
  apply List.map_congr_left
  intro r _
  by_cases h : key r = k <;> simp [h, hf r]

/-- An update that does not change its row changes nothing. -/
theorem modify_eq_self {t : Table key} {k : κ} {f : ρ → ρ} (hf : ∀ r, key (f r) = key r)
    (h : ∀ r, t.find? k = some r → f r = r) : t.modify k f hf = t := by
  apply ext_rows
  have hrows : ∀ r ∈ t.rows, (if key r = k then f r else r) = r := by
    intro r hr
    split
    · rename_i hkey
      exact h r (find?_some_iff.mpr ⟨hr, hkey⟩)
    · rfl
  calc
    (t.modify k f hf).rows = t.rows.map fun r => r := List.map_congr_left hrows
    _ = t.rows := List.map_id' t.rows

/-- A lookup after an update of all rows. -/
theorem find?_modifyAll (t : Table key) (k : κ) (f : ρ → ρ)
    (hf : ∀ r, key (f r) = key r) :
    (t.modifyAll f hf).find? k = (t.find? k).map f := by
  have hpred : ((fun r => decide (key r = k)) ∘ f) = fun r => decide (key r = k) := by
    funext r
    simp [hf r]
  simp only [find?, modifyAll, List.find?_map, hpred]

/-- What a lookup sees after a deletion. -/
theorem find?_filter (t : Table key) (p : ρ → Bool) (k : κ) :
    (t.filter p).find? k = (t.find? k).filter p := by
  cases hfind : t.find? k with
  | none =>
      have hfresh := find?_none_iff.mp hfind
      refine find?_none_iff.mpr fun hmem => hfresh ?_
      exact (List.filter_sublist.map key).subset hmem
  | some r =>
      obtain ⟨hr, hkey⟩ := find?_some_iff.mp hfind
      cases hp : p r with
      | true =>
          simp only [Option.filter_some, hp, if_true]
          exact find?_some_iff.mpr ⟨List.mem_filter.mpr ⟨hr, hp⟩, hkey⟩
      | false =>
          simp only [Option.filter_some, hp, Bool.false_eq_true, if_false]
          refine find?_none_iff.mpr fun hmem => ?_
          obtain ⟨r', hr', hkey'⟩ := List.mem_map.mp hmem
          obtain ⟨hmem', hp'⟩ := List.mem_filter.mp hr'
          rw [eq_of_key_eq hmem' hr (hkey'.trans hkey.symm), hp] at hp'
          cases hp'

/-- An insert appends its row. -/
theorem insert_rows {t t' : Table key} {r : ρ} (h : t.insert r = some t') :
    t'.rows = t.rows ++ [r] := by
  unfold insert at h
  split at h
  · cases h
  · obtain rfl := Option.some.inj h
    rfl

/-- An insert only succeeds with a fresh key, and then only adds its own row. -/
theorem find?_insert {t t' : Table key} {r : ρ} (h : t.insert r = some t') (k : κ) :
    t'.find? k = if k = key r then some r else t.find? k := by
  unfold insert at h
  split at h
  · simp at h
  · rename_i hfresh
    obtain rfl := Option.some.inj h
    by_cases hk : k = key r
    · subst hk
      have hnone : t.find? (key r) = none := find?_none_iff.mpr hfresh
      simp only [find?] at hnone ⊢
      simp [List.find?_append, hnone]
    · have hne : ¬ key r = k := fun h => hk h.symm
      simp [find?, List.find?_append, hk, hne]

/-- A row is inserted under a new key. -/
theorem insert_fresh {t t' : Table key} {r : ρ} (h : t.insert r = some t') :
    t.find? (key r) = none := by
  unfold insert at h
  split at h
  · simp at h
  · rename_i hfresh
    exact find?_none_iff.mpr hfresh

/-- A row with a new key is inserted. -/
theorem insert_eq_some {t : Table key} {r : ρ} (h : t.find? (key r) = none) :
    ∃ t', t.insert r = some t' := by
  have hfresh := find?_none_iff.mp h
  exact ⟨_, dif_neg hfresh⟩

end Table

/-! ## Counting rows -/

/-- Rewrite the selected elements of a list: a count changes by what the predicate says
about them before and after. -/
theorem countP_update {ρ : Type} (l : List ρ) (sel p : ρ → Bool) (f : ρ → ρ) :
    (l.map fun x => if sel x then f x else x).countP p + l.countP (fun x => sel x && p x) =
      l.countP p + l.countP fun x => sel x && p (f x) := by
  induction l with
  | nil => rfl
  | cons x l ih =>
      rw [List.map_cons]
      simp only [List.countP_cons]
      by_cases hx : sel x = true
      · simp only [hx, if_true, Bool.true_and]
        omega
      · simp only [hx, if_false, Bool.false_and, Bool.false_eq_true]
        omega

/-- Replace one element of a list that no other element is selected with: the
count of a predicate changes by what it says about this element. -/
theorem countP_update_unique {ρ : Type} {l : List ρ} {sel p : ρ → Bool} {f : ρ → ρ}
    {r : ρ} (hr : r ∈ l) (hsel : sel r = true) (huniq : (l.filter sel).length ≤ 1) :
    (l.map fun x => if sel x then f x else x).countP p + (if p r then 1 else 0) =
      l.countP p + (if p (f r) then 1 else 0) := by
  induction l with
  | nil => simp at hr
  | cons x l ih =>
      by_cases hx : sel x = true
      · have hnone : l.filter sel = [] := by
          rw [List.filter_cons_of_pos hx, List.length_cons] at huniq
          exact List.length_eq_zero_iff.mp (by omega)
        have hfix : (l.map fun x => if sel x then f x else x) = l := by
          conv_rhs => rw [← List.map_id l]
          apply List.map_congr_left
          intro y hy
          have hy' : ¬ sel y = true := List.filter_eq_nil_iff.mp hnone y hy
          simp [hy']
        obtain rfl : r = x := by
          rcases List.mem_cons.mp hr with h | h
          · exact h
          · exact absurd hsel (List.filter_eq_nil_iff.mp hnone r h)
        rw [List.map_cons, hfix, if_pos hx]
        simp only [List.countP_cons]
        omega
      · have hmem : r ∈ l := by
          rcases List.mem_cons.mp hr with h | h
          · exact absurd (h ▸ hsel) hx
          · exact h
        rw [List.filter_cons_of_neg hx] at huniq
        rw [List.map_cons, if_neg hx]
        simp only [List.countP_cons]
        have := ih hmem huniq
        omega
