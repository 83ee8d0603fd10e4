import Mathlib.Data.List.Sort
import OtaRobot.Library.JsonText
import OtaRobot.Mqtt.Payload

/-!
# Payload texts

{lit}`json.Marshal` and the first half of {lit}`json.Unmarshal`: a payload is a text, and
what the handlers read is the value parsed from it.  A map is written with its keys in order.

Main results:

- Theorem {lit}`Json.ofText_text`: what was written is what is parsed.
- Theorem {lit}`Json.valuesOf_insertionSort`: the order of a map's keys is not seen by the
  fields.

Current gaps:

- Texts are lists of characters; the encoding of a character in bytes is left out.
-/

namespace OtaRobot.Json

open JsonText

/-! ## Values -/

mutual

/-- The value of a parsed text. -/
def ofValue : Value → Json
  | .null => .null
  | .bool b => .bool b
  | .number literal =>
      match parseInt literal with
      | some n => .int n
      | none => .number (String.ofList literal)
  | .string s => .string (String.ofList s)
  | .array vs => .array (ofItems vs)
  | .object ms => .object (ofMembers ms)

/-- The items of an array. -/
def ofItems : List Value → List Json
  | [] => []
  | v :: vs => ofValue v :: ofItems vs

/-- The members of an object. -/
def ofMembers : List (Text × Value) → List (String × Json)
  | [] => []
  | (key, v) :: ms => (String.ofList key, ofValue v) :: ofMembers ms

end

mutual

/-- The value that is written. -/
def toValue : Json → Value
  | .null => .null
  | .bool b => .bool b
  | .int n => .number (literalOf n)
  | .number literal => .number literal.toList
  | .string s => .string s.toList
  | .array js => .array (toItems js)
  | .object ms => .object (toMembers ms)

/-- The items of an array. -/
def toItems : List Json → List Value
  | [] => []
  | j :: js => toValue j :: toItems js

/-- The members of an object. -/
def toMembers : List (String × Json) → List (Text × Value)
  | [] => []
  | (key, j) :: ms => (key.toList, toValue j) :: toMembers ms

end

/-- {lit}`json.Marshal` of a value. -/
def text (j : Json) : Text :=
  render j.toValue

/-- {lit}`json.Unmarshal` up to the value; it nests ten thousand deep at most. -/
def ofText (cs : Text) : Option Json :=
  (parse 10000 cs).map ofValue

/-- The value nests at most {lit}`depth` deep, and its numbers are integers. -/
inductive Written : Nat → Json → Prop where
  | null (d : Nat) : Written d .null
  | bool (d : Nat) (b : Bool) : Written d (.bool b)
  | int (d : Nat) (n : Int) : Written d (.int n)
  | string (d : Nat) (s : String) : Written d (.string s)
  | array (d : Nat) (js : List Json) (h : ∀ j ∈ js, Written d j) : Written (d + 1) (.array js)
  | object (d : Nat) (ms : List (String × Json)) (h : ∀ m ∈ ms, Written d m.2) :
      Written (d + 1) (.object ms)

/-- The items, one by one. -/
theorem toItems_eq (js : List Json) : toItems js = js.map toValue := by
  induction js with
  | nil => rfl
  | cons j js ih => rw [toItems, ih, List.map_cons]

/-- The members, one by one. -/
theorem toMembers_eq (ms : List (String × Json)) :
    toMembers ms = ms.map fun m => (m.1.toList, m.2.toValue) := by
  induction ms with
  | nil => rfl
  | cons m ms ih => rw [toMembers, ih, List.map_cons]

/-- The items, one by one. -/
theorem ofItems_eq (vs : List Value) : ofItems vs = vs.map ofValue := by
  induction vs with
  | nil => rfl
  | cons v vs ih => rw [ofItems, ih, List.map_cons]

/-- The members, one by one. -/
theorem ofMembers_eq (ms : List (Text × Value)) :
    ofMembers ms = ms.map fun m => (String.ofList m.1, ofValue m.2) := by
  induction ms with
  | nil => rfl
  | cons m ms ih => rw [ofMembers, ih, List.map_cons]

/-- A value that is written fits the depth. -/
theorem fits_toValue {d : Nat} {j : Json} (h : Written d j) : Fits d j.toValue := by
  induction h with
  | null d => simp [toValue, Fits]
  | bool d b => simp [toValue, Fits]
  | int d n => simpa [toValue, Fits] using number_literalOf n
  | string d s => simp [toValue, Fits]
  | array d js _ ih =>
      rw [toValue, toItems_eq, Fits]
      intro v hv
      obtain ⟨j, hj, rfl⟩ := List.mem_map.mp hv
      exact ih j hj
  | object d ms _ ih =>
      rw [toValue, toMembers_eq, Fits]
      intro m hm
      obtain ⟨member, hmember, rfl⟩ := List.mem_map.mp hm
      exact ih member hmember

/-- A value that is written is read as it was. -/
theorem ofValue_toValue {d : Nat} {j : Json} (h : Written d j) : ofValue j.toValue = j := by
  induction h with
  | null d => rfl
  | bool d b => rfl
  | int d n => simp [toValue, ofValue, parseInt_literalOf]
  | string d s => simp [toValue, ofValue]
  | array d js _ ih =>
      rw [toValue, toItems_eq, ofValue, ofItems_eq, List.map_map]
      congr 1
      exact (List.map_congr_left ih).trans (List.map_id' js)
  | object d ms _ ih =>
      rw [toValue, toMembers_eq, ofValue, ofMembers_eq, List.map_map]
      congr 1
      refine (List.map_congr_left fun m hm => ?_).trans (List.map_id' ms)
      simp [ih m hm]

/-- What was written is what is parsed. -/
theorem ofText_text {j : Json} (h : Written 10000 j) : ofText j.text = some j := by
  rw [ofText, text, parse_render (fits_toValue h), Option.map_some, ofValue_toValue h]

/-! ## Maps -/

/-- {lit}`json.Marshal` of a map: its keys in order. -/
def marshalMap (m : List (String × Json)) : Json :=
  .object (m.insertionSort fun a b => a.1 ≤ b.1)

/-- A map of values that can be written can be written. -/
theorem written_marshalMap {d : Nat} {m : List (String × Json)} (h : ∀ e ∈ m, Written d e.2) :
    Written (d + 1) (marshalMap m) := by
  apply Written.object
  intro e he
  exact h e ((List.perm_insertionSort _ m).mem_iff.mp he)

/-- The members of a map are sorted by their keys. -/
theorem structMembers_marshalMap (m : List (String × Json)) :
    (marshalMap m).structMembers = some (m.insertionSort fun a b => a.1 ≤ b.1) :=
  rfl

/-- A key that is there once has its value wherever it stands. -/
theorem valuesOf_insertionSort {key : String} {m : List (String × Json)}
    (h : (valuesOf key m).length ≤ 1) :
    valuesOf key (m.insertionSort fun a b => a.1 ≤ b.1) = valuesOf key m := by
  have hperm : (valuesOf key (m.insertionSort fun a b => a.1 ≤ b.1)).Perm (valuesOf key m) :=
    ((List.perm_insertionSort _ m).filter _).map _
  cases hvalues : valuesOf key m with
  | nil =>
      rw [hvalues] at hperm
      exact hperm.eq_nil
  | cons j js =>
      have hjs : js = [] := by
        rw [hvalues, List.length_cons] at h
        exact List.length_eq_zero_iff.mp (by omega)
      rw [hvalues, hjs] at hperm
      rw [hjs]
      exact hperm.eq_singleton

end OtaRobot.Json
