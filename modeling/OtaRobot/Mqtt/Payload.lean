import Mathlib.Tactic.Common

/-!
# Report payloads

The three payload structures of {lit}`internal/mqtt/client.go` and what
{lit}`json.Unmarshal` stores in them.  A payload that is not JSON at all is {lean}`none` in
the later modules; this file starts from the parsed text.

{lit}`json.Unmarshal` takes the members of an object in order.  A member belongs to the field
whose key it matches up to case, {lit}`null` leaves a field as it is, and a value of the wrong
type makes the call fail.

Main results:

- Theorem {lit}`ProgressPayload.progress_bounds`: an accepted progress is an {lit}`int32`.

Current gaps:

- Numbers in the telemetry keep their literal; the source passes them through
  {lit}`float64`.
-/

namespace OtaRobot

/-- A parsed JSON text.  The literals of integers are read, those of other numbers kept. -/
inductive Json where
  | null
  | bool (b : Bool)
  | int (n : Int)
  | number (literal : String)
  | string (s : String)
  | array (items : List Json)
  | object (members : List (String × Json))

namespace Json

/-! ## Values of the field types -/

/-- The text of a JSON string. -/
def asString : Json → Option String
  | .string s => some s
  | _ => none

/-- {lit}`int32`: an integer literal within the bounds. -/
def asInt32 : Json → Option Int
  | .int n => if -2147483648 ≤ n ∧ n ≤ 2147483647 then some n else none
  | _ => none

/-- The value is {lit}`null`. -/
def isNull : Json → Bool
  | .null => true
  | _ => false

/-! ## Structures -/

/-- {lit}`foldName`: ASCII letters fold to lower case, and two other letters fold to ASCII. -/
def foldRune (c : Char) : Char :=
  if c = '\u017f' then 's' else if c = '\u212a' then 'k' else c.toLower

/-- The member name matches the key of a field. -/
def matchesKey (name key : String) : Bool :=
  name.toList.map foldRune = key.toList.map foldRune

/-- The members of the value a structure is decoded from. -/
def structMembers : Json → Option (List (String × Json))
  | .object members => some members
  | .null => some []
  | _ => none

/-- The values of one field, in order. -/
def valuesOf (key : String) (members : List (String × Json)) : List Json :=
  (members.filter fun m => matchesKey m.1 key).map fun m => m.2

end Json

open Json

/-- What is stored in a field that held {lit}`value`. -/
def decodeField {α : Type} (ofJson : Json → Option α) (value : α) : List Json → Option α
  | [] => some value
  | j :: js =>
      if j.isNull then decodeField ofJson value js
      else (ofJson j).bind fun a => decodeField ofJson a js

/-- A decoded field holds its first value or one that the type of the field admits. -/
theorem decodeField_invariant {α : Type} {ofJson : Json → Option α} {P : α → Prop}
    (hP : ∀ j a, ofJson j = some a → P a) {value a : α} {js : List Json} (hvalue : P value)
    (h : decodeField ofJson value js = some a) : P a := by
  induction js generalizing value with
  | nil =>
      have heq : value = a := Option.some.inj h
      exact heq ▸ hvalue
  | cons j js ih =>
      rw [decodeField] at h
      by_cases hnull : j.isNull = true
      · rw [if_pos hnull] at h
        exact ih hvalue h
      · rw [if_neg hnull] at h
        obtain ⟨b, hb, hrest⟩ := Option.bind_eq_some_iff.mp h
        exact ih (hP j b hb) hrest

/-- A field of type {lit}`string`. -/
def stringField (key : String) (members : List (String × Json)) : Option String :=
  decodeField asString "" (valuesOf key members)

/-- What is stored in a pointer that held {lit}`value`; {lit}`null` takes the pointer back. -/
def decodePointer {α : Type} (ofJson : Json → Option α) (value : Option α) :
    List Json → Option (Option α)
  | [] => some value
  | j :: js =>
      if j.isNull then decodePointer ofJson none js
      else (ofJson j).bind fun a => decodePointer ofJson (some a) js

/-! ## The payloads -/

/-- The structure a status message is parsed into. -/
structure StatusPayload where
  deviceID : String
  factoryID : String
  hwModel : String
  version : String
  status : String
  fsmState : String
  telemetry : Option Json

/-- {lit}`json.RawMessage` takes every value, {lit}`null` as well. -/
def StatusPayload.unmarshal (j : Json) : Option StatusPayload := do
  let members ← j.structMembers
  let deviceID ← stringField "device_id" members
  let factoryID ← stringField "factory_id" members
  let hwModel ← stringField "hw_model" members
  let version ← stringField "version" members
  let status ← stringField "status" members
  let fsmState ← stringField "fsm_state" members
  return { deviceID, factoryID, hwModel, version, status, fsmState
           telemetry := (valuesOf "telemetry" members).getLast? }

/-- The structure a progress report is parsed into. -/
structure ProgressPayload where
  deviceID : String
  progress : Int
  status : String
deriving DecidableEq, Repr

/-- {lit}`json.Unmarshal` of a progress report. -/
def ProgressPayload.unmarshal (j : Json) : Option ProgressPayload := do
  let members ← j.structMembers
  let deviceID ← stringField "device_id" members
  let progress ← decodeField asInt32 0 (valuesOf "progress" members)
  let status ← stringField "status" members
  return { deviceID, progress, status }

/-- A number that is accepted fits into 32 bits. -/
theorem asInt32_bounds {j : Json} {n : Int} (h : j.asInt32 = some n) :
    -2147483648 ≤ n ∧ n ≤ 2147483647 := by
  cases j with
  | int m =>
      rw [asInt32] at h
      split at h
      · rename_i hm
        exact Option.some.inj h ▸ hm
      · cases h
  | _ => cases h

/-- The progress of a parsed report fits into 32 bits. -/
theorem ProgressPayload.progress_bounds {j : Json} {p : ProgressPayload}
    (h : ProgressPayload.unmarshal j = some p) : -2147483648 ≤ p.progress ∧ p.progress ≤ 2147483647 := by
  simp only [ProgressPayload.unmarshal, Option.bind_eq_bind, Option.bind_eq_some_iff] at h
  obtain ⟨members, -, deviceID, -, progress, hprogress, status, -, hp⟩ := h
  have heq : progress = p.progress := congrArg ProgressPayload.progress (Option.some.inj hp)
  have hbounds := decodeField_invariant (P := fun n : Int => -2147483648 ≤ n ∧ n ≤ 2147483647)
    (fun _ _ => asInt32_bounds) (by decide) hprogress
  exact heq ▸ hbounds

/-- The structure an error report is parsed into. -/
structure ErrorPayload where
  deviceID : String
  error : String
deriving DecidableEq, Repr

/-- {lit}`json.Unmarshal` of an error report. -/
def ErrorPayload.unmarshal (j : Json) : Option ErrorPayload := do
  let members ← j.structMembers
  let deviceID ← stringField "device_id" members
  let error ← stringField "error" members
  return { deviceID, error }

/-! ## Telemetry -/

/-- {lit}`m[key] = value` on a {lit}`map[string]interface\x7b\x7d`. -/
def setKey (m : List (String × Json)) (key : String) (value : Json) : List (String × Json) :=
  m.filter (fun entry => entry.1 ≠ key) ++ [(key, value)]

/-- The {lit}`metaMap` of {lit}`handleStatus`: the telemetry, if it is an object, and the state of
the robot's state machine. -/
def StatusPayload.metaMap (p : StatusPayload) : List (String × Json) :=
  let telemetry := match p.telemetry with
    | some (.object members) => members.foldl (fun m entry => setKey m entry.1 entry.2) []
    | _ => []
  if p.fsmState ≠ "" then setKey telemetry "fsm_state" (.string p.fsmState) else telemetry

end OtaRobot
