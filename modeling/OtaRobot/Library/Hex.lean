import Mathlib.Tactic.Common

/-!
# Hexadecimal digits
-/

namespace Hex

/-- The value of a digit, in either case. -/
def value (c : Char) : Option Nat :=
  if '0' ≤ c ∧ c ≤ '9' then some (c.toNat - '0'.toNat)
  else if 'a' ≤ c ∧ c ≤ 'f' then some (c.toNat - 'a'.toNat + 10)
  else if 'A' ≤ c ∧ c ≤ 'F' then some (c.toNat - 'A'.toNat + 10)
  else none

/-- A digit in lower case reads back as its value. -/
theorem value_digitChar : ∀ n < 16, value (Nat.digitChar n) = some n := by
  decide

end Hex
