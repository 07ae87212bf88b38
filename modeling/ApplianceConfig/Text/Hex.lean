/-!
# Hexadecimal digits

Digits beyond nine are letters of either case.
-/

set_option autoImplicit false

namespace ApplianceConfig.Text

/-- The value of a hexadecimal digit. -/
def hexDigit? (c : Char) : Option Nat :=
  if '0' ≤ c ∧ c ≤ '9' then some (c.toNat - '0'.toNat)
  else if 'a' ≤ c ∧ c ≤ 'f' then some (c.toNat - 'a'.toNat + 10)
  else if 'A' ≤ c ∧ c ≤ 'F' then some (c.toNat - 'A'.toNat + 10)
  else none

/-- The number that hexadecimal digits write; no digits write zero. -/
def hexNumber? (digits : List Char) : Option Nat :=
  digits.foldl (fun number c => do pure (16 * (← number) + (← hexDigit? c))) (some 0)

end ApplianceConfig.Text
