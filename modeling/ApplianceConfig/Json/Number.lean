import ApplianceConfig.Json.Decimal

/-!
# JSON numbers

A number remembers how it was written: a whole number without sign, a negative
whole number, or a number with a fraction or an exponent.  The three kinds are
never equal to each other, so `1` and `1.0` are different values, and a
document that swaps one for the other counts as changed.

Whole numbers are bounded by the sixty-four-bit ranges; what does not fit in
them is read as a floating-point number.
-/

set_option autoImplicit false

namespace ApplianceConfig

/-- How many negative numbers sixty-four bits hold. -/
abbrev negativeSize : Nat := 0x8000000000000000

/-- A JSON number of one of three kinds; `negative n` stands for `-(n + 1)`. -/
inductive Number where
  | natural (value : UInt64)
  | negative (predecessor : Fin negativeSize)
  | binary (value : Binary64)
  deriving DecidableEq

namespace Number

/-- The number for a natural number that fits its range. -/
def ofNat? (n : Nat) : Option Number :=
  if n < UInt64.size then some (natural (UInt64.ofNat n)) else none

/-- The number for `-n`, if `n` is positive and fits the range. -/
def ofNegated? (n : Nat) : Option Number :=
  if bound : n - 1 < negativeSize then if 0 < n then some (negative ⟨n - 1, bound⟩) else none else none

/-- The number for a natural number below `2 ^ 64`; larger ones wrap. -/
def ofNat (n : Nat) : Number := natural (UInt64.ofNat n)

/-- The text of a number. -/
def text : Number → String
  | natural value => toString value.toNat
  | negative predecessor => "-" ++ toString (predecessor.val + 1)
  | binary value => value.text

/-- The floating-point number nearest to a number. -/
def toBinary64 : Number → Binary64
  | natural value => (Binary64.nearest? false value.toNat 1).getD (Binary64.zero false)
  | negative predecessor =>
    (Binary64.nearest? true (predecessor.val + 1) 1).getD (Binary64.zero false)
  | binary value => value

/-- Equality of numbers as values: the kinds must agree, and both zeros are one number. -/
def sameValue : Number → Number → Bool
  | natural x, natural y => x == y
  | negative x, negative y => x == y
  | binary x, binary y => x.sameNumber y
  | _, _ => false

/-- The order of numbers: by floating-point value, and by text where these agree. -/
def precedes (x y : Number) : Bool :=
  let rankX := x.toBinary64.rank
  let rankY := y.toBinary64.rank
  rankX < rankY || (rankX == rankY && decide (x.text ≤ y.text))

end Number

end ApplianceConfig
