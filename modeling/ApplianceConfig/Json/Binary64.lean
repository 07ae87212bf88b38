/-!
# Finite binary floating-point numbers

A JSON number with a fraction or an exponent is held as a finite number of the
IEEE 754 format binary64.  The module keeps such a number as its sixty-four
bits, so that two values are told apart exactly when their bits differ, and
computes with it in exact natural-number arithmetic: a number is
`significand · 2 ^ (scale - 1074)`, a rational is rounded to the nearest number
with ties going to the even significand, and products and quotients are the
rounded exact results.

Rounding answers `none` where the magnitude is too large for the format, so no
operation of this module produces an infinity or a value that is not a number.
-/

set_option autoImplicit false

namespace ApplianceConfig

namespace Binary64

/-- The number of values of the fraction field, and the weight of the exponent field above it. -/
abbrev fractionSize : Nat := 0x10000000000000

/-- The number of values of the exponent field. -/
abbrev exponentSize : Nat := 0x800

/-- The weight of the sign bit. -/
abbrev signWeight : Nat := 0x8000000000000000

/-- The value of the exponent field that finite numbers do not have. -/
abbrev reservedExponent : Nat := exponentSize - 1

end Binary64

/-- A finite binary64 number, kept as its bits. -/
structure Binary64 where
  bits : UInt64
  finite :
    bits.toNat / Binary64.fractionSize % Binary64.exponentSize ≠ Binary64.reservedExponent
  deriving DecidableEq

namespace Binary64

/-! ## Fields of the format -/

/-- Whether the sign bit is set; zero has both signs. -/
def isNegative (x : Binary64) : Bool := signWeight ≤ x.bits.toNat

/-- The bits without the sign: the order of magnitudes is the order of these numbers. -/
def magnitude (x : Binary64) : Nat := x.bits.toNat % signWeight

/-- The exponent field. -/
def biased (x : Binary64) : Nat := x.magnitude / fractionSize

/-- The significand as a whole number, with the leading bit that normal numbers leave out. -/
def significand (x : Binary64) : Nat :=
  if x.biased = 0 then x.magnitude else x.magnitude % fractionSize + fractionSize

/-- The magnitude is `significand · 2 ^ (scale - 1074)`. -/
def scale (x : Binary64) : Nat := x.biased - 1

/-- Whether the number is one of the two zeros. -/
def isZero (x : Binary64) : Bool := x.magnitude == 0

/-- The number with the given bits, if they are those of a finite one. -/
def ofBits? (bits : UInt64) : Option Binary64 :=
  if finite : bits.toNat / fractionSize % exponentSize ≠ reservedExponent then some ⟨bits, finite⟩ else none

/-- The zero of the given sign. -/
def zero (negative : Bool) : Binary64 :=
  match negative with
  | false => ⟨0, by decide⟩
  | true => ⟨0x8000000000000000, by decide⟩

/-! ## Rounding -/

/-- The whole number nearest to `numerator / denominator`; of two, the even one. -/
def nearestEven (numerator denominator : Nat) : Nat :=
  let quotient := numerator / denominator
  let remainder := numerator % denominator
  if 2 * remainder < denominator then quotient
  else if denominator < 2 * remainder then quotient + 1
  else if quotient % 2 = 0 then quotient
  else quotient + 1

/-- The magnitude bits of the number nearest to `numerator / denominator`.  The scale is the one at
which the significand has fifty-three bits, or zero below the normal range; a significand that
rounds up to the next power of two carries into the exponent field, which is again right. -/
def nearestMagnitude (numerator denominator : Nat) : Nat :=
  let widest := numerator.log2 + 1022 - denominator.log2
  let scaled := numerator * Nat.pow 2 1074
  let scale := if scaled / (denominator * Nat.pow 2 widest) < fractionSize then widest - 1 else widest
  scale * fractionSize + nearestEven scaled (denominator * Nat.pow 2 scale)

/-- The number nearest to `± numerator / denominator`, or `none` if that is out of range. -/
def nearest? (negative : Bool) (numerator denominator : Nat) : Option Binary64 :=
  if numerator = 0 then some (zero negative)
  else
    let magnitude := nearestMagnitude numerator denominator
    if magnitude < reservedExponent * fractionSize then
      ofBits? (UInt64.ofNat (magnitude + if negative then signWeight else 0))
    else none

/-- The number nearest to a natural number. -/
def ofNat? (n : Nat) : Option Binary64 := nearest? false n 1

/-- The same magnitude with the other sign. -/
def negate (x : Binary64) : Binary64 :=
  (ofBits? (x.bits ^^^ 0x8000000000000000)).getD x

/-- The rounded product, or `none` if it is out of range. -/
def multiply? (x y : Binary64) : Option Binary64 :=
  nearest? (x.isNegative != y.isNegative)
    (x.significand * y.significand * Nat.pow 2 (x.scale + y.scale)) (Nat.pow 2 2148)

/-- The rounded quotient, or `none` if it is out of range or the divisor is zero. -/
def divide? (x y : Binary64) : Option Binary64 :=
  if y.isZero then none
  else
    nearest? (x.isNegative != y.isNegative)
      (x.significand * Nat.pow 2 x.scale) (y.significand * Nat.pow 2 y.scale)

/-! ## Order and equality -/

/-- The place of a number in the total order of the format: negative numbers by falling magnitude,
then minus zero, zero and the positive numbers by rising magnitude. -/
def rank (x : Binary64) : Int :=
  if x.isNegative then -(x.magnitude : Int) - 1 else x.magnitude

/-- Numerical equality, for which both zeros are the same number. -/
def sameNumber (x y : Binary64) : Bool :=
  x == y || (x.isZero && y.isZero)

end Binary64

end ApplianceConfig
