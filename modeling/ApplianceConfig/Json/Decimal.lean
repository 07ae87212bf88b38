import ApplianceConfig.Json.Binary64

/-!
# Decimal text of floating-point numbers

A floating-point number is written with the fewest decimal digits that read
back as the same number; among the decimals with that many digits the nearest
one is taken, and of two equally near ones the one whose last digit is even.
The digits stand in positional notation while the decimal exponent lies between
`-5` and `15`, always with a point, and in exponent notation otherwise, always
with the sign of the exponent.

`Decimal.shortest` finds the digits in exact arithmetic; `Decimal.Layout` holds
what is a choice of the notation rather than of the number.
-/

set_option autoImplicit false

namespace ApplianceConfig

/-- The decimal number `digits · 10 ^ exponent`. -/
structure Decimal where
  digits : Nat
  exponent : Int
  deriving DecidableEq, Repr

namespace Decimal

/-! ## The fewest digits that read back -/

/-- An open or closed interval of non-negative rationals over one denominator, with the point that
a decimal inside should lie close to. -/
structure Target where
  lower : Nat
  value : Nat
  upper : Nat
  denominator : Nat
  closed : Bool

/-- The magnitudes that round to a given non-zero number.  The neighbour below a power of two is
half as far away as the one above, except at the bottom of the range. -/
def Target.ofBinary64 (x : Binary64) : Target :=
  let m := x.significand
  let narrow := m = Binary64.fractionSize ∧ 0 < x.scale
  { lower := (4 * m - if narrow then 1 else 2) * Nat.pow 2 x.scale
    value := 4 * m * Nat.pow 2 x.scale
    upper := (4 * m + 2) * Nat.pow 2 x.scale
    denominator := Nat.pow 2 1076
    closed := m % 2 == 0 }

/-- Whether a rational lies inside the interval. -/
def Target.contains (target : Target) (numerator denominator : Nat) : Bool :=
  let scaled := numerator * target.denominator
  if target.closed then
    target.lower * denominator ≤ scaled && scaled ≤ target.upper * denominator
  else
    target.lower * denominator < scaled && scaled < target.upper * denominator

/-- The rational `digits · 10 ^ exponent` as a fraction. -/
def fraction (decimal : Decimal) : Nat × Nat :=
  if 0 ≤ decimal.exponent then (decimal.digits * Nat.pow 10 decimal.exponent.toNat, 1)
  else (decimal.digits, Nat.pow 10 (-decimal.exponent).toNat)

/-- The decimal on the grid of multiples of `10 ^ exponent` that lies inside the interval and
nearest to its point, if one does: it is one of the two neighbours of the point. -/
def Target.onGrid? (target : Target) (exponent : Int) : Option Decimal :=
  let unit := fraction ⟨1, exponent⟩
  let numerator := target.value * unit.2
  let denominator := target.denominator * unit.1
  let below : Decimal := ⟨numerator / denominator, exponent⟩
  let above : Decimal := ⟨below.digits + 1, exponent⟩
  let fits := fun (decimal : Decimal) =>
    let point := fraction decimal
    0 < decimal.digits && target.contains point.1 point.2
  let near := Binary64.nearestEven numerator denominator
  match fits below, fits above with
  | true, true => some ⟨near, exponent⟩
  | true, false => some below
  | false, true => some above
  | false, false => none

/-- The first grid of a list, from coarse to fine, that has a decimal inside the interval. -/
def Target.first? (target : Target) : List Int → Option Decimal
  | [] => none
  | exponent :: finer =>
    match target.onGrid? exponent with
    | some decimal => some decimal
    | none => target.first? finer

/-- The number of decimal digits of a natural number, zero having one. -/
def width (n : Nat) : Nat := (Nat.toDigits 10 n).length

/-- A bound from above on the decimal exponent of the point of the interval. -/
def Target.leading (target : Target) : Int :=
  if target.denominator ≤ target.value then width (target.value / target.denominator)
  else 1 - (width (target.denominator / target.value) : Int)

/-- The decimal with the fewest digits inside the interval of a non-zero number.  Eighteen grids
below the leading digit always suffice, seventeen digits being enough for the format. -/
def shortest (x : Binary64) : Decimal :=
  let target := Target.ofBinary64 x
  let start := target.leading
  (target.first? ((List.range 20).map fun (step : Nat) => start - step)).getD ⟨0, 0⟩

/-! ## Layout -/

/-- The choices of a notation: from which to which decimal exponent of the leading digit a number
is written positionally. -/
structure Layout where
  leastPositional : Int
  greatestPositional : Int

/-- JSON text is positional for decimal exponents from `-5` to `15`. -/
def Layout.json : Layout := ⟨-5, 15⟩

/-- Digits without the zeros at their end, with the exponent raised to match. -/
def trim : Nat → List Char × Int → List Char × Int
  | 0, decimal => decimal
  | fuel + 1, (reversed, exponent) =>
    match reversed with
    | '0' :: rest@(_ :: _) => trim fuel (rest, exponent + 1)
    | _ => (reversed, exponent)

/-- The text of digits that are multiplied with a power of ten. -/
def Layout.arrange (layout : Layout) (digits : List Char) (exponent : Int) : String :=
  let leading : Int := exponent + digits.length - 1
  if layout.leastPositional ≤ leading ∧ leading ≤ layout.greatestPositional then
    if 0 ≤ exponent then
      String.ofList (digits ++ List.replicate exponent.toNat '0') ++ ".0"
    else if 0 ≤ leading then
      String.ofList (digits.take (leading.toNat + 1)) ++ "."
        ++ String.ofList (digits.drop (leading.toNat + 1))
    else
      "0." ++ String.ofList (List.replicate (-leading - 1).toNat '0' ++ digits)
  else
    let fraction := if digits.length = 1 then "" else "." ++ String.ofList (digits.drop 1)
    let sign := if leading < 0 then "-" else "+"
    String.ofList (digits.take 1) ++ fraction ++ "e" ++ sign ++ toString leading.natAbs

/-- The text of a positive decimal. -/
def Layout.write (layout : Layout) (decimal : Decimal) : String :=
  let all := (Nat.toDigits 10 decimal.digits).reverse
  let (reversed, exponent) := trim all.length (all, decimal.exponent)
  layout.arrange reversed.reverse exponent

end Decimal

/-- The JSON text of a floating-point number. -/
def Binary64.text (x : Binary64) : String :=
  let sign := if x.isNegative then "-" else ""
  if x.isZero then sign ++ "0.0" else sign ++ Decimal.Layout.json.write (Decimal.shortest x)

end ApplianceConfig
