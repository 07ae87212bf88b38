import ApplianceConfig.Json.Number

/-!
# Numerals in JSON text

A numeral is an optional minus sign, a whole part without superfluous zeros, an
optional fraction and an optional exponent.  A whole number that fits its
sixty-four-bit range stays whole; everything else becomes a floating-point
number.  That number is computed in two roundings: the digits are gathered into
a significand of sixty-four bits, the digits that no longer fit are dropped and
only counted, and the rounded significand is then multiplied or divided once by
a rounded power of ten.  The result can therefore differ from the nearest
floating-point number in the last bit; a numeral too large for the format is
refused.
-/

set_option autoImplicit false

namespace ApplianceConfig.Numeral

/-! ## Digits -/

/-- Whether a character is an ASCII digit. -/
def isDigit (c : Char) : Bool := '0' ≤ c && c ≤ '9'

/-- The value of an ASCII digit. -/
def digit (c : Char) : Nat := c.toNat - '0'.toNat

/-- The value of a list of digits. -/
def natural (digits : List Char) : Nat := digits.foldl (fun n c => 10 * n + digit c) 0

/-- The digits at the start of a text and what follows them. -/
def span (text : List Char) : List Char × List Char := (text.takeWhile isDigit, text.dropWhile isDigit)

/-- A numeral taken apart: its sign, the digits before and after the point, and the exponent with
its sign and digits. -/
structure Parts where
  negative : Bool
  whole : List Char
  fraction : Option (List Char)
  exponent : Option (Bool × List Char)

/-- The exponent part at the start of a text, if there is one; `none` if it has no digits. -/
def exponentPart? : List Char → Option (Option (Bool × List Char) × List Char)
  | c :: rest =>
    if c = 'e' ∨ c = 'E' then
      let (below, rest) :=
        match rest with
        | '+' :: rest => (false, rest)
        | '-' :: rest => (true, rest)
        | rest => (false, rest)
      match span rest with
      | ([], _) => none
      | (digits, rest) => some (some (below, digits), rest)
    else some (none, c :: rest)
  | [] => some (none, [])

/-- The fraction at the start of a text, if there is one; `none` if the point has no digits. -/
def fractionPart? : List Char → Option (Option (List Char) × List Char)
  | '.' :: rest =>
    match span rest with
    | ([], _) => none
    | (digits, rest) => some (some digits, rest)
  | rest => some (none, rest)

/-- The numeral at the start of a text and the rest of the text. -/
def split? (text : List Char) : Option (Parts × List Char) := do
  let (negative, text) := match text with
    | '-' :: rest => (true, rest)
    | text => (false, text)
  let (whole, text) ← match span text with
    | ([], _) => none
    | ('0' :: _ :: _, _) => none
    | (digits, rest) => some (digits, rest)
  let (fraction, text) ← fractionPart? text
  let (exponent, text) ← exponentPart? text
  pure (⟨negative, whole, fraction, exponent⟩, text)

/-! ## Values -/

/-- Digits gathered into a significand below `2 ^ 64`, with the digits that did not fit.  Once a
digit does not fit, no later one is gathered. -/
def gather (significand : Nat) : List Char → Nat × List Char
  | [] => (significand, [])
  | c :: rest =>
    if 10 * significand + digit c < UInt64.size then gather (10 * significand + digit c) rest
    else (significand, c :: rest)

/-- The significand of a numeral and the power of ten it is to be multiplied with: a digit of the
whole part that did not fit raises the power, a digit of the fraction that did fit lowers it. -/
def significand (parts : Parts) : Nat × Int :=
  let fraction := parts.fraction.getD []
  let (number, dropped) := gather 0 parts.whole
  let (number, unread) := gather number fraction
  (number, (dropped.length : Int) + unread.length - fraction.length)

/-- The rounded power of ten with exponent at most 308. -/
def powerOfTen (n : Nat) : Binary64 := (Binary64.ofNat? (Nat.pow 10 n)).getD (Binary64.zero false)

/-- The number multiplied with a power of ten, in steps of at most `10 ^ 308` when dividing. -/
def scaled? : Nat → Binary64 → Int → Option Binary64
  | 0, x, _ => some x
  | fuel + 1, x, exponent =>
    if exponent.natAbs ≤ 308 then
      if 0 ≤ exponent then x.multiply? (powerOfTen exponent.natAbs)
      else x.divide? (powerOfTen exponent.natAbs)
    else if x.isZero then some x
    else if 0 ≤ exponent then none
    else do
      let y ← x.divide? (powerOfTen 308)
      scaled? fuel y (exponent + 308)

/-- The exponent that a numeral writes out, held within the thirty-two-bit range; `none` if its
digits do not fit that range. -/
def writtenExponent? : Option (Bool × List Char) → Option Int
  | none => some 0
  | some (below, digits) =>
    let n := natural digits
    if n < 0x80000000 then some (if below then -(n : Int) else n) else none

/-- A sum held within the thirty-two-bit range. -/
def clamp (n : Int) : Int := max (-0x80000000) (min n 0x7FFFFFFF)

/-- The floating-point value of a numeral. -/
def binary? (parts : Parts) : Option Binary64 :=
  let (number, shift) := significand parts
  match writtenExponent? parts.exponent with
  | none =>
    let below := (parts.exponent.map Prod.fst).getD false
    if number ≠ 0 ∧ !below then none else some (Binary64.zero parts.negative)
  | some written => do
    let x ← Binary64.ofNat? number
    let y ← scaled? 8 x (clamp (shift + written))
    pure (if parts.negative then y.negate else y)

/-- The value of a numeral: a whole number where it is one and fits, else a floating-point one. -/
def value? (parts : Parts) : Option Number :=
  match parts.fraction, parts.exponent with
  | none, none =>
    let n := natural parts.whole
    match (if parts.negative then Number.ofNegated? n else Number.ofNat? n) with
    | some number => some number
    | none => (binary? parts).map .binary
  | _, _ => (binary? parts).map .binary

end ApplianceConfig.Numeral
