import ApplianceConfig.Json.Numeral
import ApplianceConfig.Yaml.Token

/-!
# What plain texts mean

A plain text may be a null, a boolean, a whole number or a floating-point number;
everything else, and every text in quotes or in a block, is a string.  Whole
numbers are decimal without leading zeros, or have one of three bases marked by a
lower-case letter.  Floating-point numbers are rounded to the nearest value; the
infinities and the value that is no number have names of their own.
-/

set_option autoImplicit false

namespace ApplianceConfig.Yaml

/-! ## Nulls and booleans -/

/-- Whether a text is a null. -/
def isNull (text : String) : Bool := ["null", "Null", "NULL", "~"].contains text

/-- The boolean that a text names. -/
def bool? (text : String) : Option Bool :=
  if ["true", "True", "TRUE"].contains text then some true
  else if ["false", "False", "FALSE"].contains text then some false
  else none

/-! ## Whole numbers -/

/-- The value of a digit below a base. -/
def baseDigit? (base : Nat) (c : Char) : Option Nat :=
  match Text.hexDigit? c with
  | some digit => if digit < base then some digit else none
  | none => none

/-- The number that digits of a base write; at least one digit. -/
def digits? (base : Nat) (digits : List Char) : Option Nat :=
  if digits.isEmpty then none
  else digits.foldl (fun number c => do pure (base * (← number) + (← baseDigit? base c))) (some 0)

/-- The base that a marker at the start of digits gives, and the digits behind it. -/
def marked? : List Char → Option (Nat × List Char)
  | '0' :: 'x' :: rest => some (16, rest)
  | '0' :: 'o' :: rest => some (8, rest)
  | '0' :: 'b' :: rest => some (2, rest)
  | _ => none

/-- A text without the sign at its start. -/
def unsigned (text : List Char) : List Char :=
  match text with
  | '-' :: rest => rest
  | '+' :: rest => rest
  | rest => rest

/-- Whether a text is a run of digits with superfluous zeros, which is no number. -/
def hasLeadingZeros (text : List Char) : Bool :=
  match unsigned text with
  | '0' :: rest@(_ :: _) => rest.all Numeral.isDigit
  | _ => false

/-- The number that digits with or without a marker write. -/
def magnitude? (digits : List Char) : Option Nat :=
  match (marked? digits).bind fun (base, digits) => digits? base digits with
  | some n => some n
  | none => digits? 10 digits

/-- The whole number that a text writes, of any size. -/
def whole? (text : List Char) : Option Int :=
  if hasLeadingZeros text then none
  else
    match text with
    | '-' :: digits => (magnitude? digits).map fun n => -(n : Int)
    | '+' :: digits => (magnitude? digits).map fun n => (n : Int)
    | digits => (magnitude? digits).map fun n => (n : Int)

/-- The natural number below a bound that a text writes; it has no minus sign, not even before a
zero. -/
def natBelow? (bound : Nat) (text : List Char) : Option Nat :=
  if hasLeadingZeros text then none
  else
    let digits := match text with
      | '+' :: rest => rest
      | rest => rest
    (magnitude? digits).filter (· < bound)

/-! ## Floating-point numbers -/

/-- A floating-point number, or one of the values beyond the finite ones. -/
inductive FloatText where
  | finite (value : Binary64)
  | notFinite

/-- The names of the infinities and of the value that is no number. -/
def notFiniteNames : List String :=
  [".inf", ".Inf", ".INF", "+.inf", "+.Inf", "+.INF", "-.inf", "-.Inf", "-.INF", ".nan", ".NaN",
    ".NAN"]

/-- The exponent at the end of a number, of any size. -/
def exponent? : List Char → Option Int
  | [] => some 0
  | c :: rest =>
    if c = 'e' ∨ c = 'E' then
      let digits := unsigned rest
      if digits.isEmpty || !digits.all Numeral.isDigit then none
      else
        let n := Numeral.natural digits
        some (if rest.head? = some '-' then -(n : Int) else n)
    else none

/-- The decimal that a text without sign writes: digits with or without a point, at least one of
them, and with or without an exponent. -/
def decimal? (text : List Char) : Option Decimal := do
  let (whole, rest) := Numeral.span text
  let (fraction, rest) := match rest with
    | '.' :: rest => Numeral.span rest
    | rest => ([], rest)
  if whole.isEmpty && fraction.isEmpty then none
  let exponent ← exponent? rest
  pure ⟨Numeral.natural (whole ++ fraction), exponent - fraction.length⟩

/-- The number nearest to a decimal with a sign, if it is in range.  Exponents far beyond the range
are settled without computing the power. -/
def nearest? (negative : Bool) (decimal : Decimal) : Option Binary64 :=
  let leading := decimal.exponent + Decimal.width decimal.digits
  if decimal.digits = 0 ∨ leading < -400 then some (Binary64.zero negative)
  else if 400 < leading then none
  else
    let fraction := decimal.fraction
    Binary64.nearest? negative fraction.1 fraction.2

/-- The floating-point number that a text writes; a finite one has to be in range. -/
def float? (text : List Char) : Option FloatText :=
  if notFiniteNames.contains (String.ofList text) then some .notFinite
  else do
    let decimal ← decimal? (unsigned text)
    let value ← nearest? (text.head? == some '-') decimal
    pure (.finite value)

end ApplianceConfig.Yaml
