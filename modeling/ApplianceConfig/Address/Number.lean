import ApplianceConfig.Address.Percent
import ApplianceConfig.Fault
import ApplianceConfig.Json.Numeral

/-!
# Numeric hosts

A host whose last label is a number is an address of four bytes: up to four
numbers, decimal, octal or hexadecimal, the last of which fills the bytes that
are left.  A host in brackets is an address of eight units, written with the
longest run of zero units left out.
-/

set_option autoImplicit false

namespace ApplianceConfig.Address

/-! ## Four bytes -/

/-- The value of digits of a base; none if a character is no digit of it. -/
def digitsOf? (base : Nat) (digits : List Char) : Option Nat :=
  digits.foldl (fun number c => do
    let number ← number
    let digit ← Text.hexDigit? c
    if digit < base then some (base * number + digit) else none) (some 0)

/-- The number a label writes. -/
def labelNumber? (label : List Char) : Option Nat :=
  match label with
  | [] => none
  | '0' :: 'x' :: rest => digitsOf? 16 rest
  | '0' :: 'X' :: rest => digitsOf? 16 rest
  | '0' :: rest@(_ :: _) => digitsOf? 8 rest
  | digits => digitsOf? 10 digits

/-- The labels of a host; an empty one at the end does not count. -/
def labels (host : List Char) : List (List Char) :=
  let labels := host.splitOn '.'
  if labels.getLast? = some [] then labels.dropLast else labels

/-- Whether the last label of a host is a number. -/
def endsInNumber (host : List Char) : Bool :=
  match (labels host).getLast? with
  | some label => (!label.isEmpty && label.all Numeral.isDigit) || (labelNumber? label).isSome
  | none => false

/-- The bytes of the numbers of a host, joined to one number. -/
def joinNumbers? (numbers : List Nat) : Option Nat :=
  match numbers.reverse with
  | [] => none
  | last :: others =>
    if 4 < numbers.length then none
    else if others.any fun n => 255 < n then none
    else if Nat.pow 256 (4 - others.length) ≤ last then none
    else
      some (others.reverse.foldl (fun total n => 256 * total + n) 0 * Nat.pow 256 (4 - others.length)
        + last)

/-- The text of an address of four bytes. -/
def bytesText (n : Nat) : String :=
  String.intercalate "." ([0x1000000, 0x10000, 0x100, 1].map fun unit => toString (n / unit % 256))

/-- The address of four bytes that a host writes. -/
def fourBytes? (host : List Char) : Option String := do
  let numbers ← (labels host).mapM labelNumber?
  let n ← joinNumbers? numbers
  pure (bytesText n)

/-! ## Eight units -/

/-- The unit that one to four hexadecimal digits write. -/
def unit? (digits : List Char) : Option Nat :=
  if digits.isEmpty || 4 < digits.length then none else digitsOf? 16 digits

/-- A decimal byte without superfluous zeros. -/
def byte? (digits : List Char) : Option Nat :=
  match digits with
  | [] => none
  | '0' :: _ :: _ => none
  | digits =>
    if digits.all Numeral.isDigit && digits.length ≤ 3 then
      (let n := Numeral.natural digits
       if n < 256 then some n else none)
    else none

/-- The two units that four bytes with points write. -/
def byteUnits? (text : List Char) : Option (List Nat) :=
  match (text.splitOn '.').mapM byte? with
  | some [a, b, c, d] => some [256 * a + b, 256 * c + d]
  | _ => none

/-- The units between colons; the last part may be four bytes with points. -/
def units? : List (List Char) → Option (List Nat)
  | [] => some []
  | [last] => if last.contains '.' then byteUnits? last else (unit? last).map ([·])
  | part :: rest => do
    let unit ← unit? part
    let units ← units? rest
    pure (unit :: units)

/-- The units of a text without a gap; an empty text has none. -/
def unitRun? (text : List Char) : Option (List Nat) :=
  if text.isEmpty then some [] else units? (text.splitOn ':')

/-- A text split at its first double colon. -/
def splitGap? : List Char → Option (List Char × List Char)
  | ':' :: ':' :: rest => some ([], rest)
  | c :: rest => (splitGap? rest).map fun (before, after) => (c :: before, after)
  | [] => none

/-- The eight units of an address; a double colon stands for the zero units left out, at least
one. -/
def eightUnits? (text : List Char) : Option (List Nat) :=
  match splitGap? text with
  | some (before, after) => do
    if before.contains '.' then none
    let first ← unitRun? before
    let last ← unitRun? after
    if first.length + last.length < 8 then
      pure (first ++ List.replicate (8 - first.length - last.length) 0 ++ last)
    else none
  | none => do
    let units ← unitRun? text
    if units.length = 8 then pure units else none

/-- The length of the run of zeros at the start of a list. -/
def zeroRun (units : List Nat) : Nat := (units.takeWhile (· == 0)).length

/-- The start and length of the longest run of at least two zeros, the first of several. -/
def longestRun (units : List Nat) : Nat × Nat :=
  (List.range units.length).foldl (fun best start =>
    let length := zeroRun (units.drop start)
    if best.2 < length ∧ 2 ≤ length then (start, length) else best) (0, 0)

/-- Units with colons between them. -/
def unitsText (units : List Nat) : String :=
  String.intercalate ":" (units.map fun unit => String.ofList (Nat.toDigits 16 unit))

/-- The text of an address of eight units in brackets. -/
def bracketText (units : List Nat) : String :=
  let (start, length) := longestRun units
  if length = 0 then "[" ++ unitsText units ++ "]"
  else
    "[" ++ unitsText (units.take start) ++ "::" ++ unitsText (units.drop (start + length)) ++ "]"

end ApplianceConfig.Address
