import ApplianceConfig.Fault
import ApplianceConfig.Json.Numeral

/-!
# Firmware versions

A firmware version is a list of numbers separated by dots, which may be followed
by a suffix such as `_IF1`; it is shown as it was written.  Versions are
compared number by number, and a version that ends earlier counts as continued
with zeros, so `10.0` and `10.0.0.0` are the same version, whatever their
suffixes.
-/

set_option autoImplicit false

namespace ApplianceConfig

/-- A firmware version: its numbers and the text it was written as. -/
structure Version where
  parts : List Nat
  text : String
  deriving DecidableEq

namespace Version

/-! ## Reading -/

/-- Whether a character belongs to the numbers at the start of a version. -/
def isNumeric (c : Char) : Bool := Numeral.isDigit c || c == '.'

/-- The runs of digits between dots; empty ones are left out. -/
def digitRuns (text : List Char) : List (List Char) :=
  ((text.splitOn '.').filter fun run => !run.isEmpty)

/-- The number a run of digits writes, if it fits sixty-four bits. -/
def part? (digits : List Char) : Option Nat :=
  let n := Numeral.natural digits
  if n < UInt64.size then some n else none

/-- The numbers of a version text, at least one. -/
def parts? (text : List Char) : Option (List Nat) :=
  match (digitRuns (text.takeWhile isNumeric)).mapM part? with
  | some [] => none
  | parts => parts

/-- Reads a version. -/
def parse (text : String) : Except Fault Version :=
  let trimmed := Text.trimChars text.toList
  match parts? trimmed with
  | some parts => .ok ⟨parts, String.ofList trimmed⟩
  | none => .error (.of (.malformedVersion text))

/-! ## Order -/

/-- The order of two lists of numbers, the shorter one continued with zeros. -/
def compareParts : List Nat → List Nat → Ordering
  | [], [] => .eq
  | [], y :: ys => (compare 0 y).then (compareParts [] ys)
  | x :: xs, [] => (compare x 0).then (compareParts xs [])
  | x :: xs, y :: ys => (compare x y).then (compareParts xs ys)

/-- The order of versions. -/
def order (left right : Version) : Ordering := compareParts left.parts right.parts

/-- Whether a version is at least another one. -/
def atLeast (version minimum : Version) : Bool := version.order minimum != .lt

end Version

end ApplianceConfig
