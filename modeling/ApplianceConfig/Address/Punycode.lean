/-!
# The code of a label

A label of a domain name with characters outside of ASCII is written in ASCII as
a code: first its ASCII characters, then, behind a hyphen, numbers that say
where the others are put in, in the order of their code points.  A number is
written in digits of base 36, the lowest first, and ends at the first digit
below a threshold; the thresholds depend on a bias that adapts to the numbers
written before.

Code points and numbers are held below `2 ^ 32`; a code that leaves this range
is refused.
-/

set_option autoImplicit false

namespace ApplianceConfig.Address.Punycode

/-! ## Digits, thresholds and bias -/

/-- The digit for a number below thirty-six. -/
def digit (n : Nat) : Char :=
  if n < 26 then Char.ofNat (0x61 + n) else Char.ofNat (0x30 + (n - 26))

/-- The number that a digit stands for; letters may be of either case. -/
def digitValue? (c : Char) : Option Nat :=
  let n := c.toNat
  if 0x61 ≤ n && n ≤ 0x7A then some (n - 0x61)
  else if 0x41 ≤ n && n ≤ 0x5A then some (n - 0x41)
  else if 0x30 ≤ n && n ≤ 0x39 then some (n - 0x30 + 26)
  else none

/-- The threshold of the digit at a position, counted in steps of thirty-six. -/
def threshold (position bias : Nat) : Nat :=
  if position ≤ bias then 1 else if bias + 26 ≤ position then 26 else position - bias

/-- Thresholds lie between one and twenty-six. -/
theorem threshold_bounds (position bias : Nat) :
    1 ≤ threshold position bias ∧ threshold position bias ≤ 26 := by
  unfold threshold
  split
  · omega
  · split <;> omega

/-- Divides a number down until it is small: how often it was divided, and what is left. -/
def damp (number count : Nat) : Nat × Nat :=
  if 455 < number then damp (number / 35) (count + 1) else (count, number)
termination_by number
decreasing_by exact Nat.div_lt_self (by omega) (by omega)

/-- The bias after a number, when the text has a number of characters. -/
def adapt (number characters : Nat) (isFirst : Bool) : Nat :=
  let number := if isFirst then number / 700 else number / 2
  let (count, number) := damp (number + number / characters) 0
  36 * count + 36 * number / (number + 38)

/-! ## Writing -/

/-- The digits of a number from a position on. -/
def writeNumber (bias position number : Nat) : List Char :=
  let t := threshold position bias
  if number < t then [digit number]
  else digit (t + (number - t) % (36 - t))
    :: writeNumber bias (position + 36) ((number - t) / (36 - t))
termination_by number
decreasing_by
  have bounds := threshold_bounds position bias
  calc (number - threshold position bias) / (36 - threshold position bias)
      ≤ number - threshold position bias := Nat.div_le_self _ _
    _ < number := by omega

/-- What the writer holds: the number since the last one written, the bias, how many characters are
written, and the code so far. -/
structure Writer where
  number : Nat := 0
  bias : Nat := 72
  written : Nat
  output : List Char

/-- The writer after one character of the label, in the round of a code point. -/
def Writer.look (basic point : Nat) (writer : Writer) (c : Char) : Writer :=
  if c.toNat < point then { writer with number := writer.number + 1 }
  else if c.toNat = point then
    { number := 0
      bias := adapt writer.number (writer.written + 1) (writer.written == basic)
      written := writer.written + 1
      output := writer.output ++ writeNumber writer.bias 36 writer.number }
  else writer

/-- The writer after the rounds of rising code points, where the last round was that of the code
point before `next`. -/
def writeRounds (label : List Char) (basic : Nat) : Nat → List Nat → Writer → Writer
  | _, [], writer => writer
  | next, point :: points, writer =>
    let skipped := { writer with number := writer.number + (point - next) * (writer.written + 1) }
    let writer := label.foldl (Writer.look basic point) skipped
    writeRounds label basic (point + 1) points { writer with number := writer.number + 1 }

/-- A list of rising numbers with one put in. -/
def insertPoint (n : Nat) : List Nat → List Nat
  | [] => [n]
  | m :: rest => if n < m then n :: m :: rest else if n = m then m :: rest else m :: insertPoint n rest

/-- The code of a label. -/
def encode (label : List Char) : List Char :=
  let basic := label.filter fun c => c.toNat < 0x80
  let others := (label.map Char.toNat).filter (0x80 ≤ ·)
  let start := if basic.isEmpty then [] else basic ++ ['-']
  (writeRounds label basic.length 0x80 (others.foldr insertPoint [])
    { written := basic.length, output := start }).output

/-! ## Reading -/

/-- The bound of all numbers. -/
def bound : Nat := 0x100000000

/-- Reads a number, added to the one before, and gives what follows it. -/
def readNumber? (bias : Nat) : List Char → Nat → Nat → Nat → Option (Nat × List Char)
  | [], _, _, _ => none
  | c :: rest, position, weight, number => do
    let value ← digitValue? c
    let number := number + value * weight
    if bound ≤ number then none
    let t := threshold position bias
    if value < t then pure (number, rest)
    else if bound ≤ weight * (36 - t) then none
    else readNumber? bias rest (position + 36) (weight * (36 - t)) number

/-- A number takes up at least one digit. -/
theorem length_lt_of_readNumber? (bias : Nat) (digits : List Char) (position weight number : Nat)
    (result : Nat × List Char)
    (h : readNumber? bias digits position weight number = some result) :
    result.2.length < digits.length := by
  induction digits generalizing position weight number with
  | nil => simp [readNumber?] at h
  | cons c rest ih =>
    simp only [readNumber?] at h
    cases hc : digitValue? c with
    | none => simp [hc] at h
    | some value =>
      simp only [hc, Option.bind_eq_bind, Option.bind_some] at h
      split at h
      · simp at h
      · split at h
        · simp only [Option.pure_def, Option.some.injEq] at h
          simp [← h]
        · split at h
          · simp at h
          · have := ih _ _ _ h
            simp only [List.length_cons]
            omega

/-- Whether a number is the code point of a character. -/
def isPoint (n : Nat) : Bool := n < 0xD800 || (0xDFFF < n && n < 0x110000)

/-- Puts characters into a text as numbers say: from a bias, the last code point and the place
behind the last character put in. -/
def readRounds? (bias point place : Nat) (text digits : List Char) : Option (List Char) :=
  match digits with
  | [] => some text
  | c :: rest =>
    match _h : readNumber? bias (c :: rest) 36 1 place with
    | none => none
    | some (number, rest) =>
      let characters := text.length + 1
      let next := point + number / characters
      if isPoint next then
        readRounds? (adapt (number - place) characters (place == 0)) next (number % characters + 1)
          (text.insertIdx (number % characters) (Char.ofNat next)) rest
      else none
termination_by digits.length
decreasing_by exact length_lt_of_readNumber? _ _ _ _ _ _ _h

/-- A code split at its last hyphen; one at its start splits nothing off. -/
def splitCode (code : List Char) : List Char × List Char :=
  let digits := (code.reverse.takeWhile (· != '-')).reverse
  let basic := (code.reverse.drop (digits.length + 1)).reverse
  if basic.isEmpty then ([], code) else (basic, digits)

/-- The label that a code writes. -/
def decode? (code : List Char) : Option (List Char) :=
  let (basic, digits) := splitCode code
  readRounds? 72 0x80 0 basic digits

end ApplianceConfig.Address.Punycode
