import ApplianceConfig.Text.Composition
import ApplianceConfig.Text.Mark

/-!
# Composed normal form

Texts that look alike can be written in several ways: a letter with marks as one
character or as several, and several marks in any order.  The normal form takes
every composed character apart, brings the marks behind each character into the
order of their classes, and composes again what composes.  Characters that only
stand for another one are left as they are.
-/

set_option autoImplicit false

namespace ApplianceConfig.Text

/-! ## Taking apart -/

/-- The greatest number of times that a character can be taken apart. -/
def deepestComposition : Nat := 4

/-- A character taken apart as often as possible, at most a number of times. -/
def decomposeChar : Nat → Char → List Char
  | 0, c => [c]
  | depth + 1, c =>
    match parts? c with
    | some (first, second) => decomposeChar depth first ++ decomposeChar depth second
    | none => [c]

/-- A text with every composed character taken apart. -/
def decompose (text : List Char) : List Char := text.flatMap (decomposeChar deepestComposition)

/-! ## Ordering marks -/

/-- Marks in the order of their classes with one put in behind those of its own class. -/
def insertMark (mark : Char) : List Char → List Char
  | [] => [mark]
  | other :: rest =>
    if combiningClass mark < combiningClass other then mark :: other :: rest
    else other :: insertMark mark rest

/-- A text with marks before it in the order of their classes. -/
def orderFrom (marks : List Char) : List Char → List Char
  | [] => marks
  | c :: rest =>
    if combiningClass c = 0 then marks ++ c :: orderFrom [] rest
    else orderFrom (insertMark c marks) rest

/-- A text with its marks in the order of their classes. -/
def orderMarks (text : List Char) : List Char := orderFrom [] text

/-! ## Composing -/

/-- Whether a mark among those behind a character keeps another one from it. -/
def isBlocked (marks : List Char) (c : Char) : Bool :=
  match marks with
  | [] => false
  | last :: _ => combiningClass c ≤ combiningClass last

/-- A text composed with the character before it and the marks between them, the last first, which
do not compose with this character. -/
def composeFrom (base : Char) (marks : List Char) : List Char → List Char
  | [] => base :: marks.reverse
  | c :: rest =>
    match if isBlocked marks c then none else composed? base c with
    | some whole => composeFrom whole marks rest
    | none =>
      if combiningClass c = 0 then base :: marks.reverse ++ composeFrom c [] rest
      else composeFrom base (c :: marks) rest

/-- A text with everything composed that composes; marks before the first other character stay. -/
def compose : List Char → List Char
  | [] => []
  | c :: rest => if combiningClass c = 0 then composeFrom c [] rest else c :: compose rest

/-- The composed normal form of a text. -/
def normalForm (text : List Char) : List Char := compose (orderMarks (decompose text))

end ApplianceConfig.Text
