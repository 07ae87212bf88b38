import ApplianceConfig.Address.Mapping
import ApplianceConfig.Address.Punycode
import ApplianceConfig.Text.Direction
import ApplianceConfig.Text.Joining
import ApplianceConfig.Text.Normal

/-!
# Labels of domain names

A domain name is a row of labels with full stops between them.  A label is
either written out or as `xn--` and its code; both stand for the same text, and
both have to be well formed: a label does not begin with a mark, an invisible
joiner stands only where it shows, and in a domain name with letters from the
right each label writes in one direction.
-/

set_option autoImplicit false

namespace ApplianceConfig.Address.Label

/-! ## Codes -/

/-- What a label with a code begins with. -/
def codeMark : List Char := ['x', 'n', '-', '-']

/-- The greatest length of a code. -/
def longestCode : Nat := 2000

/-- The greatest length of a label that needs a code. -/
def longestText : Nat := 1000

/-- Whether a character is an ASCII character. -/
def isAscii (c : Char) : Bool := c.toNat < 0x80

/-- Whether a text is what a domain name keeps of it: each of its characters is kept, and it is in
normal form. -/
def isSettled (text : List Char) : Bool := text.all isKept && Text.normalForm text == text

/-- The text of a label.  A code has to hold a character outside of ASCII, so it does not end in a
hyphen, and it has to write a text that is kept as it is. -/
def text? (label : List Char) : Option (List Char) :=
  if codeMark.isPrefixOf label then
    let code := label.drop codeMark.length
    if !code.all isAscii || label.getLast? == some '-' || longestCode < code.length then none
    else (Punycode.decode? code).filter isSettled
  else some label

/-- A label in ASCII. -/
def form (text : List Char) : List Char :=
  if text.all isAscii then text else codeMark ++ Punycode.encode text

/-! ## Joiners -/

/-- The joiner that keeps letters apart. -/
def apart : Char := Char.ofNat 0x200C

/-- The joiner that asks for joined letters. -/
def together : Char := Char.ofNat 0x200D

/-- Whether the first character that is not looked through is joined in one of the given ways. -/
def joinsBy (ways : List Text.Joining) (text : List Char) : Bool :=
  match text.find? fun c => Text.joining c != .transparent with
  | some c => ways.contains (Text.joining c)
  | none => false

/-- Whether the joiners of a text stand where they show, behind the characters before it, given in
reverse: behind a character that joins consonants, or, to keep letters apart, between two letters
that would be joined. -/
def joinersFit (before : List Char) : List Char → Bool
  | [] => true
  | c :: rest =>
    let fits :=
      if c == apart || c == together then
        (before.head?.map Text.isVirama).getD false
          || (c == apart && joinsBy [.left, .dual] before && joinsBy [.right, .dual] rest)
      else true
    fits && joinersFit (c :: before) rest

/-! ## Directions -/

/-- Whether a character writes from the right. -/
def isFromRight (c : Char) : Bool :=
  [.rightToLeft, .arabicLetter, .arabicNumber].contains (Text.direction c)

/-- The directions that may stand in a label from either side. -/
def commonDirections : List Text.Direction :=
  [.europeanNumber, .europeanSeparator, .commonSeparator, .europeanTerminator, .neutral, .boundary,
    .nonspacing]

/-- Whether the last direction besides those of marks is one of the given ones. -/
def endsIn (ends : List Text.Direction) (directions : List Text.Direction) : Bool :=
  match directions.reverse.find? (· != .nonspacing) with
  | some last => ends.contains last
  | none => false

/-- Whether a label that begins with a letter writes in the direction of this letter; in a label
from the right all digits are of one kind. -/
def directionsAgree (directions : List Text.Direction) : Bool :=
  match directions with
  | [] => true
  | .leftToRight :: _ =>
    directions.all (fun direction => (.leftToRight :: commonDirections).contains direction)
      && endsIn [.leftToRight, .europeanNumber] directions
  | .rightToLeft :: _ | .arabicLetter :: _ =>
    directions.all (fun direction =>
        (.rightToLeft :: .arabicLetter :: .arabicNumber :: commonDirections).contains direction)
      && endsIn [.rightToLeft, .arabicLetter, .europeanNumber, .arabicNumber] directions
      && !(directions.contains .europeanNumber && directions.contains .arabicNumber)
  | _ => false

/-! ## Well-formed labels -/

/-- Whether a text may be a label by itself. -/
def isWellFormed (text : List Char) : Bool :=
  !(text.head?.map Text.isMark).getD false && joinersFit [] text
    && (text.all isAscii || text.length ≤ longestText)

/-- Whether texts may be labels beside each other. -/
def areWellFormed (texts : List (List Char)) : Bool :=
  texts.all isWellFormed
    && (!texts.any (fun text => text.any isFromRight)
      || texts.all fun text => directionsAgree (text.map Text.direction))

end ApplianceConfig.Address.Label
