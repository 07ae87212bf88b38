import ApplianceConfig.Text.Range

/-!
# Blanks and control characters

Blanks are the characters with the Unicode property White_Space; texts that a
person or an appliance wrote are trimmed of them at both ends.  Control
characters are those of the Unicode category Cc; they are never shown.
-/

set_option autoImplicit false

namespace ApplianceConfig.Text

/-- The characters with the property White_Space. -/
def blankRanges : List (Nat × Nat) :=
  [(0x9, 0xD), (0x20, 0x20), (0x85, 0x85), (0xA0, 0xA0), (0x1680, 0x1680), (0x2000, 0x200A),
    (0x2028, 0x2029), (0x202F, 0x202F), (0x205F, 0x205F), (0x3000, 0x3000)]

/-- Whether a character is blank. -/
def isBlank (c : Char) : Bool := inRanges blankRanges c

/-- Whether a character is a control character. -/
def isControl (c : Char) : Bool := inRanges [(0x0, 0x1F), (0x7F, 0x9F)] c

/-- A text without the blanks at its ends. -/
def trimChars (text : List Char) : List Char :=
  ((text.dropWhile isBlank).reverse.dropWhile isBlank).reverse

/-- A text without the blanks at its ends. -/
def trim (text : String) : String := String.ofList (trimChars text.toList)

/-- A text without its control characters. -/
def withoutControls (text : String) : String :=
  String.ofList (text.toList.filter fun c => !isControl c)

end ApplianceConfig.Text
