import ApplianceConfig.Text.Hex
import ApplianceConfig.Text.Percent
import ApplianceConfig.Text.Utf8

/-!
# Percent escapes in addresses

The parts of an address escape the characters that would end them and everything
outside of printable ASCII.  A host may be written with escapes, which are
resolved before it is looked at.
-/

set_option autoImplicit false

namespace ApplianceConfig.Address

/-- Whether a character is no printable ASCII character. -/
def isHidden (c : Char) : Bool := c.toNat < 0x20 || 0x7E < c.toNat

/-- Whether a character is escaped in a fragment. -/
def escapedInFragment (c : Char) : Bool :=
  isHidden c || [' ', '"', '<', '>', '\x60'].contains c

/-- Whether a character is escaped in a query. -/
def escapedInQuery (c : Char) : Bool :=
  isHidden c || [' ', '"', '#', '<', '>', '\x27'].contains c

/-- Whether a character is escaped in a path. -/
def escapedInPath (c : Char) : Bool :=
  escapedInFragment c || ['#', '?', '\x7b', '\x7d'].contains c

/-- Whether a character is escaped in the name or password before a host. -/
def escapedInUser (c : Char) : Bool :=
  escapedInPath c || ['/', ':', ';', '=', '@', '[', '\\', ']', '^', '|'].contains c

/-- The escapes of a character's bytes. -/
def escapeChar (c : Char) : List Char :=
  (String.utf8EncodeChar c).flatMap fun byte =>
    ['%', Text.upperHexDigit (byte.toNat / 16), Text.upperHexDigit (byte.toNat % 16)]

/-- A text with the characters of a class escaped. -/
def escape (isEscaped : Char → Bool) (text : List Char) : List Char :=
  text.flatMap fun c => if isEscaped c then escapeChar c else [c]

/-- The bytes of a text with its escapes resolved; a percent sign without two digits stands for
itself. -/
def unescape : List Char → List UInt8
  | [] => []
  | '%' :: a :: b :: rest =>
    match Text.hexDigit? a, Text.hexDigit? b with
    | some high, some low => UInt8.ofNat (16 * high + low) :: unescape rest
    | _, _ => String.utf8EncodeChar '%' ++ unescape (a :: b :: rest)
  | c :: rest => String.utf8EncodeChar c ++ unescape rest

end ApplianceConfig.Address
