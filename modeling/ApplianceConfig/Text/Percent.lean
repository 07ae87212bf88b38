/-!
# Percent encoding

A value that becomes part of an address keeps ASCII letters, digits and the
characters `-`, `_`, `.` and `~`; every other byte of its UTF-8 form is written
as a percent sign and two upper-case hexadecimal digits.  No character that
separates the parts of an address survives.
-/

set_option autoImplicit false

namespace ApplianceConfig.Text

/-- Whether a byte stands for itself in an encoded value. -/
def isUnreserved (byte : UInt8) : Bool :=
  let n := byte.toNat
  (0x41 ≤ n && n ≤ 0x5A) || (0x61 ≤ n && n ≤ 0x7A) || (0x30 ≤ n && n ≤ 0x39)
    || n == 0x2D || n == 0x5F || n == 0x2E || n == 0x7E

/-- The upper-case hexadecimal digit for a number below sixteen. -/
def upperHexDigit (n : Nat) : Char :=
  if n < 10 then Char.ofNat (0x30 + n) else Char.ofNat (0x37 + n)

/-- The characters that stand for one byte. -/
def percentByte (byte : UInt8) : List Char :=
  if isUnreserved byte then [Char.ofNat byte.toNat]
  else ['%', upperHexDigit (byte.toNat / 16), upperHexDigit (byte.toNat % 16)]

/-- The encoded form of a text. -/
def percentEncode (text : List Char) : List Char :=
  (text.flatMap String.utf8EncodeChar).flatMap percentByte

end ApplianceConfig.Text
