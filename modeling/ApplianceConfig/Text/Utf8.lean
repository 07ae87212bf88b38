/-!
# UTF-8

Bytes that an appliance sends are read as UTF-8.  A sequence that is not well
formed is replaced by U+FFFD, one replacement for the longest beginning of a
character that the sequence could have been.  Files have to be well formed.
-/

set_option autoImplicit false

namespace ApplianceConfig.Text

/-- The bytes of a text. -/
def utf8 (text : String) : List UInt8 := text.toList.flatMap String.utf8EncodeChar

/-- What the first byte of a character says: the bits it carries, the number of bytes that follow
it, and the bounds of the next one; `none` if no character starts so. -/
def leadByte? (byte : Nat) : Option (Nat × Nat × Nat × Nat) :=
  if byte < 0x80 then some (byte, 0, 0x80, 0xBF)
  else if byte < 0xC2 then none
  else if byte < 0xE0 then some (byte - 0xC0, 1, 0x80, 0xBF)
  else if byte = 0xE0 then some (0, 2, 0xA0, 0xBF)
  else if byte = 0xED then some (0xD, 2, 0x80, 0x9F)
  else if byte < 0xF0 then some (byte - 0xE0, 2, 0x80, 0xBF)
  else if byte = 0xF0 then some (0, 3, 0x90, 0xBF)
  else if byte < 0xF4 then some (byte - 0xF0, 3, 0x80, 0xBF)
  else if byte = 0xF4 then some (4, 3, 0x80, 0x8F)
  else none

/-- The following bytes of a character, joined to the bits read so far: the code point if they are
all there, and the bytes behind the character or behind what was read of it. -/
def tailBytes (bits : Nat) : Nat → Nat → Nat → List UInt8 → Option Nat × List UInt8
  | 0, _, _, rest => (some bits, rest)
  | _ + 1, _, _, [] => (none, [])
  | count + 1, least, greatest, byte :: rest =>
    if least ≤ byte.toNat ∧ byte.toNat ≤ greatest then
      tailBytes (bits * 64 + (byte.toNat - 0x80)) count 0x80 0xBF rest
    else (none, byte :: rest)

/-- The characters of a byte sequence, `none` for each ill-formed part.  The first argument bounds
the number of characters. -/
def decodeParts : Nat → List UInt8 → List (Option Char)
  | 0, _ => []
  | _ + 1, [] => []
  | fuel + 1, byte :: rest =>
    match leadByte? byte.toNat with
    | none => none :: decodeParts fuel rest
    | some (bits, count, least, greatest) =>
      let (point, rest) := tailBytes bits count least greatest rest
      point.map Char.ofNat :: decodeParts fuel rest

/-- The text of a byte sequence, with replacements for what is ill formed. -/
def decodeLossy (bytes : List UInt8) : String :=
  String.ofList ((decodeParts bytes.length bytes).map fun part => part.getD (Char.ofNat 0xFFFD))

/-- The text of a byte sequence that is well formed throughout. -/
def decode? (bytes : List UInt8) : Option String :=
  ((decodeParts bytes.length bytes).mapM fun (part : Option Char) => part).map String.ofList

end ApplianceConfig.Text
