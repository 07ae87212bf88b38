import ApplianceConfig.Text.Utf8

/-!
# Base64

Credentials travel in a header that carries their bytes in the base64 alphabet,
three bytes to four letters, the last group filled up with equals signs.
-/

set_option autoImplicit false

namespace ApplianceConfig.Text

/-- The letter for a number below sixty-four. -/
def base64Letter (n : Nat) : Char :=
  if n < 26 then Char.ofNat (0x41 + n)
  else if n < 52 then Char.ofNat (0x61 + (n - 26))
  else if n < 62 then Char.ofNat (0x30 + (n - 52))
  else if n = 62 then '+'
  else '/'

/-- The letters for a sequence of bytes. -/
def base64Chars : List UInt8 → List Char
  | [] => []
  | [a] =>
    [base64Letter (a.toNat / 4), base64Letter (a.toNat % 4 * 16), '=', '=']
  | [a, b] =>
    [base64Letter (a.toNat / 4), base64Letter (a.toNat % 4 * 16 + b.toNat / 16),
      base64Letter (b.toNat % 16 * 4), '=']
  | a :: b :: c :: rest =>
    base64Letter (a.toNat / 4) :: base64Letter (a.toNat % 4 * 16 + b.toNat / 16)
      :: base64Letter (b.toNat % 16 * 4 + c.toNat / 64) :: base64Letter (c.toNat % 64)
      :: base64Chars rest

/-- The base64 form of a text's bytes. -/
def base64 (text : String) : String := String.ofList (base64Chars (utf8 text))

end ApplianceConfig.Text
