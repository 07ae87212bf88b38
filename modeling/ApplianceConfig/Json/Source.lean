import ApplianceConfig.Json.Numeral
import ApplianceConfig.Text.Hex

/-!
# JSON text as it is written

The reader accepts exactly the JSON grammar: no comments, no trailing commas,
control characters only as escapes.  It gives the tree of the text and decides
nothing that the grammar leaves open: numerals stay apart in their parts, escapes
by number may be halves of surrogate pairs, objects may repeat a name, and
containers may be nested as deeply as they are.
-/

set_option autoImplicit false

namespace ApplianceConfig.Json

/-- A part of a written string: a character, or the sixteen-bit unit of an escape by number. -/
inductive StringPart where
  | char (value : Char)
  | unit (value : Nat)
  deriving DecidableEq

/-- The tree of a JSON text. -/
inductive Source where
  | null
  | bool (value : Bool)
  | numeral (parts : Numeral.Parts)
  | string (parts : List StringPart)
  | array (items : List Source)
  | object (fields : List (List StringPart × Source))

namespace Source

/-- Whether a character is blank between the tokens of JSON text. -/
def isBlank (c : Char) : Bool := c == ' ' || c == '\t' || c == '\n' || c == '\r'

/-- The text after leading blanks. -/
def skipBlanks (text : List Char) : List Char := text.dropWhile isBlank

/-! ## Strings -/

/-- The character of a one-letter escape. -/
def shortEscape? : Char → Option Char
  | '"' => some '"'
  | '\\' => some '\\'
  | '/' => some '/'
  | 'b' => some (Char.ofNat 8)
  | 'f' => some (Char.ofNat 12)
  | 'n' => some '\n'
  | 'r' => some '\r'
  | 't' => some '\t'
  | _ => none

/-- The parts of a string after its opening quote, and the text after its closing quote. -/
def string? : List Char → Option (List StringPart × List Char)
  | [] => none
  | '"' :: rest => some ([], rest)
  | '\\' :: 'u' :: a :: b :: c :: d :: rest => do
    let unit ← Text.hexNumber? [a, b, c, d]
    let (parts, rest) ← string? rest
    pure (.unit unit :: parts, rest)
  | '\\' :: c :: rest => do
    let c ← shortEscape? c
    let (parts, rest) ← string? rest
    pure (.char c :: parts, rest)
  | c :: rest =>
    if c.toNat < 0x20 || c == '\\' then none
    else do
      let (parts, rest) ← string? rest
      pure (.char c :: parts, rest)

/-! ## Values -/

/-- The text after a given word, if it starts with it. -/
def after? : List Char → List Char → Option (List Char)
  | [], text => some text
  | c :: word, d :: text => if c = d then after? word text else none
  | _ :: _, [] => none

mutual
/-- The value at the start of a text, and the text after it. -/
def value? : Nat → List Char → Option (Source × List Char)
  | 0, _ => none
  | fuel + 1, text =>
    match skipBlanks text with
    | '"' :: rest => (string? rest).map fun (parts, rest) => (string parts, rest)
    | '[' :: rest =>
      match skipBlanks rest with
      | ']' :: rest => some (array [], rest)
      | rest => (items? fuel rest).map fun (items, rest) => (array items, rest)
    | '\x7b' :: rest =>
      match skipBlanks rest with
      | '\x7d' :: rest => some (object [], rest)
      | rest => (fields? fuel rest).map fun (fields, rest) => (object fields, rest)
    | 'n' :: rest => (after? ['u', 'l', 'l'] rest).map fun rest => (null, rest)
    | 't' :: rest => (after? ['r', 'u', 'e'] rest).map fun rest => (bool true, rest)
    | 'f' :: rest => (after? ['a', 'l', 's', 'e'] rest).map fun rest => (bool false, rest)
    | text => (Numeral.split? text).map fun (parts, rest) => (numeral parts, rest)

/-- The items of a list and its closing bracket; at least one item. -/
def items? : Nat → List Char → Option (List Source × List Char)
  | 0, _ => none
  | fuel + 1, text =>
    match value? fuel text with
    | none => none
    | some (item, rest) =>
      match skipBlanks rest with
      | ',' :: rest => (items? fuel rest).map fun (items, rest) => (item :: items, rest)
      | ']' :: rest => some ([item], rest)
      | _ => none

/-- The fields of an object and its closing brace; at least one field. -/
def fields? : Nat → List Char → Option (List (List StringPart × Source) × List Char)
  | 0, _ => none
  | fuel + 1, text =>
    match skipBlanks text with
    | '"' :: rest =>
      match string? rest with
      | none => none
      | some (name, rest) =>
        match skipBlanks rest with
        | ':' :: rest =>
          match value? fuel rest with
          | none => none
          | some (value, rest) =>
            match skipBlanks rest with
            | ',' :: rest =>
              (fields? fuel rest).map fun (fields, rest) => ((name, value) :: fields, rest)
            | '\x7d' :: rest => some ([(name, value)], rest)
            | _ => none
        | _ => none
    | _ => none
end

/-- The tree of a text. -/
def parse? (text : String) : Option Source :=
  let chars := text.toList
  match value? (2 * chars.length + 2) chars with
  | some (value, rest) => if (skipBlanks rest).isEmpty then some value else none
  | none => none

end Source

end ApplianceConfig.Json
