import ApplianceConfig.Json.Basic

/-!
# JSON text

Two spellings of a value.  Compact text has no blanks and is what error texts,
warnings and comparisons of nested values use; indented text spreads lists and
objects over lines with two blanks for every level and is what is shown and
saved.  Strings escape the quote, the backslash and the control characters below
U+0020, and nothing else.
-/

set_option autoImplicit false

namespace ApplianceConfig.Json

/-! ## Strings -/

/-- The escape of one character inside a string, or the character itself. -/
def escapeChar (c : Char) : List Char :=
  match c with
  | '"' => ['\\', '"']
  | '\\' => ['\\', '\\']
  | '\n' => ['\\', 'n']
  | '\r' => ['\\', 'r']
  | '\t' => ['\\', 't']
  | c =>
    if c.toNat = 8 then ['\\', 'b']
    else if c.toNat = 12 then ['\\', 'f']
    else if c.toNat < 0x20 then
      ['\\', 'u', '0', '0', Nat.digitChar (c.toNat / 16), Nat.digitChar (c.toNat % 16)]
    else [c]

/-- A string in quotes with its escapes. -/
def quote (text : String) : String :=
  String.ofList ('"' :: text.toList.flatMap escapeChar ++ ['"'])

/-! ## Compact text -/

mutual
/-- The text of a value without blanks. -/
def compact : Json → String
  | null => "null"
  | bool true => "true"
  | bool false => "false"
  | number value => value.text
  | string text => quote text
  | array items => "[" ++ compactItems items ++ "]"
  | object fields => "\x7b" ++ compactFields fields ++ "\x7d"

/-- The items of a list, separated by commas. -/
def compactItems : List Json → String
  | [] => ""
  | [item] => compact item
  | item :: rest => compact item ++ "," ++ compactItems rest

/-- The fields of an object, separated by commas. -/
def compactFields : List (String × Json) → String
  | [] => ""
  | [(name, value)] => quote name ++ ":" ++ compact value
  | (name, value) :: rest => quote name ++ ":" ++ compact value ++ "," ++ compactFields rest
end

/-! ## Indented text -/

/-- A line break followed by two blanks for every level. -/
def newline (level : Nat) : String := "\n" ++ String.ofList (List.replicate (2 * level) ' ')

mutual
/-- The text of a value spread over lines; the first line is not indented. -/
def indented (level : Nat) : Json → String
  | null => "null"
  | bool true => "true"
  | bool false => "false"
  | number value => value.text
  | string text => quote text
  | array [] => "[]"
  | array items => "[" ++ indentedItems (level + 1) items ++ newline level ++ "]"
  | object [] => "\x7b\x7d"
  | object fields => "\x7b" ++ indentedFields (level + 1) fields ++ newline level ++ "\x7d"

/-- The items of a list, one a line. -/
def indentedItems (level : Nat) : List Json → String
  | [] => ""
  | [item] => newline level ++ indented level item
  | item :: rest => newline level ++ indented level item ++ "," ++ indentedItems level rest

/-- The fields of an object, one a line. -/
def indentedFields (level : Nat) : List (String × Json) → String
  | [] => ""
  | [(name, value)] => newline level ++ quote name ++ ": " ++ indented level value
  | (name, value) :: rest =>
    newline level ++ quote name ++ ": " ++ indented level value ++ ","
      ++ indentedFields level rest
end

/-- The text of a value for a reader of files and terminals. -/
def pretty (value : Json) : String := indented 0 value

end ApplianceConfig.Json
