/-!
# A place in YAML text

YAML is read character by character with an eye on where in the text they stand:
columns decide nesting, and a key may not stretch over lines or too many bytes.
A cursor is the text that is left together with its place; its index counts the
bytes before it and its column the characters.  Line breaks are the carriage return,
the line feed, both together, and three characters of Unicode; the first four
kinds are read as a line feed.
-/

set_option autoImplicit false

namespace ApplianceConfig.Yaml

/-! ## Characters -/

/-- Whether a character is a space or a tab. -/
def isBlank (c : Char) : Bool := c == ' ' || c == '\t'

/-- Whether a character ends a line. -/
def isBreak (c : Char) : Bool :=
  c == '\r' || c == '\n' || c.toNat == 0x85 || c.toNat == 0x2028 || c.toNat == 0x2029

/-- Whether a character may stand in YAML text at all. -/
def isAllowed (c : Char) : Bool :=
  let n := c.toNat
  n == 9 || n == 10 || n == 13 || (0x20 ≤ n && n ≤ 0x7E) || n == 0x85
    || (0xA0 ≤ n && n ≤ 0xFFFD) || 0x10000 ≤ n

/-- Whether a character may stand in the name of an anchor. -/
def isWordChar (c : Char) : Bool :=
  ('0' ≤ c && c ≤ '9') || ('A' ≤ c && c ≤ 'Z') || ('a' ≤ c && c ≤ 'z') || c == '_' || c == '-'

/-- The number of bytes that characters take. -/
def byteCount (chars : List Char) : Nat := chars.foldl (fun count c => count + c.utf8Size) 0

/-! ## Cursors -/

/-- The text that is left and its place. -/
structure Cursor where
  rest : List Char
  index : Nat := 0
  line : Nat := 0
  column : Nat := 0

namespace Cursor

/-- The character at a distance. -/
def peek (cursor : Cursor) (distance : Nat) : Option Char := cursor.rest[distance]?

/-- Whether a character stands here. -/
def sees (cursor : Cursor) (c : Char) : Bool := cursor.rest.head? == some c

/-- Whether a blank, a line break or the end stands at a distance. -/
def isBlankOrEndAt (cursor : Cursor) (distance : Nat) : Bool :=
  match cursor.peek distance with
  | none => true
  | some c => isBlank c || isBreak c

/-- Whether a line break or the end stands here. -/
def isBreakOrEnd (cursor : Cursor) : Bool :=
  match cursor.rest with
  | [] => true
  | c :: _ => isBreak c

/-- The place after one character that is no line break. -/
def advance (cursor : Cursor) : Cursor :=
  { cursor with
    rest := cursor.rest.tail
    index := cursor.index + byteCount (cursor.rest.take 1)
    column := cursor.column + 1 }

/-- The place after a number of characters that are no line breaks. -/
def advanceBy (cursor : Cursor) (count : Nat) : Cursor :=
  { cursor with
    rest := cursor.rest.drop count
    index := cursor.index + byteCount (cursor.rest.take count)
    column := cursor.column + count }

/-- The line break that stands here, as it is read, and the place after it; nothing at the end. -/
def takeBreak (cursor : Cursor) : List Char × Cursor :=
  let next := fun (rest : List Char) (count : Nat) =>
    { cursor with rest := rest, index := cursor.index + count, line := cursor.line + 1, column := 0 }
  match cursor.rest with
  | '\r' :: '\n' :: rest => (['\n'], next rest 2)
  | c :: rest =>
    if c == '\r' || c == '\n' || c.toNat == 0x85 then (['\n'], next rest c.utf8Size)
    else if isBreak c then ([c], next rest c.utf8Size)
    else ([], cursor)
  | [] => ([], cursor)

/-- Whether a document marker of three equal characters stands at the start of the line. -/
def atMarker (cursor : Cursor) (c : Char) : Bool :=
  cursor.column == 0 && cursor.peek 0 == some c && cursor.peek 1 == some c
    && cursor.peek 2 == some c && cursor.isBlankOrEndAt 3

/-- Whether either document marker stands here. -/
def atAnyMarker (cursor : Cursor) : Bool := cursor.atMarker '-' || cursor.atMarker '.'

/-- The characters from here that pass a test, and the place after them; for tests that no line
break passes. -/
def takeWhile (cursor : Cursor) (test : Char → Bool) : List Char × Cursor :=
  let taken := cursor.rest.takeWhile test
  (taken, cursor.advanceBy taken.length)

/-- The place after blanks and a comment, if one stands there. -/
def skipToLineEnd (cursor : Cursor) : Cursor :=
  let cursor := (cursor.takeWhile isBlank).2
  if cursor.sees '#' then (cursor.takeWhile fun c => !isBreak c).2 else cursor

end Cursor

end ApplianceConfig.Yaml
