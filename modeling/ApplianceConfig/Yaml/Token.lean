import ApplianceConfig.Text.Utf8
import ApplianceConfig.Yaml.Text

/-!
# Tokens of YAML

YAML text is first cut into tokens.  Indentation becomes tokens of its own: the
start and the end of block collections.  A key is recognized late, by the colon
behind it, so the scanner remembers where a key may have started on the current
line and puts the key token in there when the colon comes.

Escapes let a tag hold bytes that are no text, so the parts of a tag are bytes;
what stands behind a null byte does not belong to it.

`scan?` gives the tokens of a text, or nothing if the text is malformed.
-/

set_option autoImplicit false

namespace ApplianceConfig.Yaml

/-- How a text was written. -/
inductive Style where
  | plain
  | quoted
  | literal
  | folded
  deriving DecidableEq, Repr

/-- A token. -/
inductive Token where
  | versionDirective (major minor : Nat)
  | tagDirective (handle : String) (leading : List UInt8)
  | documentStart
  | documentEnd
  | streamEnd
  | blockSequenceStart
  | blockMappingStart
  | blockEnd
  | flowSequenceStart
  | flowSequenceEnd
  | flowMappingStart
  | flowMappingEnd
  | blockEntry
  | flowEntry
  | key
  | value
  | alias (name : String)
  | anchor (name : String)
  | tag (handle : String) (suffix : List UInt8)
  | scalar (text : String) (style : Style)
  deriving DecidableEq, Repr

/-! ## Anchors, tags and directives -/

/-- Whether a character may follow the name of an anchor. -/
def endsName (c : Char) : Bool :=
  c == '?' || c == ':' || c == ',' || c == ']' || c == '\x7d' || c == '%' || c == '@'
    || c == '\x60'

/-- The name of an anchor or alias behind its indicator. -/
def name? (cursor : Cursor) : Option (String × Cursor) :=
  let (name, next) := cursor.advance.takeWhile isWordChar
  if name.isEmpty then none
  else if next.isBlankOrEndAt 0 || ((next.peek 0).map endsName).getD false then
    some (String.ofList name, next)
  else none

/-- Whether a character may stand in a tag. -/
def isTagChar (verbatim : Bool) (c : Char) : Bool :=
  isWordChar c || [';', '/', '?', ':', '@', '&', '=', '+', '$', '.', '!', '~', '*', '\x27', '(',
      ')'].contains c
    || (verbatim && [',', '[', ']'].contains c)

/-- The byte that an escape of a percent sign and two digits stands for. -/
def escapedByte? (cursor : Cursor) : Option (Nat × Cursor) :=
  match cursor.rest with
  | '%' :: a :: b :: _ => (Text.hexNumber? [a, b]).map fun byte => (byte, cursor.advanceBy 3)
  | _ => none

/-- How many bytes follow the first one of an escaped character. -/
def followingBytes? (byte : Nat) : Option Nat :=
  if byte < 0x80 then some 0
  else if byte < 0xC0 then none
  else if byte < 0xE0 then some 1
  else if byte < 0xF0 then some 2
  else if byte < 0xF8 then some 3
  else none

/-- A number of escaped bytes that do not start a character. -/
def escapedTail? : Nat → Cursor → Option (List UInt8 × Cursor)
  | 0, cursor => some ([], cursor)
  | count + 1, cursor => do
    let (byte, cursor) ← escapedByte? cursor
    if byte < 0x80 || 0xC0 ≤ byte then none
    let (bytes, cursor) ← escapedTail? count cursor
    pure (UInt8.ofNat byte :: bytes, cursor)

/-- The bytes of an escaped character.  Only how many there are has to fit, so that they need not
be a character at all. -/
def escapedChar? (cursor : Cursor) : Option (List UInt8 × Cursor) := do
  let (byte, cursor) ← escapedByte? cursor
  let (bytes, cursor) ← escapedTail? (← followingBytes? byte) cursor
  pure (UInt8.ofNat byte :: bytes, cursor)

/-- The bytes of a tag from a place, its escapes resolved. -/
def tagBytes? : Nat → Bool → Cursor → Option (List UInt8 × Cursor)
  | 0, _, _ => none
  | fuel + 1, verbatim, cursor =>
    match cursor.rest with
    | [] => some ([], cursor)
    | c :: _ =>
      if c == '%' then do
        let (bytes, cursor) ← escapedChar? cursor
        let (others, cursor) ← tagBytes? fuel verbatim cursor
        pure (bytes ++ others, cursor)
      else if isTagChar verbatim c then do
        let (others, cursor) ← tagBytes? fuel verbatim cursor.advance
        pure (String.utf8EncodeChar c ++ others, cursor)
      else some ([], cursor)

/-- The bytes before a null byte. -/
def beforeNull (bytes : List UInt8) : List UInt8 := bytes.takeWhile (· != 0)

/-- The handle of a tag: an exclamation mark, or a name between two of them. -/
def tagHandle (cursor : Cursor) : List Char × Cursor :=
  let (name, next) := cursor.advance.takeWhile isWordChar
  if next.sees '!' then ('!' :: name ++ ['!'], next.advance) else ('!' :: name, next)

/-- A tag whose exclamation mark stands here: its handle and suffix.  A lone exclamation mark is a
suffix without handle. -/
def tag? (inFlow : Bool) (cursor : Cursor) : Option (Token × Cursor) := do
  let (handle, suffix, cursor) ←
    if cursor.peek 1 == some '<' then do
      let (bytes, next) ← tagBytes? (cursor.rest.length + 1) true (cursor.advanceBy 2)
      if bytes.isEmpty || !next.sees '>' then none
      pure ([], beforeNull bytes, next.advance)
    else do
      let (handle, next) := tagHandle cursor
      let (bytes, next) ← tagBytes? (next.rest.length + 1) false next
      if handle.length ≥ 2 && handle.getLast? == some '!' then
        if bytes.isEmpty then none
        pure (handle, beforeNull bytes, next)
      else
        let suffix := beforeNull (Text.utf8 (String.ofList (handle.drop 1)) ++ bytes)
        if suffix.isEmpty then pure ([], Text.utf8 "!", next) else pure (['!'], suffix, next)
  if cursor.isBlankOrEndAt 0 || (inFlow && cursor.sees ',') then
    some (.tag (String.ofList handle) suffix, cursor)
  else none

/-- A number of at most nine digits. -/
def directiveNumber? (cursor : Cursor) : Option (Nat × Cursor) :=
  let (digits, next) := cursor.takeWhile fun c => '0' ≤ c && c ≤ '9'
  if digits.isEmpty || 9 < digits.length then none
  else some (digits.foldl (fun n c => 10 * n + (c.toNat - '0'.toNat)) 0, next)

/-- A directive whose percent sign stands here, up to the end of its line. -/
def directive? (cursor : Cursor) : Option (Token × Cursor) := do
  let (name, cursor) := cursor.advance.takeWhile isWordChar
  if name.isEmpty || !cursor.isBlankOrEndAt 0 then none
  let cursor := (cursor.takeWhile isBlank).2
  let (token, cursor) ←
    if name = ['Y', 'A', 'M', 'L'] then do
      let (major, cursor) ← directiveNumber? cursor
      if !cursor.sees '.' then none
      let (minor, cursor) ← directiveNumber? cursor.advance
      pure (Token.versionDirective major minor, cursor)
    else if name = ['T', 'A', 'G'] then do
      if !cursor.sees '!' then none
      let (handle, cursor) := tagHandle cursor
      if 2 ≤ handle.length && handle.getLast? != some '!' then none
      if !((cursor.peek 0).map isBlank).getD false then none
      let cursor := (cursor.takeWhile isBlank).2
      let (leading, cursor) ← tagBytes? (cursor.rest.length + 1) true cursor
      if leading.isEmpty || !cursor.isBlankOrEndAt 0 then none
      pure (Token.tagDirective (String.ofList handle) (beforeNull leading), cursor)
    else none
  let cursor := cursor.skipToLineEnd
  if cursor.isBreakOrEnd then some (token, cursor.takeBreak.2) else none

/-! ## The scanner -/

/-- Where a key may have started: the number of its token and its place.  A required key is one
that stands where its mapping is indented. -/
structure KeyStart where
  token : Nat
  index : Nat
  line : Nat
  column : Nat
  isRequired : Bool

/-- The state of the scanner: the tokens so far, the indentation of the open block collections, the
innermost first, and for every open bracket or brace, and the text around them, where a key may
have started. -/
structure Scanner where
  cursor : Cursor
  tokens : Array Token := #[]
  indent : Int := -1
  indents : List Int := []
  keys : List (Option KeyStart) := [none]
  keyAllowed : Bool := true
  isFinished : Bool := false

namespace Scanner

/-- Whether a bracket or brace is open. -/
def inFlow (scanner : Scanner) : Bool := 1 < scanner.keys.length

/-- The state with a token behind the others. -/
def emit (scanner : Scanner) (token : Token) : Scanner :=
  { scanner with tokens := scanner.tokens.push token }

/-- The state with a token put in at a number. -/
def emitAt (scanner : Scanner) (number : Nat) (token : Token) : Scanner :=
  { scanner with tokens := scanner.tokens.insertIdxIfInBounds number token }

/-- The state at another place. -/
def moveTo (scanner : Scanner) (cursor : Cursor) : Scanner := { scanner with cursor := cursor }

/-- The state behind a number of characters that are no line breaks. -/
def skip (scanner : Scanner) (count : Nat) : Scanner :=
  { scanner with cursor := scanner.cursor.advanceBy count }

/-- The state with keys allowed here, or not. -/
def allowKey (scanner : Scanner) (allowed : Bool) : Scanner :=
  { scanner with keyAllowed := allowed }

/-- Where a key may have started that a colon here could end: on this line and at most 1024 bytes
back. -/
def openKey? (scanner : Scanner) : Option KeyStart :=
  match scanner.keys with
  | some start :: _ =>
    if start.line < scanner.cursor.line || start.index + 1024 < scanner.cursor.index then none
    else some start
  | _ => none

/-- The state in which no key is open at this level; a required key may not be given up. -/
def dropKey? (scanner : Scanner) : Option Scanner :=
  match scanner.keys with
  | some start :: outer =>
    if start.isRequired then none else some { scanner with keys := none :: outer }
  | _ => some scanner

/-- The state that remembers that a key may start here. -/
def markKey? (scanner : Scanner) : Option Scanner :=
  if scanner.keyAllowed then do
    let scanner ← scanner.dropKey?
    let cursor := scanner.cursor
    let start : KeyStart :=
      { token := scanner.tokens.size
        index := cursor.index
        line := cursor.line
        column := cursor.column
        isRequired := !scanner.inFlow && scanner.indent == cursor.column }
    pure { scanner with keys := some start :: scanner.keys.tail }
  else some scanner

/-- The state inside a block collection that starts at a column, its token put in at a number or
behind the others. -/
def indentTo (scanner : Scanner) (column : Nat) (number : Option Nat) (token : Token) : Scanner :=
  if !scanner.inFlow && scanner.indent < column then
    let scanner :=
      { scanner with indents := scanner.indent :: scanner.indents, indent := column }
    match number with
    | some number => scanner.emitAt number token
    | none => scanner.emit token
  else scanner

/-- The state with the block collections closed that are indented beyond a column. -/
def closeBlocks (column : Int) : List Int → Scanner → Scanner
  | [], scanner => { scanner with indents := [] }
  | outer :: indents, scanner =>
    if column < scanner.indent then
      closeBlocks column indents { scanner.emit .blockEnd with indent := outer }
    else { scanner with indents := outer :: indents }

/-- The state with the block collections closed, unless a bracket or brace is open. -/
def dedentTo (scanner : Scanner) (column : Int) : Scanner :=
  if scanner.inFlow then scanner else closeBlocks column scanner.indents scanner

/-- The place of the next token, after blanks, comments and line breaks; a line break allows keys
again outside of brackets and braces.  A mark of the byte order may start each line, and takes up a
column there. -/
def toToken : Nat → Scanner → Scanner
  | 0, scanner => scanner
  | fuel + 1, scanner =>
    let cursor := scanner.cursor
    let cursor :=
      if cursor.column == 0 && (cursor.peek 0).map Char.toNat == some 0xFEFF then
        cursor.advance else cursor
    let tabsToo := scanner.inFlow || !scanner.keyAllowed
    let cursor := (cursor.takeWhile fun c => c == ' ' || (tabsToo && c == '\t')).2
    let cursor := if cursor.sees '#' then (cursor.takeWhile fun c => !isBreak c).2 else cursor
    match cursor.rest with
    | [] => scanner.moveTo cursor
    | c :: _ =>
      if isBreak c then
        let scanner := scanner.moveTo cursor.takeBreak.2
        toToken fuel (if scanner.inFlow then scanner else scanner.allowKey true)
      else scanner.moveTo cursor

/-- A token of one character that ends what came before: no key is open and a key is allowed or
not. -/
def single? (scanner : Scanner) (token : Token) (keyAllowed : Bool) : Option Scanner := do
  let scanner ← scanner.dropKey?
  pure (((scanner.allowKey keyAllowed).emit token).skip 1)

/-- The end of the text. -/
def finish? (scanner : Scanner) : Option Scanner := do
  let scanner ← (scanner.dedentTo (-1)).dropKey?
  pure { scanner.emit .streamEnd with isFinished := true }

/-- A directive. -/
def directive? (scanner : Scanner) : Option Scanner := do
  let scanner ← (scanner.dedentTo (-1)).dropKey?
  let (token, cursor) ← Yaml.directive? scanner.cursor
  pure (((scanner.allowKey false).emit token).moveTo cursor)

/-- A document marker. -/
def marker? (scanner : Scanner) (token : Token) : Option Scanner := do
  let scanner ← (scanner.dedentTo (-1)).dropKey?
  pure (((scanner.allowKey false).emit token).skip 3)

/-- An opening bracket or brace. -/
def openFlow? (scanner : Scanner) (token : Token) : Option Scanner := do
  let scanner ← scanner.markKey?
  pure ((({ scanner with keys := none :: scanner.keys }.allowKey true).emit token).skip 1)

/-- A closing bracket or brace. -/
def closeFlow? (scanner : Scanner) (token : Token) : Option Scanner := do
  let scanner ← scanner.dropKey?
  let scanner := if scanner.inFlow then { scanner with keys := scanner.keys.tail } else scanner
  pure (((scanner.allowKey false).emit token).skip 1)

/-- The dash of an item. -/
def blockItem? (scanner : Scanner) : Option Scanner :=
  if scanner.inFlow then scanner.single? .blockEntry true
  else if scanner.keyAllowed then
    (scanner.indentTo scanner.cursor.column none .blockSequenceStart).single? .blockEntry true
  else none

/-- The question mark of a key. -/
def explicitKey? (scanner : Scanner) : Option Scanner :=
  if scanner.inFlow then scanner.single? .key false
  else if scanner.keyAllowed then
    (scanner.indentTo scanner.cursor.column none .blockMappingStart).single? .key true
  else none

/-- The colon of a value, which makes a key of what stands before it. -/
def value? (scanner : Scanner) : Option Scanner :=
  match scanner.openKey? with
  | some start =>
    let scanner := scanner.emitAt start.token .key
    let scanner := scanner.indentTo start.column (some start.token) .blockMappingStart
    let scanner := { scanner with keys := none :: scanner.keys.tail }
    some (((scanner.allowKey false).emit .value).skip 1)
  | none =>
    let stale := match scanner.keys with
      | some start :: _ => start.isRequired
      | _ => false
    if stale then none
    else
      let scanner := { scanner with keys := none :: scanner.keys.tail }
      if scanner.inFlow then
        some (((scanner.allowKey false).emit .value).skip 1)
      else if scanner.keyAllowed then
        let scanner := scanner.indentTo scanner.cursor.column none .blockMappingStart
        some (((scanner.allowKey true).emit .value).skip 1)
      else none

/-- A token that may start a key: an anchor, an alias, a tag or a quoted text. -/
def node? (scanner : Scanner) (read : Cursor → Option (Token × Cursor)) : Option Scanner := do
  let scanner ← scanner.markKey?
  let (token, cursor) ← read scanner.cursor
  pure (((scanner.allowKey false).emit token).moveTo cursor)

/-- A block of text. -/
def block? (scanner : Scanner) (literal : Bool) : Option Scanner := do
  let scanner ← scanner.dropKey?
  let (text, cursor) ← Yaml.block? literal scanner.indent scanner.cursor
  let token := Token.scalar (String.ofList text) (if literal then .literal else .folded)
  pure (((scanner.allowKey true).emit token).moveTo cursor)

/-- A plain text; a key may follow if it ran over the end of a line. -/
def plain? (scanner : Scanner) : Option Scanner := do
  let scanner ← scanner.markKey?
  let (text, cursor, broken) ←
    Yaml.plain? scanner.inFlow (scanner.indent + 1).toNat scanner.cursor
  pure (((scanner.allowKey broken).emit (.scalar (String.ofList text) .plain)).moveTo cursor)

/-- Whether a plain text may start here. -/
def startsPlain (scanner : Scanner) (c : Char) : Bool :=
  let indicators := ['-', '?', ':', ',', '[', ']', '\x7b', '\x7d', '#', '&', '*', '!', '|', '>',
    '\x27', '"', '%', '@', '\x60']
  let blankNext := ((scanner.cursor.peek 1).map isBlank).getD false
  (!isBlank c && !isBreak c && !indicators.contains c)
    || (c == '-' && !blankNext)
    || (!scanner.inFlow && (c == '?' || c == ':') && !scanner.cursor.isBlankOrEndAt 1)

/-- Reads the next token. -/
def next? (scanner : Scanner) : Option Scanner :=
  let scanner := toToken (scanner.cursor.rest.length + 1) scanner
  let scanner := scanner.dedentTo scanner.cursor.column
  let cursor := scanner.cursor
  match cursor.rest with
  | [] => scanner.finish?
  | c :: _ =>
    if cursor.column == 0 && c == '%' then scanner.directive?
    else if cursor.atMarker '-' then scanner.marker? .documentStart
    else if cursor.atMarker '.' then scanner.marker? .documentEnd
    else if c == '[' then scanner.openFlow? .flowSequenceStart
    else if c == '\x7b' then scanner.openFlow? .flowMappingStart
    else if c == ']' then scanner.closeFlow? .flowSequenceEnd
    else if c == '\x7d' then scanner.closeFlow? .flowMappingEnd
    else if c == ',' then scanner.single? .flowEntry true
    else if c == '-' && cursor.isBlankOrEndAt 1 then scanner.blockItem?
    else if c == '?' && (scanner.inFlow || cursor.isBlankOrEndAt 1) then scanner.explicitKey?
    else if c == ':' && (scanner.inFlow || cursor.isBlankOrEndAt 1) then scanner.value?
    else if c == '*' then
      scanner.node? fun cursor => (name? cursor).map fun (name, cursor) => (.alias name, cursor)
    else if c == '&' then
      scanner.node? fun cursor => (name? cursor).map fun (name, cursor) => (.anchor name, cursor)
    else if c == '!' then scanner.node? (tag? scanner.inFlow)
    else if c == '|' && !scanner.inFlow then scanner.block? true
    else if c == '>' && !scanner.inFlow then scanner.block? false
    else if c == '\x27' || c == '"' then
      scanner.node? fun cursor =>
        (quoted? (c == '"') cursor).map fun (text, cursor) =>
          (.scalar (String.ofList text) .quoted, cursor)
    else if scanner.startsPlain c then scanner.plain?
    else none

/-- Reads all tokens. -/
def run? : Nat → Scanner → Option (List Token)
  | 0, _ => none
  | fuel + 1, scanner =>
    match scanner.next? with
    | none => none
    | some scanner => if scanner.isFinished then some scanner.tokens.toList else run? fuel scanner

end Scanner

/-- The tokens of a text. -/
def scan? (text : String) : Option (List Token) :=
  let chars := text.toList
  if chars.all isAllowed then
    Scanner.run? (chars.length + 2) { cursor := { rest := chars } }
  else none

end ApplianceConfig.Yaml
