import ApplianceConfig.Text.Hex
import ApplianceConfig.Yaml.Cursor

/-!
# Texts in YAML

The five ways to write a text: plain, in single or double quotes, and as a
literal or folded block.  Plain and quoted texts may run over several lines; a
line break between two lines is read as a blank, and empty lines between them as
line breaks (`Gap.joined`).

Each function reads a text from a place and gives the text and the place after
it, or nothing if the text is malformed.
-/

set_option autoImplicit false

namespace ApplianceConfig.Yaml

/-! ## Gaps between words -/

/-- The blanks and line breaks between two words: blanks on one line, or the first line break and
those after it. -/
structure Gap where
  blanks : List Char := []
  firstBreak : List Char := []
  furtherBreaks : List Char := []
  isBroken : Bool := false

namespace Gap

/-- What a gap contributes to the text. -/
def joined (gap : Gap) : List Char :=
  if gap.isBroken then
    if gap.firstBreak == ['\n'] then
      if gap.furtherBreaks.isEmpty then [' '] else gap.furtherBreaks
    else gap.firstBreak ++ gap.furtherBreaks
  else gap.blanks

/-- Reads the gap at a place.  A tab is refused where a plain text would have to be indented. -/
def read? : Nat → Option Nat → Cursor → Gap → Option (Gap × Cursor)
  | 0, _, _, _ => none
  | fuel + 1, indent, cursor, gap =>
    match cursor.rest with
    | [] => some (gap, cursor)
    | c :: _ =>
      if isBlank c then
        let tabRefused := match indent with
          | some indent => gap.isBroken && cursor.column < indent && c == '\t'
          | none => false
        if tabRefused then none
        else if gap.isBroken then read? fuel indent cursor.advance gap
        else read? fuel indent cursor.advance { gap with blanks := gap.blanks ++ [c] }
      else if isBreak c then
        let (lineBreak, cursor) := cursor.takeBreak
        if gap.isBroken then
          read? fuel indent cursor { gap with furtherBreaks := gap.furtherBreaks ++ lineBreak }
        else
          read? fuel indent cursor { gap with blanks := [], firstBreak := lineBreak, isBroken := true }
      else some (gap, cursor)

end Gap

/-! ## Plain texts -/

/-- Whether a character ends a plain text inside brackets or braces. -/
def isFlowEnd (c : Char) : Bool := c == ',' || c == '[' || c == ']' || c == '\x7b' || c == '\x7d'

/-- The characters of a plain text up to the next blank, break or end of the text.  A colon ends
the text before a blank; inside brackets or braces it may not stand before one of them, a comma or
a question mark. -/
def plainWord? (inFlow : Bool) : List Char → Option (List Char)
  | [] => some []
  | c :: rest =>
    if isBlank c || isBreak c then some []
    else if inFlow && isFlowEnd c then some []
    else if c == ':' then
      match rest with
      | [] => some []
      | d :: _ =>
        if isBlank d || isBreak d then some []
        else if inFlow && (isFlowEnd d || d == '?') then none
        else (plainWord? inFlow rest).map (c :: ·)
    else (plainWord? inFlow rest).map (c :: ·)

/-- A plain text after its first words, with the gap behind them; lines after the first have to be
indented outside of brackets and braces.  The last result tells whether a line break was passed. -/
def plainRest? : Nat → Bool → Nat → List Char → Gap → Cursor → Option (List Char × Cursor × Bool)
  | 0, _, _, _, _, _ => none
  | fuel + 1, inFlow, indent, text, gap, cursor =>
    if cursor.atAnyMarker || cursor.sees '#' then some (text, cursor, gap.isBroken)
    else do
      let word ← plainWord? inFlow cursor.rest
      let next := cursor.advanceBy word.length
      let text := if word.isEmpty then text else text ++ gap.joined ++ word
      let stillBroken := word.isEmpty && gap.isBroken
      match next.rest with
      | [] => some (text, next, stillBroken)
      | c :: _ =>
        if isBlank c || isBreak c then
          let (gap, next) ← Gap.read? (next.rest.length + 1) (some indent) next {}
          if !inFlow && next.column < indent then some (text, next, gap.isBroken)
          else plainRest? fuel inFlow indent text gap next
        else some (text, next, stillBroken)

/-- Reads a plain text. -/
def plain? (inFlow : Bool) (indent : Nat) (cursor : Cursor) : Option (List Char × Cursor × Bool) :=
  plainRest? (cursor.rest.length + 1) inFlow indent [] {} cursor

/-! ## Quoted texts -/

/-- The character that an escape of one letter stands for. -/
def shortEscape? (c : Char) : Option Char :=
  match c with
  | '0' => some (Char.ofNat 0)
  | 'a' => some (Char.ofNat 7)
  | 'b' => some (Char.ofNat 8)
  | 't' => some '\t'
  | '\t' => some '\t'
  | 'n' => some '\n'
  | 'v' => some (Char.ofNat 11)
  | 'f' => some (Char.ofNat 12)
  | 'r' => some '\r'
  | 'e' => some (Char.ofNat 27)
  | ' ' => some ' '
  | '"' => some '"'
  | '/' => some '/'
  | '\\' => some '\\'
  | 'N' => some (Char.ofNat 0x85)
  | '_' => some (Char.ofNat 0xA0)
  | 'L' => some (Char.ofNat 0x2028)
  | 'P' => some (Char.ofNat 0x2029)
  | _ => none

/-- The number of digits that follow the letter of a numeric escape. -/
def escapeWidth? (c : Char) : Option Nat :=
  match c with
  | 'x' => some 2
  | 'u' => some 4
  | 'U' => some 8
  | _ => none

/-- The character with a code point, if there is one. -/
def charOfPoint? (n : Nat) : Option Char :=
  if (0xD800 ≤ n ∧ n ≤ 0xDFFF) ∨ 0x10FFFF < n then none else some (Char.ofNat n)

/-- The character that an escape after its backslash stands for, and the length of the escape. -/
def escape? : List Char → Option (Char × Nat)
  | [] => none
  | c :: rest =>
    match escapeWidth? c with
    | some width =>
      if rest.length < width then none
      else do
        let n ← Text.hexNumber? (rest.take width)
        let c ← charOfPoint? n
        pure (c, width + 1)
    | none => (shortEscape? c).map fun c => (c, 1)

/-- The characters of a quoted text up to the next blank, break or quote; a backslash at the end of
a line in double quotes joins the lines, which the last result tells. -/
def quotedWord? : Nat → Bool → Cursor → List Char → Option (List Char × Cursor × Bool)
  | 0, _, _, _ => none
  | fuel + 1, double, cursor, word =>
    match cursor.rest with
    | [] => some (word, cursor, false)
    | c :: rest =>
      if isBlank c || isBreak c then some (word, cursor, false)
      else if double then
        if c == '"' then some (word, cursor, false)
        else if c == '\\' then
          if (rest.head?.map isBreak).getD false then some (word, cursor.advance.takeBreak.2, true)
          else do
            let (escaped, length) ← escape? rest
            quotedWord? fuel double (cursor.advanceBy (length + 1)) (word ++ [escaped])
        else quotedWord? fuel double cursor.advance (word ++ [c])
      else if c == '\x27' then
        if rest.head? == some '\x27' then
          quotedWord? fuel double (cursor.advanceBy 2) (word ++ ['\x27'])
        else some (word, cursor, false)
      else quotedWord? fuel double cursor.advance (word ++ [c])

/-- A quoted text after its opening quote, with what was read of it. -/
def quotedRest? : Nat → Bool → List Char → Cursor → Option (List Char × Cursor)
  | 0, _, _, _ => none
  | fuel + 1, double, text, cursor =>
    if cursor.atAnyMarker || cursor.rest.isEmpty then none
    else do
      let (word, cursor, joins) ← quotedWord? (cursor.rest.length + 1) double cursor []
      let text := text ++ word
      if cursor.sees (if double then '"' else '\x27') then some (text, cursor.advance)
      else
        let (gap, cursor) ←
          Gap.read? (cursor.rest.length + 1) none cursor { isBroken := joins }
        quotedRest? fuel double (text ++ gap.joined) cursor

/-- Reads a quoted text whose opening quote stands here. -/
def quoted? (double : Bool) (cursor : Cursor) : Option (List Char × Cursor) :=
  quotedRest? (cursor.rest.length + 1) double [] cursor.advance

/-! ## Blocks -/

/-- What becomes of the line breaks at the end of a block. -/
inductive Chomping where
  | strip
  | clip
  | keep
  deriving DecidableEq

/-- The sign that decides about line breaks at the end. -/
def chomping? (c : Char) : Option Chomping :=
  if c == '+' then some .keep else if c == '-' then some .strip else none

/-- The digit that gives the indentation. -/
def blockDigit? (c : Char) : Option Nat :=
  if '0' ≤ c && c ≤ '9' then some (c.toNat - '0'.toNat) else none

/-- The header of a block: a sign and a digit, in either order, each of which may be missing.  The
digit is not zero. -/
def blockHeader? (cursor : Cursor) : Option (Chomping × Option Nat × Cursor) := do
  let sign := (cursor.peek 0).bind chomping?
  let (chomping, increment, cursor) :=
    match sign with
    | some chomping =>
      let cursor := cursor.advance
      match (cursor.peek 0).bind blockDigit? with
      | some digit => (chomping, some digit, cursor.advance)
      | none => (chomping, none, cursor)
    | none =>
      match (cursor.peek 0).bind blockDigit? with
      | some digit =>
        let cursor := cursor.advance
        match (cursor.peek 0).bind chomping? with
        | some chomping => (chomping, some digit, cursor.advance)
        | none => (Chomping.clip, some digit, cursor)
      | none => (Chomping.clip, none, cursor)
  if increment = some 0 then none
  let cursor := cursor.skipToLineEnd
  if cursor.isBreakOrEnd then some (chomping, increment, cursor.takeBreak.2) else none

/-- The empty lines at a place: their breaks, the widest of them, and the place of the next line's
text.  The indentation is unknown while it is to be found out. -/
def blockBreaks? : Nat → Option Nat → Nat → List Char → Cursor →
    Option (List Char × Nat × Cursor)
  | 0, _, _, _, _ => none
  | fuel + 1, indent, widest, breaks, cursor =>
    let inside := fun (cursor : Cursor) => match indent with
      | some indent => cursor.column < indent
      | none => true
    let blanks := match indent with
      | some indent => ((cursor.rest.take (indent - cursor.column)).takeWhile (· == ' ')).length
      | none => (cursor.rest.takeWhile (· == ' ')).length
    let cursor := cursor.advanceBy blanks
    let widest := max widest cursor.column
    if inside cursor && cursor.sees '\t' then none
    else
      match cursor.rest with
      | c :: _ =>
        if isBreak c then
          let (lineBreak, cursor) := cursor.takeBreak
          blockBreaks? fuel indent widest (breaks ++ lineBreak) cursor
        else some (breaks, widest, cursor)
      | [] => some (breaks, widest, cursor)

/-- The text of a block line by line: what was read, the break of the last line and the breaks
behind it. -/
def blockLines? : Nat → Bool → Nat → List Char → List Char → List Char → Bool → Cursor →
    Option (List Char × List Char × List Char × Cursor)
  | 0, _, _, _, _, _, _, _ => none
  | fuel + 1, literal, indent, text, lastBreak, emptyLines, afterBlank, cursor =>
    match cursor.rest with
    | [] => some (text, lastBreak, emptyLines, cursor)
    | c :: _ =>
      if cursor.column ≠ indent then some (text, lastBreak, emptyLines, cursor)
      else
        let folded := !literal && lastBreak == ['\n'] && !afterBlank && !isBlank c
        let gap :=
          if folded then (if emptyLines.isEmpty then [' '] else []) else lastBreak
        let (line, cursor) := cursor.takeWhile fun c => !isBreak c
        let text := text ++ gap ++ emptyLines ++ line
        let (lastBreak, cursor) := cursor.takeBreak
        match blockBreaks? (cursor.rest.length + 1) (some indent) 0 [] cursor with
        | none => none
        | some (emptyLines, _, cursor) =>
          blockLines? fuel literal indent text lastBreak emptyLines (isBlank c) cursor

/-- Reads a block whose indicator stands here, inside a collection of the given indentation. -/
def block? (literal : Bool) (parent : Int) (cursor : Cursor) : Option (List Char × Cursor) := do
  let (chomping, increment, cursor) ← blockHeader? cursor.advance
  let given := increment.map fun increment => (max parent 0).toNat + increment
  let (breaks, widest, cursor) ← blockBreaks? (cursor.rest.length + 1) given 0 [] cursor
  let indent := given.getD (max (max widest (parent + 1).toNat) 1)
  let (text, lastBreak, emptyLines, cursor) ←
    blockLines? (cursor.rest.length + 1) literal indent [] [] breaks false cursor
  let ending := match chomping with
    | .strip => []
    | .clip => lastBreak
    | .keep => lastBreak ++ emptyLines
  pure (text ++ ending, cursor)

end ApplianceConfig.Yaml
