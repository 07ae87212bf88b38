import ApplianceConfig.Json.Basic
import ApplianceConfig.Json.Source

/-!
# Reading JSON text

A text writes a value if it follows the grammar and everything in it has a
meaning: numerals are in range, surrogates stand in pairs, and containers are
nested at most 127 levels deep (`Json.read?`).  The last of several fields with
one name stands.

A reader of records looks only at the parts of a text that it declares, its
`Shape`.  Fields that no shape names have to follow the grammar and need no
meaning (`Json.readAs?`).  The declared fields of a record stay as they are
written, with repeated names, because a record that names one of its fields twice
is refused.
-/

set_option autoImplicit false

namespace ApplianceConfig.Json

/-! ## Strings -/

/-- Whether a unit is the first of a surrogate pair. -/
def isLeading (unit : Nat) : Bool := 0xD800 ≤ unit && unit < 0xDC00

/-- Whether a unit is the second of a surrogate pair. -/
def isTrailing (unit : Nat) : Bool := 0xDC00 ≤ unit && unit < 0xE000

/-- The characters that the parts of a string write. -/
def characters? : List StringPart → Option (List Char)
  | [] => some []
  | .char c :: rest => (characters? rest).map (c :: ·)
  | .unit first :: .unit second :: rest =>
    if isLeading first then
      if isTrailing second then
        (characters? rest).map
          (Char.ofNat (0x10000 + (first - 0xD800) * 0x400 + (second - 0xDC00)) :: ·)
      else none
    else if isTrailing first then none
    else (characters? (.unit second :: rest)).map (Char.ofNat first :: ·)
  | .unit unit :: rest =>
    if isLeading unit || isTrailing unit then none
    else (characters? rest).map (Char.ofNat unit :: ·)

/-- The text that the parts of a string write. -/
def text? (parts : List StringPart) : Option String := (characters? parts).map String.ofList

/-! ## Values -/

/-- The greatest number of containers around a value. -/
def deepestNesting : Nat := 127

mutual
/-- The value that a source writes, at most `depth` containers deep. -/
def ofSource? : Nat → Source → Option Json
  | _, .null => some null
  | _, .bool value => some (bool value)
  | _, .numeral parts => (Numeral.value? parts).map number
  | _, .string parts => (text? parts).map string
  | 0, _ => none
  | depth + 1, .array items => (itemsOfSources? depth items).map array
  | depth + 1, .object fields => (fieldsOfSources? depth fields).map ofFields

/-- The values of items. -/
def itemsOfSources? : Nat → List Source → Option (List Json)
  | _, [] => some []
  | depth, item :: rest => do
    let item ← ofSource? depth item
    pure (item :: (← itemsOfSources? depth rest))

/-- The values of fields, as they are written. -/
def fieldsOfSources? : Nat → List (List StringPart × Source) → Option (List (String × Json))
  | _, [] => some []
  | depth, (name, value) :: rest => do
    let name ← text? name
    let value ← ofSource? depth value
    pure ((name, value) :: (← fieldsOfSources? depth rest))
end

/-- The value that a text writes. -/
def read? (text : String) : Option Json := (Source.parse? text).bind (ofSource? deepestNesting)

/-! ## Shapes -/

/-- What a reader looks at: a whole value, the named fields of a record, or every field of an
object with values of one shape. -/
inductive Shape where
  | value
  | record (fields : List (String × Shape))
  | map (field : Shape)

mutual
/-- What a source writes in the parts that a shape names.  The fields of records and maps stay as
they are written; a source of another kind than the shape is read as a whole. -/
def select? : Nat → Shape → Source → Option Json
  | depth + 1, .record shapes, .object fields => (selectFields? depth shapes fields).map object
  | depth + 1, .map shape, .object fields => (selectEach? depth shape fields).map object
  | depth + 1, .record shapes, .array items => (selectItems? depth shapes items).map array
  | depth, _, source => ofSource? depth source

/-- The fields of a record that its shapes name. -/
def selectFields? : Nat → List (String × Shape) → List (List StringPart × Source) →
    Option (List (String × Json))
  | _, _, [] => some []
  | depth, shapes, (name, value) :: rest => do
    let name ← text? name
    let others := selectFields? depth shapes rest
    match shapes.lookup name with
    | some shape => do
      let value ← select? depth shape value
      pure ((name, value) :: (← others))
    | none => others

/-- The fields of a map. -/
def selectEach? : Nat → Shape → List (List StringPart × Source) → Option (List (String × Json))
  | _, _, [] => some []
  | depth, shape, (name, value) :: rest => do
    let name ← text? name
    let value ← select? depth shape value
    pure ((name, value) :: (← selectEach? depth shape rest))

/-- The items of a record that is written as a list, in the order of its shapes; items behind them
are read as a whole. -/
def selectItems? : Nat → List (String × Shape) → List Source → Option (List Json)
  | _, _, [] => some []
  | depth, [], items => itemsOfSources? depth items
  | depth, (_, shape) :: shapes, item :: rest => do
    let item ← select? depth shape item
    pure (item :: (← selectItems? depth shapes rest))
end

/-- What a text writes in the parts that a shape names. -/
def readAs? (shape : Shape) (text : String) : Option Json :=
  (Source.parse? text).bind (select? deepestNesting shape)

end ApplianceConfig.Json
