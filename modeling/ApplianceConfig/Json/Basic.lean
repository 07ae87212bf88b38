import ApplianceConfig.Json.Number

/-!
# JSON values

A JSON value is null, a boolean, a number, a string, a list or an object.  An
object is a list of fields in the order of their names (the order of code
points, which is also the order of the UTF-8 bytes), each name once; values
that come from a reader or from the operations of this library all have that
form, stated by `Json.SortedKeys`.

Besides the type the module holds equality of values (`Json.sameValue`, written
`==`), under which numbers of different kinds differ and both floating-point
zeros agree, and the access to fields.
-/

set_option autoImplicit false

namespace ApplianceConfig

/-- A JSON value. -/
inductive Json where
  | null
  | bool (value : Bool)
  | number (value : Number)
  | string (value : String)
  | array (items : List Json)
  | object (fields : List (String × Json))

namespace Json

instance : Inhabited Json := ⟨null⟩

/-! ## Kinds -/

/-- The six kinds of value. -/
inductive Kind where
  | null
  | boolean
  | number
  | string
  | array
  | object
  deriving DecidableEq, Repr

/-- The kind of a value. -/
def kind : Json → Kind
  | null => .null
  | bool _ => .boolean
  | number _ => .number
  | string _ => .string
  | array _ => .array
  | object _ => .object

/-- The name of a kind, as reports show it. -/
def Kind.name : Kind → String
  | .null => "null"
  | .boolean => "boolean"
  | .number => "number"
  | .string => "string"
  | .array => "array"
  | .object => "object"

/-! ## Equality -/

mutual
/-- Equality of values: objects field by field, lists item by item, numbers by kind and value. -/
def sameValue : Json → Json → Bool
  | null, null => true
  | bool x, bool y => x == y
  | number x, number y => x.sameValue y
  | string x, string y => x == y
  | array xs, array ys => sameItems xs ys
  | object xs, object ys => sameFields xs ys
  | _, _ => false

/-- Equality of lists of values. -/
def sameItems : List Json → List Json → Bool
  | [], [] => true
  | x :: xs, y :: ys => sameValue x y && sameItems xs ys
  | _, _ => false

/-- Equality of lists of fields. -/
def sameFields : List (String × Json) → List (String × Json) → Bool
  | [], [] => true
  | (name, x) :: xs, (other, y) :: ys => name == other && sameValue x y && sameFields xs ys
  | _, _ => false
end

instance : BEq Json := ⟨sameValue⟩

/-! ## Fields -/

/-- The value of a field in a list of fields. -/
def lookup (name : String) : List (String × Json) → Option Json
  | [] => none
  | (other, value) :: rest => if name = other then some value else lookup name rest

/-- A list of fields with one field set, keeping the order of names. -/
def insert (name : String) (value : Json) : List (String × Json) → List (String × Json)
  | [] => [(name, value)]
  | (other, old) :: rest =>
    if name < other then (name, value) :: (other, old) :: rest
    else if name = other then (name, value) :: rest
    else (other, old) :: insert name value rest

/-- The fields of a list in the order of names; of fields with one name the last one stays. -/
def sortFields (fields : List (String × Json)) : List (String × Json) :=
  fields.foldl (fun sorted field => insert field.1 field.2 sorted) []

/-- The object with the given fields, in whatever order they are listed. -/
def ofFields (fields : List (String × Json)) : Json := object (sortFields fields)

/-- The value of a field of an object; other values have no fields. -/
def field? (name : String) : Json → Option Json
  | object fields => lookup name fields
  | _ => none

/-- The fields of an object. -/
def fields? : Json → Option (List (String × Json))
  | object fields => some fields
  | _ => none

/-- The items of a list. -/
def items? : Json → Option (List Json)
  | array items => some items
  | _ => none

/-- The text of a string. -/
def string? : Json → Option String
  | string text => some text
  | _ => none

/-- A natural number as a value. -/
def ofNat (n : Nat) : Json := number (.ofNat n)

/-- Strings as a list value. -/
def ofStrings (texts : List String) : Json := array (texts.map string)

/-! ## The order of fields -/

mutual
/-- Every object inside the value lists its fields in strictly increasing order of names. -/
def SortedKeys : Json → Prop
  | null => True
  | bool _ => True
  | number _ => True
  | string _ => True
  | array items => SortedItems items
  | object fields => (fields.map Prod.fst).Pairwise (· < ·) ∧ SortedFields fields

/-- Every item has sorted keys. -/
def SortedItems : List Json → Prop
  | [] => True
  | item :: rest => SortedKeys item ∧ SortedItems rest

/-- Every field's value has sorted keys. -/
def SortedFields : List (String × Json) → Prop
  | [] => True
  | (_, value) :: rest => SortedKeys value ∧ SortedFields rest
end

end Json

end ApplianceConfig
