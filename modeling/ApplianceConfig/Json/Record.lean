import ApplianceConfig.Json.Basic

/-!
# Records in JSON

A record is written as an object that holds its fields by name, in any order and
with foreign fields among them, or as a list that holds its fields in the order
in which they are declared and may leave out fields at the end.  An object that
names one of the declared fields twice is refused, and so is a list with more
items than the record has fields.

The readers of single fields are strict: a number is never taken from a string,
nor a whole number from one with a fraction, and null stands only for a field
that may be missing.
-/

set_option autoImplicit false

namespace ApplianceConfig.Json

/-! ## Single values -/

/-- A string. -/
def asString? : Json → Option String
  | string text => some text
  | _ => none

/-- A boolean. -/
def asBool? : Json → Option Bool
  | bool value => some value
  | _ => none

/-- A natural number below a bound. -/
def asNatBelow? (bound : Nat) : Json → Option Nat
  | number (.natural value) => if value.toNat < bound then some value.toNat else none
  | _ => none

/-- A whole number of the signed thirty-two-bit range. -/
def asInt32? : Json → Option Int
  | number (.natural value) => if value.toNat < 0x80000000 then some value.toNat else none
  | number (.negative predecessor) =>
    if predecessor.val < 0x80000000 then some (-(predecessor.val : Int) - 1) else none
  | _ => none

/-- A value, or null for none. -/
def asOptional? {α : Type} (read : Json → Option α) : Json → Option (Option α)
  | null => some none
  | value => (read value).map some

/-- A list of values. -/
def asList? {α : Type} (read : Json → Option α) : Json → Option (List α)
  | array items => items.mapM read
  | _ => none

/-- A list of strings. -/
def asStrings? : Json → Option (List String) := asList? asString?

/-- An object whose fields are all of one type, as fields in the order of names. -/
def asMap? {α : Type} (read : Json → Option α) : Json → Option (List (String × α))
  | object fields => fields.mapM fun (name, value) => (read value).map (name, ·)
  | _ => none

/-- One of several named choices: its name, or an object that maps the name to null. -/
def asChoice? {α : Type} (choices : List (String × α)) : Json → Option α
  | string name => choices.lookup name
  | object [(name, null)] => choices.lookup name
  | _ => none

/-! ## Records -/

/-- How often a name occurs among fields. -/
def occurrences (name : String) (fields : List (String × Json)) : Nat :=
  (fields.filter fun field => field.1 == name).length

/-- The fields of a record with the given declared names, by name. -/
def record? (names : List String) : Json → Option (String → Option Json)
  | object fields =>
    if names.all fun name => occurrences name fields ≤ 1 then some fun name => lookup name fields
    else none
  | array items =>
    if items.length ≤ names.length then some fun name => items[names.idxOf name]? else none
  | _ => none

/-- A field that must be there. -/
def required? {α : Type} (read : Json → Option α) : Option Json → Option α
  | some value => read value
  | none => none

/-- A field with a default for when it is missing. -/
def optional? {α : Type} (absent : α) (read : Json → Option α) : Option Json → Option α
  | some value => read value
  | none => some absent

end ApplianceConfig.Json
