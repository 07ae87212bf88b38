import ApplianceConfig.Json.Printer

/-!
# Canonical form and comparison

Two configuration documents count as equal when they differ only in the order
of fields or in the order of a list whose items are all of one kind.
`Json.canonical` sorts every such list, innermost first, and
`Json.equivalent` compares canonical forms.  Everything else is a difference:
`1` and `"1"`, `1` and `1.0`, null and a missing field, and the order of a list
that mixes kinds.

The items of a list of one kind are ordered by value where the kind has an
order of its own (strings, booleans, numbers) and by their compact text
otherwise, which is deterministic because the items are already canonical.
Sorting is stable, so it never makes up an order between equal items.
-/

set_option autoImplicit false

namespace ApplianceConfig.Json

/-! ## The order of items -/

/-- Whether one item may stand before another in a sorted list of one kind. -/
def precedes : Json → Json → Bool
  | string x, string y => decide (x ≤ y)
  | bool x, bool y => !x || y
  | number x, number y => x.precedes y
  | x, y => decide (compact x ≤ compact y)

/-- Whether all items are of one kind. -/
def uniform : List Json → Bool
  | [] => true
  | first :: rest => rest.all fun item => item.kind == first.kind

/-- A list of one kind sorted; other lists keep their order. -/
def arrange (items : List Json) : List Json :=
  if uniform items then items.mergeSort precedes else items

/-! ## Canonical form -/

mutual
/-- The value with every list of one kind sorted, at every depth. -/
def canonical : Json → Json
  | array items => array (arrange (canonicalItems items))
  | object fields => object (canonicalFields fields)
  | value => value

/-- Every item in canonical form. -/
def canonicalItems : List Json → List Json
  | [] => []
  | item :: rest => canonical item :: canonicalItems rest

/-- Every field's value in canonical form. -/
def canonicalFields : List (String × Json) → List (String × Json)
  | [] => []
  | (name, value) :: rest => (name, canonical value) :: canonicalFields rest
end

/-- Whether two documents say the same: their canonical forms are equal. -/
def equivalent (left right : Json) : Bool := left.canonical == right.canonical

/-! ## Parts of documents -/

/-- Fields without those of the given names. -/
def dropFields (names : List String) (fields : List (String × Json)) : List (String × Json) :=
  fields.filter fun field => !names.contains field.1

/-- The document without the named top-level fields; in a list, without them in every object of the
list.  What lies deeper is left alone, so a change below the top level always counts. -/
def withoutFields (names : List String) : Json → Json
  | object fields => object (dropFields names fields)
  | array items =>
    array (items.map fun item =>
      match item with
      | object fields => object (dropFields names fields)
      | other => other)
  | other => other

/-- The current document restricted to the top-level fields that the desired one has.  A field that
only the desired document has stays missing and so still counts as a difference. -/
def projectOnto (desired current : Json) : Json :=
  match current, desired with
  | object fields, object wanted =>
    object (fields.filter fun field => (lookup field.1 wanted).isSome)
  | _, _ => current

/-- Whether two documents say the same apart from the named top-level fields. -/
def equivalentIgnoring (names : List String) (left right : Json) : Bool :=
  equivalent (left.withoutFields names) (right.withoutFields names)

end ApplianceConfig.Json
