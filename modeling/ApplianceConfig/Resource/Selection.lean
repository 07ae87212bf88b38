import ApplianceConfig.Compare.Canonical
import ApplianceConfig.Fault
import ApplianceConfig.Resource.Definition

/-!
# Selecting and comparing objects

The rules by which an object of a collection is found and by which an update is
found necessary.  An object is found by the key fields of its definition; here a
number and the string with its digits match, because appliances answer with
either.  Whether an update is necessary is decided strictly: only fields that
the desired document names are looked at, fields without meaning are left out,
and everything else has to agree in canonical form.
-/

set_option autoImplicit false

namespace ApplianceConfig

/-- The fields that never carry configuration, whatever the resource. -/
def commonVolatileFields : List String :=
  ["id", "uuid", "lastModified", "lastmodified", "last_modified", "datecreated", "dateCreated",
    "created", "timestamp"]

namespace ResourceDefinition

/-! ## Comparing -/

/-- The fields left out of comparisons; the fields that identify an object always stay. -/
def comparisonIgnores (definition : ResourceDefinition) : List String :=
  (commonVolatileFields ++ definition.volatileFields).filter fun field =>
    !definition.keyFields.contains field

/-- Whether the current document has to change to become the desired one. -/
def needsUpdate (definition : ResourceDefinition) (current desired : Json) : Bool :=
  !Json.equivalentIgnoring definition.comparisonIgnores (Json.projectOnto desired current) desired

/-! ## Keys -/

/-- The key fields of a document, one after the other. -/
def collectKey (definition : ResourceDefinition) (document : Json) :
    List String → Except Fault (List (String × Json))
  | [] => .ok []
  | field :: rest =>
    match document.field? field with
    | none => .error (.of (.keyFieldMissing field definition.displayName))
    | some value => (collectKey definition document rest).map ((field, value) :: ·)

/-- The key of a document: its key fields with their values, in the order of names. -/
def searchKey (definition : ResourceDefinition) (document : Json) :
    Except Fault (List (String × Json)) :=
  (collectKey definition document definition.keyFields).map Json.sortFields

/-- The key with a single value, for resources that one field identifies. -/
def keyOfText (definition : ResourceDefinition) (text : String) : Except Fault Json :=
  match definition.keyFields with
  | [field] => .ok (.object [(field, .string text)])
  | fields => .error (.of (.severalKeyFields definition.displayName fields))

/-- The id of an object, a number as its text. -/
def objectId? (definition : ResourceDefinition) (item : Json) : Option String :=
  match item.field? definition.idField with
  | some (.string text) => some text
  | some (.number value) => some value.text
  | _ => none

end ResourceDefinition

/-! ## Matching -/

namespace Json

/-- The text by which values match: a string itself, and the compact text of anything else. -/
def matchingText : Json → String
  | string text => text
  | other => other.compact

/-- Whether an item has every field of a key, equal or with the same text. -/
def matchesKey (key : List (String × Json)) (item : Json) : Bool :=
  key.all fun (name, wanted) =>
    match item.field? name with
    | some actual => actual == wanted || actual.matchingText == wanted.matchingText
    | none => false

/-- The desired fields laid over the current document. -/
def overlay (current desired : Json) : Json :=
  match current, desired with
  | object fields, object wanted =>
    object (wanted.foldl (fun merged field => insert field.1 field.2 merged) fields)
  | _, _ => desired

/-! ## Lists inside answers -/

/-- The value that field names lead to. -/
def descend? : List String → Json → Option Json
  | [], value => some value
  | name :: rest, value =>
    match value.field? name with
    | some inner => descend? rest inner
    | none => none

/-- The items of an answer: the list that a path of fields leads to; without a path the answer
itself, which stands for one item if it is no list, and for none if it is null. -/
def itemsAt (path : String) (answer : Json) : List Json :=
  if path.isEmpty then
    match answer with
    | array items => items
    | null => []
    | other => [other]
  else
    match descend? (path.splitOn ".") answer with
    | some (array items) => items
    | _ => []

end Json

end ApplianceConfig
