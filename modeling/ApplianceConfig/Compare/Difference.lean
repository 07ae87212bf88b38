import ApplianceConfig.Compare.Canonical
import ApplianceConfig.Json.Record

/-!
# Differences between documents

`Json.differences` lists where two canonical documents differ, each place named
by a path: `$` is the document, `.name` a field, `[n]` the item with index `n`.
A place present on one side only is told with its value, a scalar that changed
with both texts, and a change of kind with both kinds.

Lists are compared as collections.  Items that are equal on both sides are
paired first, wherever they stand, so an inserted item is reported once and does
not shift the ones behind it.  What is left of the document's own list is paired
by its key fields if there are any; what is left of every other list is paired
in order.  Pairs that are not equal are compared in turn.
-/

set_option autoImplicit false

namespace ApplianceConfig

/-- One difference between a left and a right document. -/
inductive Difference where
  /-- A scalar present on both sides, with its two texts. -/
  | modified (path left right : String)
  /-- A value present on the left side only. -/
  | onlyLeft (path : String) (value : Json)
  /-- A value present on the right side only. -/
  | onlyRight (path : String) (value : Json)
  /-- Values of different kinds. -/
  | structural (path description : String)

/-! ## Pairing the items of two lists -/

/-- What became of an item of the left list: paired with an equal item, paired with another item to
compare with, or left over. -/
inductive Partner where
  | identical
  | changed (item : Json)
  | missing

namespace Json

/-- The first member of a list that passes a test, and the list without it. -/
def extract? {α : Type} (test : α → Bool) : List α → Option (α × List α)
  | [] => none
  | x :: rest =>
    if test x then some (x, rest)
    else (extract? test rest).map fun (found, rest) => (found, x :: rest)

/-- The values of the key fields, if the item is an object that has all of them. -/
def keyOf? (keys : List String) : Json → Option (List Json)
  | object fields => keys.mapM fun key => lookup key fields
  | _ => none

/-- Whether an item carries the given values in its key fields. -/
def hasKey (keys : List String) (key : List Json) (item : Json) : Bool :=
  match keyOf? keys item with
  | some other => sameItems key other
  | none => false

/-- Gives every left item the first right item that is equal and still free.  Right items are held
with their indices. -/
def pairIdentical : List Json → List (Nat × Json) → List Bool × List (Nat × Json)
  | [], free => ([], free)
  | item :: rest, free =>
    match extract? (fun candidate => candidate.2 == item) free with
    | some (_, free) =>
      let (paired, free) := pairIdentical rest free
      (true :: paired, free)
    | none =>
      let (paired, free) := pairIdentical rest free
      (false :: paired, free)

/-- The free right item that a left item without an equal partner is compared with: the first with
the same key where there are key fields, and the first of all otherwise. -/
def counterpart? (keys : List String) (item : Json) (free : List (Nat × Json)) :
    Option ((Nat × Json) × List (Nat × Json)) :=
  if keys.isEmpty then extract? (fun _ => true) free
  else
    match keyOf? keys item with
    | some key => extract? (fun candidate => hasKey keys key candidate.2) free
    | none => none

/-- Gives every left item without an equal partner a free right item to be compared with. -/
def pairChanged (keys : List String) :
    List Json → List Bool → List (Nat × Json) → List Partner × List (Nat × Json)
  | item :: rest, paired :: marks, free =>
    if paired then
      let (partners, free) := pairChanged keys rest marks free
      (.identical :: partners, free)
    else
      match counterpart? keys item free with
      | some ((_, other), free) =>
        let (partners, free) := pairChanged keys rest marks free
        (.changed other :: partners, free)
      | none =>
        let (partners, free) := pairChanged keys rest marks free
        (.missing :: partners, free)
  | _, _, free => ([], free)

/-- Items with their indices, counted from a given number. -/
def indexed (start : Nat) : List Json → List (Nat × Json)
  | [] => []
  | item :: rest => (start, item) :: indexed (start + 1) rest

/-- The partners of the left items, and the right items left over with their indices. -/
def pairItems (keys : List String) (left right : List Json) : List Partner × List (Nat × Json) :=
  let (paired, free) := pairIdentical left (indexed 0 right)
  pairChanged keys left paired free

/-! ## Comparing -/

/-- The path of a field. -/
def fieldPath (path name : String) : String := path ++ "." ++ name

/-- The path of an item. -/
def itemPath (path : String) (index : Nat) : String := path ++ "[" ++ toString index ++ "]"

/-- The fields that only the right object has. -/
def surplusFields (path : String) (left right : List (String × Json)) : List Difference :=
  (right.filter fun field => (lookup field.1 left).isNone).map fun field =>
    .onlyRight (fieldPath path field.1) field.2

/-- The items left over of the right list. -/
def surplusItems (path : String) (free : List (Nat × Json)) : List Difference :=
  free.map fun (index, value) => .onlyRight (itemPath path index) value

/-- The difference between two values that are not both objects and not both lists. -/
def scalarDifferences (path : String) (left right : Json) : List Difference :=
  if left.kind ≠ right.kind then
    [.structural path ("type mismatch: left=" ++ left.kind.name ++ " right=" ++ right.kind.name)]
  else if left == right then []
  else [.modified path left.compact right.compact]

mutual
/-- The differences between two values at a path, with the key fields of their items. -/
def differencesAt (keys : List String) (path : String) : Json → Json → List Difference
  | object left, right =>
    match right with
    | object right => fieldDifferences path right left ++ surplusFields path left right
    | right => scalarDifferences path (object left) right
  | array left, right =>
    match right with
    | array right =>
      let (partners, free) := pairItems keys left right
      itemDifferences path 0 left partners ++ surplusItems path free
    | right => scalarDifferences path (array left) right
  | left, right => scalarDifferences path left right

/-- The differences that the fields of the left object show. -/
def fieldDifferences (path : String) (right : List (String × Json)) :
    List (String × Json) → List Difference
  | [] => []
  | (name, value) :: rest =>
    (match lookup name right with
      | some other => differencesAt [] (fieldPath path name) value other
      | none => [.onlyLeft (fieldPath path name) value])
      ++ fieldDifferences path right rest

/-- The differences that the items of the left list show, counted from an index. -/
def itemDifferences (path : String) (index : Nat) : List Json → List Partner → List Difference
  | item :: rest, partner :: partners =>
    (match partner with
      | .identical => []
      | .changed other => differencesAt [] (itemPath path index) item other
      | .missing => [.onlyLeft (itemPath path index) item])
      ++ itemDifferences path (index + 1) rest partners
  | _, _ => []
end

/-- The differences between two documents; objects of the documents' own lists are paired by the
given key fields. -/
def differences (keys : List String) (left right : Json) : List Difference :=
  differencesAt keys "$" left right

end Json

/-! ## Reports -/

namespace Difference

/-- The place of a difference. -/
def path : Difference → String
  | modified path _ _ => path
  | onlyLeft path _ => path
  | onlyRight path _ => path
  | structural path _ => path

/-- The lines that tell a difference. -/
def lines : Difference → List String
  | modified path left right => ["~ " ++ path, "  left:  " ++ left, "  right: " ++ right]
  | onlyLeft path _ => ["- " ++ path]
  | onlyRight path _ => ["+ " ++ path]
  | structural path description => ["! " ++ path ++ ": " ++ description]

/-- The report of several differences. -/
def report (differences : List Difference) : String :=
  String.intercalate "\n" (differences.flatMap lines)

/-- Whether a difference is a changed scalar. -/
def isModified : Difference → Bool
  | modified .. => true
  | _ => false

/-- Whether a difference is a value on the left side only. -/
def isOnlyLeft : Difference → Bool
  | onlyLeft .. => true
  | _ => false

/-- Whether a difference is a value on the right side only. -/
def isOnlyRight : Difference → Bool
  | onlyRight .. => true
  | _ => false

/-- Whether a difference is a change of kind. -/
def isStructural : Difference → Bool
  | structural .. => true
  | _ => false

/-- The number of differences of each sort on one line. -/
def summary (differences : List Difference) : String :=
  "modified=" ++ toString (differences.countP isModified)
    ++ " only_left=" ++ toString (differences.countP isOnlyLeft)
    ++ " only_right=" ++ toString (differences.countP isOnlyRight)
    ++ " structural=" ++ toString (differences.countP isStructural)

/-- A difference as a document, its sort under `type`. -/
def toJson : Difference → Json
  | modified path left right =>
    .ofFields [("type", .string "Modified"), ("path", .string path), ("left", .string left),
      ("right", .string right)]
  | onlyLeft path value =>
    .ofFields [("type", .string "OnlyLeft"), ("path", .string path), ("value", value)]
  | onlyRight path value =>
    .ofFields [("type", .string "OnlyRight"), ("path", .string path), ("value", value)]
  | structural path description =>
    .ofFields [("type", .string "Structural"), ("path", .string path),
      ("description", .string description)]

/-- The sort of a difference and the document of its fields: an object holds the sort under `type`,
a list holds it as its first item. -/
def tagged? : Json → Option (String × Json)
  | .object fields =>
    match Json.lookup "type" fields with
    | some (.string sort) => some (sort, .object fields)
    | _ => none
  | .array (.string sort :: items) => some (sort, .array items)
  | _ => none

/-- Reads a difference from a document. -/
def ofJson? (document : Json) : Option Difference := do
  let (sort, body) ← tagged? document
  match sort with
  | "Modified" => do
    let field ← Json.record? ["path", "left", "right"] body
    pure (modified (← Json.required? Json.asString? (field "path"))
      (← Json.required? Json.asString? (field "left"))
      (← Json.required? Json.asString? (field "right")))
  | "OnlyLeft" => do
    let field ← Json.record? ["path", "value"] body
    pure (onlyLeft (← Json.required? Json.asString? (field "path")) (← field "value"))
  | "OnlyRight" => do
    let field ← Json.record? ["path", "value"] body
    pure (onlyRight (← Json.required? Json.asString? (field "path")) (← field "value"))
  | "Structural" => do
    let field ← Json.record? ["path", "description"] body
    pure (structural (← Json.required? Json.asString? (field "path"))
      (← Json.required? Json.asString? (field "description")))
  | _ => none

end Difference

end ApplianceConfig
