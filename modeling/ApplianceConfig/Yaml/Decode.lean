import ApplianceConfig.Json.Record
import ApplianceConfig.Operations.Junction
import ApplianceConfig.State.Document
import ApplianceConfig.Yaml.Document
import ApplianceConfig.Yaml.Scalar

/-!
# Values and records in YAML

The readers of what a node stands for; they follow the aliases that they come to.
Where any value may stand (`Node.readValue`), a plain text is interpreted; where
a string is expected, every text counts as it is written; where a boolean or a
number is expected, only a plain text counts.  An empty plain text stands for an
empty list or mapping where one is expected, and a null for an option that is
not given.

Mappings and lists may be nested up to 128 levels deep.  Records are mappings;
they may not name one of their fields twice, and fields they do not know are
passed over.
-/

set_option autoImplicit false

namespace ApplianceConfig.Yaml

/-- The greatest number of mappings and lists around and including a node. -/
def deepestNesting : Nat := 128

namespace Node

/-! ## Any value -/

/-- The value of a whole number: it has to fit one of the sixty-four-bit ranges. -/
def wholeNumber? (n : Int) : Option Json :=
  if 0 ≤ n then (Number.ofNat? n.toNat).map .number
  else (Number.ofNegated? n.natAbs).map .number

/-- Whether a whole number fits one of the ranges of 128 bits; one that does not is read as a
floating-point number. -/
def isWide (n : Int) : Bool := -(Nat.pow 2 127 : Nat) ≤ n && n < (Nat.pow 2 128 : Nat)

/-- The value of a floating-point number; what is not finite has none. -/
def floatValue : FloatText → Json
  | .finite value => .number (.binary value)
  | .notFinite => .null

/-- The value of a text that writes no whole number of the ranges. -/
def fractionOrString (text : String) : Json :=
  if hasLeadingZeros text.toList then .string text
  else ((float? text.toList).map floatValue).getD (.string text)

/-- The value of a plain text. -/
def plainValue? (text : String) : Option Json :=
  if text.isEmpty || isNull text then some .null
  else
    match bool? text with
    | some value => some (.bool value)
    | none =>
      match whole? text.toList with
      | some n => if isWide n then wholeNumber? n else some (fractionOrString text)
      | none => some (fractionOrString text)

/-- The value of a text.  A tag of a known type asks for a value of this type, one of another type
makes the text a string, and no value has a kind of the text's own. -/
def scalarValue? (text : String) (style : Style) (tag : Option Tag) : Option Json :=
  let untagged := if style = .plain then plainValue? text else some (.string text)
  match tag with
  | none => untagged
  | some .unreadable => untagged
  | some .boolean => (bool? text).map .bool
  | some .integer => (whole? text.toList).bind fun n => if isWide n then wholeNumber? n else none
  | some .float => (float? text.toList).map floatValue
  | some .null => if isNull text then some .null else none
  | some .otherType => some (.string text)
  | some (.kind _) => none

/-- Whether a tag gives a kind of the text's own, which no value may have. -/
def isKind : Option Tag → Bool
  | some (.kind _) => true
  | _ => false

/-- The text of a node that is one. -/
def readText (node : Node) : Reading String := do
  match ← node.follow with
  | scalar text _ _ => pure text
  | _ => failure

/-- How the keys inside a value are read: as they are written, or as values that have to be
strings. -/
inductive Keys where
  | written
  | strings
  deriving DecidableEq

/-- The name that a key gives. -/
def readKey (keys : Keys) (node : Node) : Reading String := do
  match keys, ← node.follow with
  | .written, scalar text _ _ => pure text
  | .strings, scalar text style tag =>
    match scalarValue? text style tag with
    | some (.string name) => pure name
    | _ => failure
  | _, _ => failure

/-- The value of a node, at most `depth` mappings and lists deep. -/
def readValue (keys : Keys) (depth : Nat) (node : Node) : Reading Json := do
  match depth, ← node.follow with
  | _, scalar text style tag => scalarValue? text style tag
  | depth + 1, sequence items tag =>
    if isKind tag then failure
    pure (.array (← items.mapM (readValue keys depth)))
  | depth + 1, mapping entries tag =>
    if isKind tag then failure
    pure (.ofFields (← entries.mapM fun (key, value) => do
      pure (← readKey keys key, ← readValue keys depth value)))
  | _, _ => failure

/-! ## Single values -/

/-- Whether a text counts as plain for a type: it is, or it is a literal block tagged with it. -/
def isPlainFor (type : Tag) (style : Style) (tag : Option Tag) : Bool :=
  style == .plain || (style == .literal && tag == some type)

/-- A boolean. -/
def readBool (node : Node) : Reading Bool := do
  match ← node.follow with
  | scalar text style tag => if isPlainFor .boolean style tag then bool? text else failure
  | _ => failure

/-- A natural number below a bound. -/
def readNatBelow (bound : Nat) (node : Node) : Reading Nat := do
  match ← node.follow with
  | scalar text style tag =>
    if isPlainFor .integer style tag then natBelow? bound text.toList else failure
  | _ => failure

/-- A value, or none where a null stands. -/
def readOptional {α : Type} (read : Node → Reading α) (node : Node) : Reading (Option α) := do
  let node ← node.follow
  match node with
  | scalar text .plain none =>
    if text.isEmpty || isNull text then pure none else some <$> read node
  | scalar text .plain (some .null) => if isNull text then pure none else failure
  | _ => some <$> read node

/-- Whether a text is plain and without characters. -/
def isEmptyText (text : String) (style : Style) : Bool := text.isEmpty && style == .plain

/-- The items of a list. -/
def readItems {α : Type} (read : Node → Reading α) (node : Node) : Reading (List α) := do
  match ← node.follow with
  | sequence items _ => items.mapM read
  | scalar text style _ => if isEmptyText text style then pure [] else failure
  | _ => failure

/-- The entries of a mapping by the texts of their keys. -/
def readEntries (node : Node) : Reading (List (String × Node)) := do
  match ← node.follow with
  | mapping entries _ => entries.mapM fun (key, value) => do pure (← readText key, value)
  | scalar text style _ => if isEmptyText text style then pure [] else failure
  | _ => failure

/-- The fields of a record with the given names, by name. -/
def record? (names : List String) (fields : List (String × Node)) :
    Option (String → Option Node) :=
  if names.all fun name => (fields.filter fun field => field.1 == name).length ≤ 1 then
    some fun name => fields.lookup name
  else none

/-- A field that must be there. -/
def readRequired {α : Type} (read : Node → Reading α) : Option Node → Reading α
  | some node => read node
  | none => failure

/-- A field with a default for when it is missing. -/
def readOrDefault {α : Type} (absent : α) (read : Node → Reading α) : Option Node → Reading α
  | some node => read node
  | none => pure absent

/-! ## State documents -/

/-- The presence that a text names; a kind may name it in place of the text. -/
def readPresence (node : Node) : Reading Presence := do
  match ← node.follow with
  | scalar text style tag =>
    let word ← match tag with
      | some (.kind name) =>
        if style = .plain && (text.isEmpty || isNull text) then pure name else failure
      | _ => pure text
    [("present", Presence.present), ("absent", Presence.absent)].lookup word
  | _ => failure

/-- The parameters of an entry. -/
def readParameters (node : Node) : Reading Parameters := do
  let fields ← node.readEntries
  let values ← fields.mapM fun (name, value) => do pure (name, ← value.readText)
  pure (Parameters.ofList values)

/-- One entry of a state document. -/
def readStateEntry (depth : Nat) (node : Node) : Reading StateEntry := do
  let fields ← node.readEntries
  let field ← record? ["resource", "params", "state", "data"] fields
  pure {
    resource := ← readRequired readText (field "resource")
    parameters := ← readOrDefault .empty readParameters (field "params")
    presence := ← readOrDefault .present readPresence (field "state")
    data := ← readOrDefault .null (readValue .written depth) (field "data") }

/-- A state document. -/
def readStateDocument (node : Node) : Reading StateDocument := do
  let fields ← node.readEntries
  let field ← record? ["deploy", "resources"] fields
  pure {
    deploy := ← readOrDefault false readBool (field "deploy")
    entries :=
      ← readRequired (readItems (readStateEntry (deepestNesting - 3))) (field "resources") }

/-! ## Junctions -/

/-- A junction; settings without a field of their own are kept. -/
def readJunction (node : Node) : Reading Junction := do
  let fields ← node.readEntries
  let field ← record? Junction.fieldNames fields
  let others := fields.filter fun field => !Junction.fieldNames.contains field.1
  let extra ← others.mapM fun (name, value) => do
    pure (name, ← readValue .strings (deepestNesting - 1) value)
  pure {
    point := ← readRequired readText (field "junction_point")
    kind := ← readRequired readText (field "junction_type")
    serverHostname := ← readRequired readText (field "server_hostname")
    serverPort := UInt16.ofNat (← readRequired (readNatBelow UInt16.size) (field "server_port"))
    virtualHostname := ← readOrDefault none (readOptional readText) (field "virtual_hostname")
    stateful := ← readOrDefault none (readOptional readBool) (field "stateful_junction")
    transparentPath :=
      ← readOrDefault none (readOptional readBool) (field "transparent_path_junction")
    basicAuthMode := ← readOrDefault none (readOptional readText) (field "basic_auth_mode")
    remoteHttpHeader := ← readOrDefault [] (readItems readText) (field "remote_http_header")
    extra := Json.sortFields extra }

end Node

/-- Reads the value that a text in YAML or JSON writes. -/
def readValue? (text : String) : Option Json := do
  (← Document.parse? text).read? (Node.readValue .written deepestNesting)

/-- Reads a junction from a text. -/
def readJunction? (text : String) : Option Junction := do
  (← Document.parse? text).read? Node.readJunction

end ApplianceConfig.Yaml

namespace ApplianceConfig.StateDocument

/-- Reads a state document from a text. -/
def parse (wording : Wording) (text : String) : Except Fault StateDocument :=
  match (Yaml.Document.parse? text).bind (·.read? Yaml.Node.readStateDocument) with
  | some document => .ok document
  | none =>
    .error
      ((Fault.of (.malformedYaml (wording.state text))).within "Failed to parse state document")

end ApplianceConfig.StateDocument
