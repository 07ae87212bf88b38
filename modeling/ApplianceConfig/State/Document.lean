import ApplianceConfig.Json.Basic
import ApplianceConfig.Resource.Template

/-!
# State documents

A state document lists resources and whether each is to be present or absent,
with the whole desired document for one that is to be present and with its key
fields for one that is to be absent.  It also says whether the staged changes
are deployed at the end.
-/

set_option autoImplicit false

namespace ApplianceConfig

/-- Whether an entry is to exist. -/
inductive Presence where
  | present
  | absent
  deriving DecidableEq, Repr

/-- The word for a presence. -/
def Presence.word : Presence → String
  | present => "present"
  | absent => "absent"

/-- One resource in a state document. -/
structure StateEntry where
  resource : String
  parameters : Parameters := .empty
  presence : Presence := .present
  data : Json := .null

/-- A state document. -/
structure StateDocument where
  deploy : Bool := false
  entries : List StateEntry

/-- An entry as a document. -/
def StateEntry.toJson (entry : StateEntry) : Json :=
  .object [("resource", .string entry.resource),
    ("params", .object (entry.parameters.values.map fun (name, value) => (name, .string value))),
    ("state", .string entry.presence.word), ("data", entry.data)]

/-- A state document as a document. -/
def StateDocument.toJson (document : StateDocument) : Json :=
  .object [("deploy", .bool document.deploy),
    ("resources", .array (document.entries.map StateEntry.toJson))]

end ApplianceConfig
