import ApplianceConfig.Compare.Difference
import ApplianceConfig.Operations.Read

/-!
# Drift between two appliances

The same resource is read from two appliances and the differences are listed.
Fields without meaning are left out on both sides; the objects of a collection
are paired by their key fields.  If either appliance cannot serve the resource
there is no verdict, only the warnings, those of the left appliance first.
-/

set_option autoImplicit false

namespace ApplianceConfig.Operations

/-- What is compared of the data of a response. -/
def comparable (definition : ResourceDefinition) (data : Json) : Json :=
  (data.withoutFields definition.comparisonIgnores).canonical

/-- The differences between the data of two responses. -/
def driftBetween (endpoint : Endpoint) (left right : Json) : List Difference :=
  Json.differences (if endpoint.isSingleton then [] else endpoint.definition.keyFields)
    (comparable endpoint.definition left) (comparable endpoint.definition right)

/-- The verdict on a list of differences. -/
def verdict (differences : List Difference) : Json :=
  .ofFields [("matches", .bool differences.isEmpty),
    ("differences", .array (differences.map Difference.toJson)),
    ("summary", .string (Difference.summary differences))]

/-- Compares a resource on two appliances. -/
def compare (left right : Client) (endpoint : Endpoint) : Call Response := do
  let leftGate ← gate left endpoint.definition
  let rightGate ← gate right endpoint.definition
  if leftGate.isSome || rightGate.isSome then
    pure (.make (.object []) false
      ((leftGate.toList ++ rightGate.toList).flatMap fun skipped => skipped.warnings))
  else
    let leftResponse ← getAll left endpoint {}
    let rightResponse ← getAll right endpoint {}
    pure (.make (verdict (driftBetween endpoint leftResponse.data rightResponse.data)) false
      (leftResponse.warnings ++ rightResponse.warnings))

end ApplianceConfig.Operations
