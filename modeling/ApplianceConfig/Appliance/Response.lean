import ApplianceConfig.Json.Record

/-!
# Responses

Every operation answers with a response: a code, data, whether the appliance was
changed, and warnings.  The code is zero unless a refusal of the appliance was
tolerated; then it is the status of the refusal.
-/

set_option autoImplicit false

namespace ApplianceConfig

/-- The result of one operation. -/
structure Response where
  code : Int := 0
  data : Json := .object []
  changed : Bool := false
  warnings : List String := []

namespace Response

/-! ## Building -/

/-- A successful response. -/
def make (data : Json) (changed : Bool) (warnings : List String) : Response :=
  ⟨0, data, changed, warnings⟩

/-- The response when nothing had to be done. -/
def unchanged : Response := {}

/-- The response of a check run for a change that was not made. -/
def wouldChange : Response := { changed := true }

/-- The response with a warning behind the ones it has. -/
def warn (response : Response) (warning : String) : Response :=
  { response with warnings := response.warnings ++ [warning] }

/-- The response when the call was skipped for a reason. -/
def skipped (warning : String) : Response := unchanged.warn warning

/-- The response with warnings of earlier steps before the ones it has. -/
def withWarnings (response : Response) (earlier : List String) : Response :=
  { response with warnings := earlier ++ response.warnings }

/-! ## Reading -/

/-- Whether no refusal was tolerated. -/
def isSuccess (response : Response) : Bool := response.code == 0

/-- Whether the appliance sent nothing of use. -/
def isEmpty (response : Response) : Bool :=
  match response.data with
  | .null => true
  | .array items => items.isEmpty
  | .object fields => fields.isEmpty
  | .string text => text.isEmpty
  | _ => false

/-- A whole number as a value, within the sixty-four-bit ranges. -/
def numberOf (n : Int) : Json :=
  if 0 ≤ n then .number (.ofNat n.toNat)
  else ((Number.ofNegated? n.natAbs).map Json.number).getD .null

/-- A response as a document, its fields in the order in which they are shown. -/
def toJson (response : Response) : Json :=
  .object [("rc", numberOf response.code), ("data", response.data),
    ("changed", .bool response.changed), ("warnings", .ofStrings response.warnings)]

/-- Reads a response from a document. -/
def ofJson? (document : Json) : Option Response := do
  let field ← Json.record? ["rc", "data", "changed", "warnings"] document
  pure {
    code := ← Json.required? Json.asInt32? (field "rc")
    data := (field "data").getD .null
    changed := ← Json.optional? false Json.asBool? (field "changed")
    warnings := ← Json.optional? [] Json.asStrings? (field "warnings") }

end Response

end ApplianceConfig
