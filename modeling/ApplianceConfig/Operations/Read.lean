import ApplianceConfig.Appliance.Client
import ApplianceConfig.Resource.Endpoint
import ApplianceConfig.Resource.Selection

/-!
# Reading resources

Every operation on a resource first asks whether the appliance can serve it; if
not, the operation is skipped with a warning and no request for the resource is
sent.  The module holds that gate, the reading of collections and objects, and
the search for the object that carries a key.
-/

set_option autoImplicit false

namespace ApplianceConfig

/-- The wishes of a caller that every operation takes. -/
structure CallOptions where
  /-- Report what would change and change nothing. -/
  checkMode : Bool := false
  /-- Send the change without asking whether it is needed. -/
  force : Bool := false
  /-- Report a refusal in the response and not as a fault. -/
  ignoreError : Bool := false
  deriving DecidableEq, Repr

namespace CallOptions

/-- The options of a check run. -/
def check : CallOptions := { checkMode := true }

/-- The options of a forced run. -/
def forced : CallOptions := { force := true }

end CallOptions

namespace Operations

/-- The response that skips a call whose requirements the appliance does not meet. -/
def gate (client : Client) (definition : ResourceDefinition) : Call (Option Response) := do
  let warning ← client.checkRequirements definition.minimumVersion definition.requiredModules
  pure (warning.map Response.skipped)

/-- A call behind the gate of a resource. -/
def gated (client : Client) (definition : ResourceDefinition) (call : Call Response) :
    Call Response := do
  match ← gate client definition with
  | some skipped => pure skipped
  | none => call

/-- The response to reading a collection, with its list of items as data. -/
def listed (endpoint : Endpoint) (response : Response) : Response :=
  if response.isSuccess && !endpoint.isSingleton then
    { response with data := .array (Json.itemsAt endpoint.definition.responsePath response.data) }
  else response

/-- Reads every object of a collection, or the document. -/
def getAll (client : Client) (endpoint : Endpoint) (options : CallOptions) : Call Response :=
  gated client endpoint.definition do
    let uri ← Call.ofExcept endpoint.collectionUri
    let response ← client.invokeGet ("Retrieving " ++ endpoint.describe) uri options.ignoreError
    pure (listed endpoint response)

/-- Reads one object by its id; a document has no id. -/
def get (client : Client) (endpoint : Endpoint) (id : Option String) (options : CallOptions) :
    Call Response := do
  if endpoint.isSingleton then getAll client endpoint options
  else
    match id with
    | none => Call.fail (.idRequired endpoint.describe)
    | some id =>
      gated client endpoint.definition do
        let uri ← Call.ofExcept (endpoint.itemUri id)
        client.invokeGet ("Retrieving " ++ endpoint.describe ++ " '" ++ id ++ "'") uri
          options.ignoreError

/-- The first object of a collection that carries a key. -/
def find (client : Client) (endpoint : Endpoint) (key : List (String × Json)) :
    Call (Option Json) := do
  let all ← getAll client endpoint {}
  match all.data with
  | .array items => pure (items.find? fun item => Json.matchesKey key item)
  | _ => pure none

/-- The id of the first object that carries a key. -/
def search (client : Client) (endpoint : Endpoint) (key : List (String × Json)) :
    Call (Option String) := do
  let found ← find client endpoint key
  pure (found.bind endpoint.definition.objectId?)

end Operations

end ApplianceConfig
