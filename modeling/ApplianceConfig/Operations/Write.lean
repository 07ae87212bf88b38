import ApplianceConfig.Operations.Read

/-!
# Changing resources

Every change first reads what is there and is sent only if it is needed: an
object is added if none has its key, updated if it differs from what is desired,
deleted if it exists.  A check run does the same reading and stops before the
one request that would change something.  A forced run sends the change without
comparing.
-/

set_option autoImplicit false

namespace ApplianceConfig.Operations

/-- A change that a check run only reports. -/
def unlessChecking (options : CallOptions) (change : Call Response) : Call Response :=
  if options.checkMode then pure .wouldChange else change

/-- The address of an object that was read. -/
def addressOf (endpoint : Endpoint) (item : Json) : Call (String × String) := do
  let id ← Call.require (.idFieldMissing endpoint.describe endpoint.definition.idField)
    (endpoint.definition.objectId? item)
  let uri ← Call.ofExcept (endpoint.itemUri id)
  pure (id, uri)

/-- Sends a new object. -/
def create (client : Client) (endpoint : Endpoint) (body : Json) (options : CallOptions) :
    Call Response :=
  unlessChecking options do
    let uri ← Call.ofExcept endpoint.collectionUri
    client.invokePost ("Creating " ++ endpoint.describe) uri body options.ignoreError

/-- The body of an update. -/
def payload (definition : ResourceDefinition) (current desired : Json) : Json :=
  match definition.updatePayload with
  | .desired => desired
  | .merge => current.overlay desired

/-- Sends an update: the document itself, or an object in the way its definition says. -/
def sendUpdate (client : Client) (endpoint : Endpoint) (current desired : Json)
    (options : CallOptions) : Call Response := do
  let body := payload endpoint.definition current desired
  let description := "Updating " ++ endpoint.describe
  if endpoint.isSingleton then
    let uri ← Call.ofExcept endpoint.collectionUri
    client.invokePut description uri body options.ignoreError
  else
    match endpoint.definition.updateMethod with
    | .put =>
      let (_, uri) ← addressOf endpoint current
      client.invokePut description uri body options.ignoreError
    | .post =>
      let uri ← Call.ofExcept endpoint.collectionUri
      client.invokePost description uri body options.ignoreError

/-- Brings what was read in line with what is desired. -/
def applyUpdate (client : Client) (endpoint : Endpoint) (current desired : Json)
    (options : CallOptions) : Call Response :=
  if !options.force && !endpoint.definition.needsUpdate current desired then pure .unchanged
  else unlessChecking options (sendUpdate client endpoint current desired options)

/-- The warning that names an object by its key. -/
def keyWarning (endpoint : Endpoint) (key : List (String × Json)) (text : String) : Response :=
  .skipped (endpoint.describe ++ " " ++ (Json.object key).compact ++ " " ++ text)

/-- Adds an object unless one has its key. -/
def add (client : Client) (endpoint : Endpoint) (body : Json) (options : CallOptions) :
    Call Response :=
  if endpoint.isSingleton then Call.fail (.unsupported "add" endpoint.describe)
  else
    gated client endpoint.definition do
      if options.force then create client endpoint body options
      else
        let key ← Call.ofExcept (endpoint.definition.searchKey body)
        match ← find client endpoint key with
        | some _ => pure (keyWarning endpoint key "already exists")
        | none => create client endpoint body options

/-- Updates the document, or the object that has the key of the body, if it differs. -/
def update (client : Client) (endpoint : Endpoint) (body : Json) (options : CallOptions) :
    Call Response :=
  gated client endpoint.definition do
    if endpoint.isSingleton then
      let current ← getAll client endpoint {}
      applyUpdate client endpoint current.data body options
    else
      let key ← Call.ofExcept (endpoint.definition.searchKey body)
      match ← find client endpoint key with
      | some current => applyUpdate client endpoint current body options
      | none => pure (keyWarning endpoint key "does not exist, cannot update")

/-- Deletes the object that has the key fields of a document, if there is one. -/
def delete (client : Client) (endpoint : Endpoint) (document : Json) (options : CallOptions) :
    Call Response :=
  if endpoint.isSingleton then Call.fail (.unsupported "delete" endpoint.describe)
  else
    gated client endpoint.definition do
      let key ← Call.ofExcept (endpoint.definition.searchKey document)
      match ← find client endpoint key with
      | none => pure (keyWarning endpoint key "does not exist, nothing to delete")
      | some current =>
        unlessChecking options do
          let (id, uri) ← addressOf endpoint current
          client.invokeDelete ("Deleting " ++ endpoint.describe ++ " '" ++ id ++ "'") uri
            options.ignoreError

/-- Adds or updates so that the appliance has what is desired. -/
def set (client : Client) (endpoint : Endpoint) (body : Json) (options : CallOptions) :
    Call Response :=
  if endpoint.isSingleton then update client endpoint body options
  else
    gated client endpoint.definition do
      let key ← Call.ofExcept (endpoint.definition.searchKey body)
      match ← find client endpoint key with
      | some current => applyUpdate client endpoint current body options
      | none => create client endpoint body options

end ApplianceConfig.Operations
