import ApplianceConfig.Json.Record

/-!
# Resource definitions

A resource is a kind of configuration an appliance keeps: a collection of
objects, each addressed by an id, or a single document.  Its definition says
where it is read and written, which fields identify an object, which fields
carry no configuration, how an update is sent, and which firmware and modules
the appliance needs for it.
-/

set_option autoImplicit false

namespace ApplianceConfig

/-- The shape of a resource on the appliance. -/
inductive ResourceKind where
  /-- A list of objects addressed by id. -/
  | collection
  /-- A single document that is read and replaced in place. -/
  | singleton
  deriving DecidableEq, Repr

/-- How the update of an object is sent. -/
inductive UpdateMethod where
  /-- The object's address is written to. -/
  | put
  /-- The collection's address is sent the object again. -/
  | post
  deriving DecidableEq, Repr

/-- What the body of an update holds. -/
inductive UpdatePayload where
  /-- Only the fields that were asked for. -/
  | desired
  /-- The current object with the fields that were asked for laid over it. -/
  | merge
  deriving DecidableEq, Repr

/-- The definition of a resource. -/
structure ResourceDefinition where
  displayName : String
  service : String
  kind : ResourceKind := .collection
  /-- The address template of the collection or of the document. -/
  uri : String
  /-- The address template of an object; without it the id follows the collection's address. -/
  itemUri : Option String := none
  /-- The fields, separated by dots, that lead to the list of objects inside an answer. -/
  responsePath : String := ""
  idField : String := "id"
  /-- The fields that together identify an object; without any it is the id. -/
  searchFields : List String := []
  updateMethod : UpdateMethod := .put
  updatePayload : UpdatePayload := .desired
  /-- Fields that are left out of comparisons. -/
  volatileFields : List String := []
  minimumVersion : Option String := none
  requiredModules : List String := []
  deriving DecidableEq

namespace ResourceDefinition

/-- The fields that identify an object. -/
def keyFields (definition : ResourceDefinition) : List String :=
  if definition.searchFields.isEmpty then [definition.idField] else definition.searchFields

/-- Whether the resource is a single document. -/
def isSingleton (definition : ResourceDefinition) : Bool := definition.kind == .singleton

/-- The fields of a written definition, in order. -/
def fieldNames : List String :=
  ["display_name", "service", "kind", "uri", "item_uri", "response_path", "id_field",
    "search_fields", "update_method", "update_payload", "volatile_fields", "min_version",
    "required_modules"]

/-- Reads a definition from a document. -/
def ofJson? (document : Json) : Option ResourceDefinition := do
  let field ← Json.record? fieldNames document
  let kinds := [("collection", ResourceKind.collection), ("singleton", .singleton)]
  let methods := [("put", UpdateMethod.put), ("post", .post)]
  let payloads := [("desired", UpdatePayload.desired), ("merge", .merge)]
  pure {
    displayName := ← Json.required? Json.asString? (field "display_name")
    service := ← Json.required? Json.asString? (field "service")
    kind := ← Json.optional? .collection (Json.asChoice? kinds) (field "kind")
    uri := ← Json.required? Json.asString? (field "uri")
    itemUri := ← Json.optional? none (Json.asOptional? Json.asString?) (field "item_uri")
    responsePath := ← Json.optional? "" Json.asString? (field "response_path")
    idField := ← Json.optional? "id" Json.asString? (field "id_field")
    searchFields := ← Json.optional? [] Json.asStrings? (field "search_fields")
    updateMethod := ← Json.optional? .put (Json.asChoice? methods) (field "update_method")
    updatePayload := ← Json.optional? .desired (Json.asChoice? payloads) (field "update_payload")
    volatileFields := ← Json.optional? [] Json.asStrings? (field "volatile_fields")
    minimumVersion := ← Json.optional? none (Json.asOptional? Json.asString?) (field "min_version")
    requiredModules := ← Json.optional? [] Json.asStrings? (field "required_modules") }

end ResourceDefinition

end ApplianceConfig
