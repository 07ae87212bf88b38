import ApplianceConfig.Resource.Registry
import ApplianceConfig.Resource.Template

/-!
# Endpoints

An endpoint is a resource definition together with the parameters for its
address templates; it knows the addresses of the collection and of each object,
and how the resource is named in messages.
-/

set_option autoImplicit false

namespace ApplianceConfig

/-- A resource definition bound to parameters. -/
structure Endpoint where
  key : String
  definition : ResourceDefinition
  parameters : Parameters

namespace Endpoint

/-- The endpoint of a known resource. -/
def lookup (key : String) (parameters : Parameters) : Except Fault Endpoint :=
  match Registry.find? key with
  | some definition => .ok ⟨key, definition, parameters⟩
  | none => .error (.of (.unknownResource key))

/-- Whether the resource is a single document. -/
def isSingleton (endpoint : Endpoint) : Bool := endpoint.definition.isSingleton

/-- The address of the collection or of the document. -/
def collectionUri (endpoint : Endpoint) : Except Fault String :=
  Template.expand endpoint.definition.uri endpoint.parameters none

/-- The address of one object. -/
def itemUri (endpoint : Endpoint) (id : String) : Except Fault String :=
  match endpoint.definition.itemUri with
  | some template => Template.expand template endpoint.parameters (some id)
  | none =>
    endpoint.collectionUri.map fun base =>
      base ++ "/" ++ String.ofList (Text.percentEncode id.toList)

/-- The name of the resource in messages, with its parameters. -/
def describe (endpoint : Endpoint) : String :=
  if endpoint.parameters.values.isEmpty then endpoint.definition.displayName
  else
    endpoint.definition.displayName ++ " ("
      ++ String.intercalate ", "
        (endpoint.parameters.values.map fun (name, value) => name ++ "=" ++ value)
      ++ ")"

end Endpoint

end ApplianceConfig
