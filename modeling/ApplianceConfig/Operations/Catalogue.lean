import ApplianceConfig.Operations.Certificate
import ApplianceConfig.Operations.Junction
import ApplianceConfig.Operations.PendingChanges
import ApplianceConfig.Operations.Snapshot

/-!
# The operations that change an appliance

Every operation that may change an appliance takes the wishes of its caller
(`CallOptions`) and answers with a response. `Operation` lists them with their
arguments and `Operation.call` is the call of each, so that what is said of all of
them can be said once.
-/

set_option autoImplicit false

namespace ApplianceConfig

/-- An operation that may change an appliance, with its arguments. -/
inductive Operation where
  | add (endpoint : Endpoint) (body : Json)
  | update (endpoint : Endpoint) (body : Json)
  | delete (endpoint : Endpoint) (document : Json)
  | set (endpoint : Endpoint) (body : Json)
  | setJunction (inst : String) (junction : Junction)
  | deleteJunction (inst point : String)
  | importCertificate (kind : CertificateKind) (database label path : String)
      (password : Option String)
  | deleteCertificate (kind : CertificateKind) (database label : String)
  | createSnapshot (comment : String)
  | uploadSnapshot (path : String) (comment : Option String)
  | applySnapshot (id : String)
  | deleteSnapshot (id : String)
  | deploy
  | discard

namespace Operation

/-- The call of an operation. -/
def call (client : Client) (options : CallOptions) : Operation → Call Response
  | add endpoint body => Operations.add client endpoint body options
  | update endpoint body => Operations.update client endpoint body options
  | delete endpoint document => Operations.delete client endpoint document options
  | set endpoint body => Operations.set client endpoint body options
  | setJunction inst junction => Junction.set client inst junction options
  | deleteJunction inst point => Junction.delete client inst point options
  | importCertificate kind database label path password =>
    Certificate.importFile client kind database label path password options
  | deleteCertificate kind database label =>
    Certificate.delete client kind database label options
  | createSnapshot comment => Snapshot.create client comment options
  | uploadSnapshot path comment => Snapshot.upload client path comment options
  | applySnapshot id => Snapshot.apply client id options
  | deleteSnapshot id => Snapshot.delete client id options
  | deploy => PendingChanges.deploy client options
  | discard => PendingChanges.discard client options

/-- The endpoint that an operation names itself; the others have endpoints of their own. -/
def endpoint? : Operation → Option Endpoint
  | add endpoint _ | update endpoint _ | delete endpoint _ | set endpoint _ => some endpoint
  | _ => none

end Operation

end ApplianceConfig
