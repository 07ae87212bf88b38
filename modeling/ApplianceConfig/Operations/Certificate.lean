import ApplianceConfig.Operations.Write
import ApplianceConfig.Text.LowerCase

/-!
# Certificates

The certificates of a database are signer certificates or personal ones, each
kind a collection of its own, and are identified by their labels.  A certificate
is imported from a file by a form and exported into a file; the import is left
out if the label is taken.
-/

set_option autoImplicit false

namespace ApplianceConfig

/-- The two lists of certificates inside a database. -/
inductive CertificateKind where
  | signer
  | personal
  deriving DecidableEq, Repr

namespace CertificateKind

/-- The key of the resource for a kind. -/
def resourceKey : CertificateKind → String
  | signer => "signer-certificates"
  | personal => "personal-certificates"

/-- Reads the word for a kind, in any case. -/
def parse (text : String) : Except Fault CertificateKind :=
  let word := Text.lowerCase text
  if word = "signer" then .ok signer
  else if word = "personal" then .ok personal
  else .error (.of (.unknownCertificateKind text))

end CertificateKind

namespace Certificate

/-- The certificates of one kind in a database. -/
def endpoint (kind : CertificateKind) (database : String) : Except Fault Endpoint :=
  Endpoint.lookup kind.resourceKey (Parameters.empty.insert "kdb_id" database)

/-- The key of a label. -/
def key (label : String) : List (String × Json) := [("label", .string label)]

/-- Lists the certificate databases. -/
def databases (client : Client) : Call Response := do
  let endpoint ← Call.ofExcept (Endpoint.lookup "certificate-databases" .empty)
  Operations.getAll client endpoint {}

/-- Lists the certificates of one kind in a database. -/
def getAll (client : Client) (kind : CertificateKind) (database : String) : Call Response := do
  let endpoint ← Call.ofExcept (endpoint kind database)
  Operations.getAll client endpoint {}

/-- Whether a label is taken. -/
def isPresent (client : Client) (kind : CertificateKind) (database label : String) :
    Call Bool := do
  let endpoint ← Call.ofExcept (endpoint kind database)
  let found ← Operations.find client endpoint (key label)
  pure found.isSome

/-- Sends the form that imports a certificate file. -/
def sendImport (client : Client) (endpoint : Endpoint) (database label path : String)
    (password : Option String) (options : CallOptions) : Call Response := do
  let uri ← Call.ofExcept endpoint.collectionUri
  client.invokePostFiles ("Importing certificate '" ++ label ++ "' into " ++ database) uri
    [⟨"cert", path⟩]
    ([("operation", "import"), ("label", label)]
      ++ (password.map fun password => ("password", password)).toList)
    options.ignoreError

/-- Imports a certificate file under a label, unless the label is taken. -/
def importFile (client : Client) (kind : CertificateKind) (database label path : String)
    (password : Option String) (options : CallOptions) : Call Response := do
  let endpoint ← Call.ofExcept (endpoint kind database)
  Operations.gated client endpoint.definition do
    let taken ← if options.force then pure false else isPresent client kind database label
    if taken then
      pure (.skipped ("Certificate '" ++ label ++ "' already exists in " ++ database))
    else
      Operations.unlessChecking options
        (sendImport client endpoint database label path password options)

/-- Deletes the certificate with a label. -/
def delete (client : Client) (kind : CertificateKind) (database label : String)
    (options : CallOptions) : Call Response := do
  let endpoint ← Call.ofExcept (endpoint kind database)
  Operations.delete client endpoint (.object (key label)) options

/-- Exports the certificate with a label into a file. -/
def exportFile (client : Client) (kind : CertificateKind) (database label path : String) :
    Call Response := do
  let endpoint ← Call.ofExcept (endpoint kind database)
  Operations.gated client endpoint.definition do
    match ← Operations.find client endpoint (key label) with
    | none =>
      pure (.skipped ("Certificate '" ++ label ++ "' does not exist in " ++ database))
    | some current =>
      let uri ← Call.ofExcept
        (endpoint.itemUri ((endpoint.definition.objectId? current).getD label))
      client.invokeGetFile (uri ++ "?export") path

end Certificate

end ApplianceConfig
