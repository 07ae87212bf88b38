import ApplianceConfig.Operations.Write
import ApplianceConfig.Text.LowerCase

/-!
# Junctions

A junction connects a path of a reverse proxy instance to a server behind it.
Junctions are identified by their junction point.  The list of an instance holds
only ids, a single junction comes back with its servers in a list of their own,
and a changed junction is replaced by sending it again with `force` set.

`Junction.payload` is the document that is sent; `Junction.normalize` brings
what was read into the same form, so that both can be compared.
-/

set_option autoImplicit false

namespace ApplianceConfig

/-- The desired state of a junction. -/
structure Junction where
  point : String
  kind : String
  serverHostname : String
  serverPort : UInt16
  virtualHostname : Option String := none
  stateful : Option Bool := none
  transparentPath : Option Bool := none
  basicAuthMode : Option String := none
  remoteHttpHeader : List String := []
  /-- Every other setting, sent as it is, in the order of names. -/
  extra : List (String × Json) := []

namespace Junction

/-! ## Documents -/

/-- The names of the settings that have a field of their own. -/
def fieldNames : List String :=
  ["junction_point", "junction_type", "server_hostname", "server_port", "virtual_hostname",
    "stateful_junction", "transparent_path_junction", "basic_auth_mode", "remote_http_header"]

/-- Reads a junction from a document; settings without a field of their own are kept. -/
def ofJson? (document : Json) : Option Junction := do
  let fields ← document.fields?
  let field ← Json.record? fieldNames document
  pure {
    point := ← Json.required? Json.asString? (field "junction_point")
    kind := ← Json.required? Json.asString? (field "junction_type")
    serverHostname := ← Json.required? Json.asString? (field "server_hostname")
    serverPort := UInt16.ofNat (← Json.required? (Json.asNatBelow? UInt16.size) (field "server_port"))
    virtualHostname :=
      ← Json.optional? none (Json.asOptional? Json.asString?) (field "virtual_hostname")
    stateful := ← Json.optional? none (Json.asOptional? Json.asBool?) (field "stateful_junction")
    transparentPath :=
      ← Json.optional? none (Json.asOptional? Json.asBool?) (field "transparent_path_junction")
    basicAuthMode :=
      ← Json.optional? none (Json.asOptional? Json.asString?) (field "basic_auth_mode")
    remoteHttpHeader := ← Json.optional? [] Json.asStrings? (field "remote_http_header")
    extra := Json.sortFields (Json.dropFields fieldNames fields) }

/-- The word for a flag. -/
def flagWord (flag : Bool) : String := if flag then "yes" else "no"

/-- A field that is there only if it has a value. -/
def given {α : Type} (name : String) (write : α → Json) : Option α → List (String × Json)
  | some value => [(name, write value)]
  | none => []

/-- The header list as a field, if it is not empty. -/
def headerField (junction : Junction) : List (String × Json) :=
  if junction.remoteHttpHeader.isEmpty then []
  else [("remote_http_header", .ofStrings junction.remoteHttpHeader)]

/-- The port as a value. -/
def portValue (port : UInt16) : Json := .ofNat port.toNat

/-- The document that is sent to the appliance: the type in lower case and flags as words. -/
def payload (junction : Junction) : Json :=
  .ofFields (
    [("junction_point", .string junction.point),
      ("junction_type", .string (Text.lowerCase junction.kind)),
      ("server_hostname", .string junction.serverHostname),
      ("server_port", portValue junction.serverPort)]
    ++ given "virtual_hostname" Json.string junction.virtualHostname
    ++ given "stateful_junction" (fun flag => .string (flagWord flag)) junction.stateful
    ++ given "transparent_path_junction" (fun flag => .string (flagWord flag))
        junction.transparentPath
    ++ given "basic_auth_mode" Json.string junction.basicAuthMode
    ++ junction.headerField
    ++ junction.extra)

/-- A junction as the document it can be read from. -/
def toJson (junction : Junction) : Json :=
  .ofFields (
    [("junction_point", .string junction.point),
      ("junction_type", .string junction.kind),
      ("server_hostname", .string junction.serverHostname),
      ("server_port", portValue junction.serverPort)]
    ++ given "virtual_hostname" Json.string junction.virtualHostname
    ++ given "stateful_junction" Json.bool junction.stateful
    ++ given "transparent_path_junction" Json.bool junction.transparentPath
    ++ given "basic_auth_mode" Json.string junction.basicAuthMode
    ++ junction.headerField
    ++ junction.extra)

/-! ## What the appliance answers -/

/-- The port that a text writes in decimal digits, with or without a plus sign. -/
def portOfText? (text : String) : Option UInt16 :=
  let digits := match text.toList with
    | '+' :: rest => rest
    | chars => chars
  if digits.isEmpty || !digits.all Numeral.isDigit then none
  else
    let n := Numeral.natural digits
    if n < UInt16.size then some (UInt16.ofNat n) else none

/-- The field of an answer under the name and in the form that requests use; the list of servers is
left out. -/
def renamed : String × Json → Option (String × Json)
  | (name, value) =>
    if name = "id" then some ("junction_point", value)
    else if name = "type" ∨ name = "junction_type" then
      some ("junction_type",
        .string (match value with
          | .string text => Text.lowerCase text
          | _ => ""))
    else if name = "servers" then none
    else some (name, value)

/-- The fields of the first server of an answer. -/
def firstServer (fields : List (String × Json)) : List (String × Json) :=
  match Json.lookup "servers" fields with
  | some (.array (.object server :: _)) => server
  | _ => []

/-- Fields with those of a second list added that are missing. -/
def complete (fields others : List (String × Json)) : List (String × Json) :=
  others.foldl (fun completed field =>
    match Json.lookup field.1 completed with
    | some _ => completed
    | none => Json.insert field.1 field.2 completed) fields

/-- Fields with a port written as text turned into a number. -/
def withNumericPort (fields : List (String × Json)) : List (String × Json) :=
  match Json.lookup "server_port" fields with
  | some (.string text) =>
    match portOfText? text with
    | some port => Json.insert "server_port" (portValue port) fields
    | none => fields
  | _ => fields

/-- A junction as the appliance answers it, in the form of the document that is sent: the first
server's fields stand beside the others, where the junction itself does not have them. -/
def normalize : Json → Json
  | .object fields =>
    .object (withNumericPort
      (complete (Json.sortFields (fields.filterMap renamed)) (firstServer fields)))
  | other => other

/-! ## Operations -/

/-- The junctions of an instance. -/
def endpoint (inst : String) : Except Fault Endpoint :=
  Endpoint.lookup "junctions" (Parameters.empty.insert "instance" inst)

/-- The key of a junction point. -/
def key (point : String) : List (String × Json) := [("id", .string point)]

/-- Lists the junction points of an instance. -/
def getAll (client : Client) (inst : String) : Call Response := do
  let endpoint ← Call.ofExcept (endpoint inst)
  Operations.getAll client endpoint {}

/-- Reads one junction. -/
def get (client : Client) (inst point : String) (options : CallOptions) : Call Response := do
  let endpoint ← Call.ofExcept (endpoint inst)
  Operations.get client endpoint (some point) options

/-- Whether an instance has a junction point. -/
def isPresent (client : Client) (inst point : String) : Call Bool := do
  let endpoint ← Call.ofExcept (endpoint inst)
  let found ← Operations.search client endpoint (key point)
  pure found.isSome

/-- What has to be done for a junction: nothing, or sending it, replacing an existing one or not. -/
inductive Step where
  | nothing
  | send (replace : Bool)
  deriving DecidableEq, Repr

/-- Finds out what has to be done for a junction. -/
def plan (client : Client) (endpoint : Endpoint) (inst : String) (junction : Junction)
    (options : CallOptions) : Call Step := do
  if ← isPresent client inst junction.point then
    let current ← get client inst junction.point {}
    if !options.force
        && !endpoint.definition.needsUpdate (normalize current.data) junction.payload then
      pure .nothing
    else pure (.send true)
  else pure (.send false)

/-- The document sent for a junction, which says whether an existing one is replaced. -/
def replacing (replace : Bool) : Json → Json
  | .object fields => .object (Json.insert "force" (.string (flagWord replace)) fields)
  | other => other

/-- Creates a junction, or replaces it if its settings differ. -/
def set (client : Client) (inst : String) (junction : Junction) (options : CallOptions) :
    Call Response := do
  let endpoint ← Call.ofExcept (endpoint inst)
  Operations.gated client endpoint.definition do
    match ← plan client endpoint inst junction options with
    | .nothing => pure .unchanged
    | .send replace =>
      Operations.unlessChecking options do
        let uri ← Call.ofExcept endpoint.collectionUri
        client.invokePost
          ((if replace then "Replacing" else "Creating") ++ " junction " ++ junction.point
            ++ " on " ++ inst)
          uri (replacing replace junction.payload) options.ignoreError

/-- Deletes a junction; a missing one is no fault. -/
def delete (client : Client) (inst point : String) (options : CallOptions) : Call Response := do
  let endpoint ← Call.ofExcept (endpoint inst)
  Operations.delete client endpoint (.object (key point)) options

end Junction

end ApplianceConfig
