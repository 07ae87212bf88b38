import ApplianceConfig.Appliance.Status
import ApplianceConfig.Json.Basic
import ApplianceConfig.Text.Blank

/-!
# Faults

A call fails for a cause, and the calls around it say what they were doing: a
fault is a cause together with such contexts, the outermost first.  The cause is
one of those this library raises itself, or a failure of something outside it:
the network, the files, a text that is no document, an address that is none.
The wording of every cause of its own stands in one place, `Fault.Cause.text`.
What the transport and the readers of texts and addresses say is not known here:
such a cause carries their words, which come with the answer of the transport or
from the `Wording` that a call is given.

What is shown to a person is cleaned: control characters are left out, a long
text is cut, and a refusal of the appliance is told by a hint for its status and
the appliance's own message.
-/

set_option autoImplicit false

namespace ApplianceConfig

/-! ## Causes -/

/-- Why a file cannot be read or written. -/
inductive FileFault where
  | missing
  | isDirectory
  | notDirectory
  | occupied
  | nameTooLong
  | invalidName
  | notText
  | other
  deriving DecidableEq, Repr

/-- The system's wording for a file fault. -/
def FileFault.text : FileFault → String
  | missing => "No such file or directory (os error 2)"
  | isDirectory => "Is a directory (os error 21)"
  | notDirectory => "Not a directory (os error 20)"
  | occupied => "File exists (os error 17)"
  | nameTooLong => "File name too long (os error 36)"
  | invalidName => "file name contained an unexpected NUL byte"
  | notText => "stream did not contain valid UTF-8"
  | other => "Input/output error (os error 5)"

/-- Why an address is refused. -/
inductive AddressFault where
  | emptyHost
  | malformedDomain
  | malformedNumber
  | malformedBrackets
  | malformedPort
  deriving DecidableEq, Repr

/-- What the readers outside this library say of what they refuse. -/
structure Wording where
  /-- Of a text that is no configuration. -/
  configuration : String → String
  /-- Of a value that is no junction. -/
  junction : Json → String
  /-- Of a text that is no document. -/
  document : String → String
  /-- Of a text that is no state document. -/
  state : String → String
  /-- Of an address. -/
  address : AddressFault → String
  deriving Inhabited

namespace Fault

/-- The cause of a fault. -/
inductive Cause where
  /-- The appliance answered with a failure status and this message. -/
  | refused (status : Status) (message : String)
  /-- No resource has this key. -/
  | unknownResource (key : String)
  /-- A placeholder of an address template has no value. -/
  | missingParameter (name template : String)
  /-- The operation makes no sense for the resource. -/
  | unsupported (operation resource : String)
  /-- A placeholder of an address template is not closed. -/
  | unterminatedPlaceholder (template : String)
  /-- An argument is not of the form `name=value`. -/
  | notAPair (argument : String)
  /-- A version text has no number. -/
  | malformedVersion (text : String)
  /-- A user name that cannot be sent. -/
  | invalidUsername (username : String)
  /-- A variable of the environment is not set. -/
  | variableNotSet
  /-- A certificate kind that does not exist. -/
  | unknownCertificateKind (text : String)
  /-- An object of a collection is asked for without its id. -/
  | idRequired (resource : String)
  /-- The object found has no field to take the id from. -/
  | idFieldMissing (resource field : String)
  /-- A document lacks a field that identifies an object. -/
  | keyFieldMissing (field resource : String)
  /-- One value cannot identify an object that several fields identify. -/
  | severalKeyFields (resource : String) (fields : List String)
  /-- A download without snapshots. -/
  | noSnapshots
  /-- An entry for junctions names no instance. -/
  | junctionInstanceMissing
  /-- An entry for junctions names no junction point. -/
  | junctionPointMissing
  /-- Nothing matches a search. -/
  | noMatch (resource key : String)
  /-- A deletion names neither a key nor a file. -/
  | noKeyGiven
  /-- No profile has this name. -/
  | unknownProfile (name : String)
  /-- No appliance is configured. -/
  | noAppliance
  /-- A cause given by its wording. -/
  | stated (text : String)
  /-- A text or value is not the JSON that was expected; its reader says this. -/
  | malformedJson (words : String)
  /-- A text is not the YAML that was expected; its reader says this. -/
  | malformedYaml (words : String)
  /-- A request or reply did not get through; the transport says this. -/
  | transport (words : String)
  /-- A file cannot be read or written. -/
  | file (fault : FileFault)
  /-- An address is refused; its reader says this. -/
  | address (words : String)
  deriving DecidableEq

/-- Whether a cause lies outside this library. -/
def Cause.isForeign : Cause → Bool
  | malformedJson _ | malformedYaml _ | transport _ | file _ | address _ => true
  | _ => false

/-- The wording of a cause. -/
def Cause.text : Cause → String
  | refused status message => "API request failed: " ++ status.text ++ " " ++ message
  | unknownResource key => "Unknown resource: " ++ key
  | missingParameter name template => "Missing parameter '" ++ name ++ "' for " ++ template
  | unsupported operation resource => operation ++ " is not supported for " ++ resource
  | unterminatedPlaceholder template => "Unterminated placeholder in " ++ template
  | notAPair argument => "Expected name=value, got '" ++ argument ++ "'"
  | malformedVersion text => "Invalid version: " ++ text
  | invalidUsername username => "Invalid username: " ++ username
  | variableNotSet => "environment variable not found"
  | unknownCertificateKind text =>
    "Unknown certificate kind: " ++ text ++ " (expected signer or personal)"
  | idRequired resource => resource ++ " requires an id"
  | idFieldMissing resource field => resource ++ " has no '" ++ field ++ "' field"
  | keyFieldMissing field resource => "Missing key field '" ++ field ++ "' for " ++ resource
  | severalKeyFields resource fields =>
    resource ++ " is identified by " ++ toString fields.length ++ " fields ("
      ++ String.intercalate ", " fields ++ "); supply them as a document"
  | noSnapshots => "No snapshot ids given"
  | junctionInstanceMissing => "junctions entries need params.instance"
  | junctionPointMissing => "junctions entries need data.junction_point"
  | noMatch resource key => "No " ++ resource ++ " matches " ++ key
  | noKeyGiven => "Give a key value or --file"
  | unknownProfile name => "No profile named '" ++ name ++ "'"
  | noAppliance => "No appliance configured. Use --hostname or `isamcfg profile`"
  | stated text => text
  | malformedJson words | malformedYaml words | transport words | address words => words
  | file fault => fault.text

end Fault

/-! ## Faults with their contexts -/

/-- A cause with what the calls around it were doing, the outermost first. -/
structure Fault where
  contexts : List String
  cause : Fault.Cause
  deriving DecidableEq

namespace Fault

/-- A fault without contexts. -/
def of (cause : Cause) : Fault := ⟨[], cause⟩

/-- The fault seen from a call that was doing what the text says. -/
def within (context : String) (fault : Fault) : Fault :=
  { fault with contexts := context :: fault.contexts }

/-- The contexts and the cause on one line. -/
def chain (fault : Fault) : String :=
  String.intercalate ": " (fault.contexts ++ [fault.cause.text])

/-- What this library itself says of the fault: the wording of a foreign cause is left out, and
nothing may remain. -/
def message? (fault : Fault) : Option String :=
  let parts := fault.contexts ++ if fault.cause.isForeign then [] else [fault.cause.text]
  if parts.isEmpty then none else some (String.intercalate ": " parts)

/-- Whether the appliance answered that there is no such thing. -/
def isNotFound (fault : Fault) : Bool :=
  match fault.cause with
  | .refused status _ => status.code == 404
  | _ => false

/-! ## Texts for the person at the keyboard -/

/-- The most characters of a chain that are shown. -/
def longestShown : Nat := 160

/-- A text without control characters and cut to the greatest length, with dots where something was
left out. -/
def clean (text : String) : String :=
  let shown := String.ofList ((text.toList.filter fun c => !Text.isControl c).take longestShown)
  if shown.utf8ByteSize < text.utf8ByteSize then shown ++ "..." else shown

/-- The text shown for a fault. -/
def shown (fault : Fault) : String :=
  match fault.cause with
  | .refused status message =>
    if message.isEmpty then status.hint else status.hint ++ " (" ++ message ++ ")"
  | _ => clean fault.chain

end Fault

end ApplianceConfig
