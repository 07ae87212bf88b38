import ApplianceConfig.Appliance.Credentials
import ApplianceConfig.Appliance.Message
import ApplianceConfig.Appliance.Response
import ApplianceConfig.Appliance.Session
import ApplianceConfig.Files.Path

/-!
# Clients

A client stands for one appliance: where it is, the credentials for it, and the
side of the session on which its facts are remembered.  The module holds the
single calls to an appliance and the reading of its facts.

Every call says what it is doing; that text is the context of its fault.  A
caller may tolerate refusals: then a failure status becomes a response that
carries it, with a warning in place of data.  Only refusals are tolerated, never
a request that did not get through.

Facts are fetched by the first call that needs them and remembered when both
answers were read.  A fetch that fails leaves nothing remembered, and the next
call tries again.
-/

set_option autoImplicit false

namespace ApplianceConfig

/-- One appliance to talk to. -/
structure Client where
  side : Side
  origin : String
  credentials : Credentials

namespace Client

/-- The client for an origin, which is written without the slashes at its end. -/
def ofOrigin (side : Side) (origin : String) (credentials : Credentials) : Client :=
  ⟨side, String.ofList (origin.toList.reverse.dropWhile (· == '/')).reverse, credentials⟩

/-- An address on the appliance always starts with a slash. -/
def target (uri : String) : String := if uri.startsWith "/" then uri else "/" ++ uri

/-- The full address of a request. -/
def url (client : Client) (uri : String) : String := client.origin ++ target uri

/-! ## Sending -/

/-- The request for an address. -/
def request (client : Client) (method : Method) (uri accept : String) (content : Content) :
    Request :=
  ⟨client.origin, method, target uri, accept, client.credentials.authorization, content⟩

/-- Sends a request; the result is the body of a successful reply. -/
def send (client : Client) (request : Request) : Call Bytes := do
  match ← Call.perform (.exchange client.side request) with
  | .error words =>
    Call.ofExcept (.error ((Fault.of (.transport words)).within "Failed to send request"))
  | .ok reply =>
    if reply.status.isSuccess then
      match reply.body with
      | .ok body => pure body
      | .error words =>
        Call.ofExcept (.error ((Fault.of (.transport words)).within "Failed to read response body"))
    else Call.fail (.refused reply.status (Message.ofFailure (reply.body.toOption.getD [])))

/-- Sends a request for a document. -/
def ask (client : Client) (method : Method) (uri : String) (content : Content) : Call Json := do
  let body ← client.send (client.request method uri documentForm content)
  pure (Message.value body)

/-! ## Single calls -/

/-- The response that stands for a tolerated refusal. -/
def refusal (description : String) (status : Status) (message : String) : Response :=
  { Response.skipped (description ++ " failed with " ++ status.text ++ ": " ++ message) with
    code := status.code
    data := .null }

/-- The response of a call: a refusal is turned into one if it is tolerated, and every other fault
is told with what the call was doing. -/
def tolerate (ignoreError : Bool) (description : String) (call : Call Response) : Call Response :=
  ExceptT.mk do
    match ← call.run with
    | .ok response => pure (.ok response)
    | .error fault =>
      match fault.cause with
      | .refused status message =>
        if ignoreError then pure (.ok (refusal description status message))
        else pure (.error (fault.within description))
      | _ => pure (.error (fault.within description))

/-- A call that sends a request and answers with the data of the reply. -/
def invoke (client : Client) (method : Method) (description uri : String) (content : Content)
    (ignoreError : Bool) : Call Response :=
  tolerate ignoreError description do
    let data ← client.ask method uri content
    pure (.make data (method != .get) [])

/-- Reads an address. -/
def invokeGet (client : Client) (description uri : String) (ignoreError : Bool) : Call Response :=
  client.invoke .get description uri .nothing ignoreError

/-- Sends a document to an address. -/
def invokePost (client : Client) (description uri : String) (body : Json) (ignoreError : Bool) :
    Call Response :=
  client.invoke .post description uri (.document body) ignoreError

/-- Writes a document to an address. -/
def invokePut (client : Client) (description uri : String) (body : Json) (ignoreError : Bool) :
    Call Response :=
  client.invoke .put description uri (.document body) ignoreError

/-- Deletes what is at an address. -/
def invokeDelete (client : Client) (description uri : String) (ignoreError : Bool) :
    Call Response :=
  client.invoke .delete description uri .nothing ignoreError

/-! ## Files -/

/-- Reads an address into a file, making the directory it lies in. -/
def invokeGetFile (client : Client) (uri path : String) : Call Response := do
  let body ← client.send (client.request .get uri fileForm .nothing)
  if let some directory := Path.directory? path then
    Call.ofFile (← Call.perform (.makeDirectories directory))
  Call.within ("Failed to write " ++ path) do
    Call.ofFile (← Call.perform (.store path body))
  pure (.make (.ofFields [("file", .string path), ("bytes", .ofNat body.length)]) true [])

/-- A file to be sent under a form field. -/
structure Upload where
  field : String
  path : String
  deriving DecidableEq

/-- The form parts of files, read one after the other. -/
def fileParts : List Upload → Call (List FormPart)
  | [] => pure []
  | upload :: rest => do
    let content ← Call.within ("Failed to read " ++ upload.path) do
      Call.ofFile (← Call.perform (.load upload.path))
    let parts ← fileParts rest
    pure (⟨upload.field, some ((Path.fileName? upload.path).getD upload.field), content⟩ :: parts)

/-- The form part of a field. -/
def fieldPart (field : String × String) : FormPart := ⟨field.1, none, Text.utf8 field.2⟩

/-- Sends a form of fields and files. -/
def invokePostFiles (client : Client) (description uri : String) (uploads : List Upload)
    (fields : List (String × String)) (ignoreError : Bool) : Call Response :=
  tolerate ignoreError description do
    let files ← fileParts uploads
    let data ← client.ask .post uri (.form (fields.map fieldPart ++ files))
    pure (.make data true [])

/-! ## Facts -/

/-- Where the firmware partitions are listed. -/
def firmwareUri : String := "/firmware_settings"

/-- Where the activated modules are listed. -/
def capabilitiesUri : String := "/isam/capabilities/v1"

/-- Reads the facts from the appliance. -/
def fetchFacts (client : Client) : Call Facts := do
  let firmware ← Call.within "Unable to read firmware version" do
    client.ask .get firmwareUri .nothing
  let capabilities ← Call.within "Unable to read activated modules" do
    client.ask .get capabilitiesUri .nothing
  pure (Facts.ofAnswers firmware capabilities)

/-- The facts, remembered or read. -/
def facts (client : Client) : Call Facts := do
  match ← Call.perform (.recallFacts client.side) with
  | some facts => pure facts
  | none => do
    let facts ← client.fetchFacts
    let _ ← Call.perform (.rememberFacts client.side (some facts))
    pure facts

/-- The facts read anew. -/
def refreshFacts (client : Client) : Call Facts := do
  let _ ← Call.perform (.rememberFacts client.side none)
  client.facts

/-- The warning for the requirement that the appliance does not meet, if there is one.  Without
requirements nothing is asked. -/
def checkRequirements (client : Client) (minimumVersion : Option String) (modules : List String) :
    Call (Option String) := do
  if minimumVersion.isNone && modules.isEmpty then pure none
  else do
    let facts ← client.facts
    Call.ofExcept (facts.unmet? minimumVersion modules)

end Client

end ApplianceConfig
