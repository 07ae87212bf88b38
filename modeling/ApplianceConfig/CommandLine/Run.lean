import ApplianceConfig.CommandLine.Command
import ApplianceConfig.Configuration
import ApplianceConfig.Operations.Drift
import ApplianceConfig.Operations.Snapshot
import ApplianceConfig.State.Apply
import ApplianceConfig.Yaml.Decode

/-!
# Running commands

A command runs as a session and ends in an outcome: the texts for both outputs
and the exit code.  Results are shown as JSON, faults on a line of the second
output; the code is 0 for a result, 1 for a fault and 2 for arguments that are
no command.

The appliance is the one of the profile that is named, else of the default
profile, else of the host name given; settings on the command line go before
those of the profile.  Everything that can be refused without an appliance is
refused in this order: the profile, the credentials, the address, then the
arguments of the command itself.
-/

set_option autoImplicit false

namespace ApplianceConfig

/-- What is shown and the exit code. -/
structure Outcome where
  code : Nat := 0
  output : String := ""
  diagnostics : String := ""
  deriving DecidableEq

/-- What a program runs in: its variables, the words of the readers that it uses and the
configuration directory of the user. -/
structure Surroundings where
  environment : Environment
  wording : Wording
  configurationDirectory : String := ""

namespace CommandLine

/-! ## What is shown -/

/-- A text as a line. -/
def line (text : String) : String := text ++ "\n"

/-- A text filled with blanks to a width. -/
def padded (width : Nat) (text : String) : String :=
  text ++ String.ofList (List.replicate (width - text.length) ' ')

/-- The outcome that shows a text. -/
def shows (text : String) : Outcome := { output := line text }

/-- The outcome that shows a document. -/
def showsDocument (document : Json) : Outcome := shows document.pretty

/-- The outcome that shows a response. -/
def showsResponse (response : Response) : Outcome := showsDocument response.toJson

/-- The outcome of a fault. -/
def failsWith (fault : Fault) : Outcome :=
  { code := 1, diagnostics := line ("Error: " ++ fault.shown) }

/-- The name and version of the program. -/
def versionText : String := "isamcfg 0.2.1"

/-- A short reminder of the commands. -/
def helpText : String :=
  "Usage: isamcfg [OPTIONS] <COMMAND>\n\nCommands:\n" ++ String.intercalate "\n"
    (grammar.commands.map fun command => "  " ++ String.intercalate " " command.path)

/-- The outcome of arguments that do not name a command. -/
def endsWith : Ending → Outcome
  | .misuse => { code := 2, diagnostics := line "error: the arguments name no command" }
  | .help => shows helpText
  | .version => shows versionText

/-! ## The appliance -/

/-- The profile that settings choose, with what they say themselves going first. -/
def chosenProfile (settings : Settings) (configuration : Configuration) : Except Fault Profile := do
  let profile ← match configuration.profile? settings.profile, settings.hostname with
    | some profile, _ => pure profile
    | none, some hostname => pure { hostname }
    | none, none =>
      .error (.of (match settings.profile with
        | some name => .unknownProfile name
        | none => .noAppliance))
  pure { profile with
    hostname := settings.hostname.getD profile.hostname
    port := settings.port.getD profile.port
    username := settings.username.or profile.username
    verifyTls := settings.verifyTls || profile.verifyTls
    timeoutSeconds := settings.timeoutSeconds.or profile.timeoutSeconds }

/-- The client for the appliance that settings choose. -/
def chosenClient (surroundings : Surroundings) (settings : Settings)
    (configuration : Configuration) : Except Fault Client := do
  (← chosenProfile settings configuration).connect surroundings.wording .left
    surroundings.environment

/-- The client for the second appliance of a comparison. -/
def otherClient (surroundings : Surroundings) (settings : Settings)
    (configuration : Configuration) (name : String) : Except Fault Client :=
  match configuration.profile? (some name) with
  | none => .error (.of (.unknownProfile name))
  | some profile =>
    { profile with
      timeoutSeconds := settings.timeoutSeconds.or profile.timeoutSeconds }.connect
        surroundings.wording .right surroundings.environment

/-! ## Documents -/

/-- The document in a file. -/
def document (wording : Wording) (path : String) : Call Json := do
  let text ← Call.within ("Failed to read " ++ path) (Call.readText path)
  match Yaml.readValue? text with
  | some document => pure document
  | none =>
    Call.ofExcept (.error ((Fault.of (.malformedYaml (wording.document text))).within
      ("Failed to parse " ++ path)))

/-- The state document in a file. -/
def stateDocument (wording : Wording) (path : String) : Call StateDocument := do
  let text ← Call.within ("Failed to read " ++ path) (Call.readText path)
  Call.ofExcept (StateDocument.parse wording text)

/-- The endpoint of a resource with parameters as they were written. -/
def endpoint (resource : String) (pairs : List String) : Call Endpoint := do
  let parameters ← Call.ofExcept (Parameters.parse pairs)
  Call.ofExcept (Endpoint.lookup resource parameters)

/-- The key that named values give for a resource; names that are no key fields are left out. -/
def keyOf (definition : ResourceDefinition) (values : Parameters) : List (String × Json) :=
  Json.sortFields (definition.keyFields.filterMap fun field =>
    (values.get? field).map fun value => (field, .string value))

/-! ## Commands -/

/-- Runs a command on snapshots. -/
def runSnapshot (client : Client) (options : CallOptions) : SnapshotCommand → Call Response
  | .list => Snapshot.getAll client
  | .create comment => Snapshot.create client comment options
  | .download ids output => do
    let path ← match output with
      | some path => pure path
      | none => do
        let moment ← Call.perform .clock
        pure (Snapshot.defaultFileName moment)
    Snapshot.download client ids path
  | .upload file comment => Snapshot.upload client file comment options
  | .apply id => Snapshot.apply client id options
  | .delete id => Snapshot.delete client id options

/-- Runs a command on junctions. -/
def runJunction (wording : Wording) (client : Client) (options : CallOptions) :
    JunctionCommand → Call Response
  | .list inst => Junction.getAll client inst
  | .get inst point => Junction.get client inst point options
  | .set inst file => do
    let value ← document wording file
    match Junction.ofJson? value with
    | some junction => Junction.set client inst junction options
    | none =>
      Call.ofExcept (.error ((Fault.of (.malformedJson (wording.junction value))).within
        "Invalid junction definition"))
  | .delete inst point => Junction.delete client inst point options

/-- Runs a command on certificates. -/
def runCertificate (environment : Environment) (client : Client) (options : CallOptions) :
    CertificateCommand → Call Response
  | .databases => Certificate.databases client
  | .list database kind => Certificate.getAll client kind database
  | .importFile database label file kind password =>
    Certificate.importFile client kind database label file
      (password.or (environment.lookup Environment.certificatePasswordVariable)) options
  | .delete database label kind => Certificate.delete client kind database label options
  | .exportFile database label output kind =>
    Certificate.exportFile client kind database label output

/-- The key of a deletion: the document in the file, else the value that was given. -/
def deletionKey (wording : Wording) (endpoint : Endpoint) (key file : Option String) : Call Json :=
  match file, key with
  | some file, _ => document wording file
  | none, some key => Call.ofExcept (endpoint.definition.keyOfText key)
  | none, none => Call.fail .noKeyGiven

/-- Searches for an object and shows its id. -/
def runSearch (client : Client) (endpoint : Endpoint) (key : List (String × Json)) :
    Call Outcome := do
  match ← Operations.search client endpoint key with
  | some id => pure (shows id)
  | none => Call.fail (.noMatch endpoint.describe (Json.object key).compact)

/-- The differences that a comparison found. -/
def differencesIn (response : Response) : List Difference :=
  ((response.data.field? "differences").bind (Json.asList? Difference.ofJson?)).getD []

/-- Compares two appliances; the report of the differences goes to the second output. -/
def runCompare (client other : Client) (endpoint : Endpoint) : Call Outcome := do
  let response ← Operations.compare client other endpoint
  let differences := differencesIn response
  pure { showsResponse response with
    diagnostics := if differences.isEmpty then "" else line (Difference.report differences) }

/-- Runs a command on an appliance. -/
def runOnAppliance (surroundings : Surroundings) (settings : Settings)
    (configuration : Configuration) (client : Client) : ApplianceCommand → Call Outcome
  | .facts => do pure (showsDocument (← client.facts).toJson)
  | .get resource id pairs => do
    let endpoint ← endpoint resource pairs
    match id with
    | some id => showsResponse <$> Operations.get client endpoint (some id) settings.options
    | none => showsResponse <$> Operations.getAll client endpoint settings.options
  | .search resource key pairs => do
    let endpoint ← endpoint resource pairs
    let values ← Call.ofExcept (Parameters.parse key)
    runSearch client endpoint (keyOf endpoint.definition values)
  | .set resource file pairs => do
    let endpoint ← endpoint resource pairs
    let body ← document surroundings.wording file
    showsResponse <$> Operations.set client endpoint body settings.options
  | .delete resource key file pairs => do
    let endpoint ← endpoint resource pairs
    let key ← deletionKey surroundings.wording endpoint key file
    showsResponse <$> Operations.delete client endpoint key settings.options
  | .compare resource name pairs => do
    let endpoint ← endpoint resource pairs
    let other ← Call.ofExcept (otherClient surroundings settings configuration name)
    runCompare client other endpoint
  | .apply file => do
    let state ← stateDocument surroundings.wording file
    let report ← state.apply surroundings.wording client settings.options
    pure (showsDocument report.toJson)
  | .pending => showsResponse <$> PendingChanges.getAll client
  | .deploy discard =>
    showsResponse <$> (if discard then PendingChanges.discard client settings.options
      else PendingChanges.deploy client settings.options)
  | .snapshot command => showsResponse <$> runSnapshot client settings.options command
  | .junction command =>
    showsResponse <$> runJunction surroundings.wording client settings.options command
  | .certificate command =>
    showsResponse <$> runCertificate surroundings.environment client settings.options command

/-- The line that lists a resource. -/
def resourceLine (key : String) (definition : ResourceDefinition) : String :=
  line (padded 28 key ++ " " ++ padded 8 definition.service ++ " " ++ definition.displayName)

/-- The list of the known resources, or of those of one service. -/
def resourceList (service : Option String) : String :=
  String.join ((match service with
    | some service => Registry.keysOfService service
    | none => Registry.keys).filterMap fun key => (Registry.find? key).map (resourceLine key))

/-- The configuration with a profile made from settings and saved under a name. -/
def withProfile (settings : Settings) (configuration : Configuration) (name address : String)
    (isDefault : Bool) : Configuration :=
  let configuration :=
    if isDefault then { configuration with defaultProfile := some name } else configuration
  configuration.setProfile name
    { hostname := address
      port := settings.port.getD 443
      username := settings.username
      verifyTls := settings.verifyTls
      timeoutSeconds := settings.timeoutSeconds }

/-- Runs an invocation. -/
def run (surroundings : Surroundings) (invocation : Invocation) : Call Outcome := do
  let file := Configuration.fileIn surroundings.configurationDirectory
  let configuration ← Configuration.loadOrEmpty surroundings.wording file
  match invocation.command with
  | .resources service => pure { output := resourceList service }
  | .profile name address isDefault => do
    (withProfile invocation.settings configuration name address isDefault).saveTo file
    pure (shows ("Saved profile '" ++ name ++ "'"))
  | .appliance command => do
    let client ← Call.ofExcept (chosenClient surroundings invocation.settings configuration)
    runOnAppliance surroundings invocation.settings configuration client command

/-- Runs what the arguments of the program ask for. -/
def runArguments (surroundings : Surroundings) (arguments : List String) : Session Outcome := do
  match Invocation.read arguments with
  | .error ending => pure (endsWith ending)
  | .ok invocation =>
    match ← (run surroundings invocation).run with
    | .ok outcome => pure outcome
    | .error fault => pure (failsWith fault)

end CommandLine

end ApplianceConfig
