import ApplianceConfig.Operations.Write

/-!
# Snapshots

A snapshot keeps the configuration of an appliance at one time.  It has an id
given by the appliance and a comment chosen by the user; the comment is what
makes creating and uploading repeatable.  Applying a snapshot always changes the
appliance.
-/

set_option autoImplicit false

namespace ApplianceConfig.Snapshot

/-- The snapshots of an appliance. -/
def endpoint : Except Fault Endpoint := Endpoint.lookup "snapshots" .empty

/-- The address of the snapshots. -/
def baseUri : Call String := Call.ofExcept (endpoint.bind Endpoint.collectionUri)

/-- A number with leading zeros. -/
def padded (width n : Nat) : String :=
  let digits := Nat.toDigits 10 n
  String.ofList (List.replicate (width - digits.length) '0' ++ digits)

/-- The file that a download goes to if none is named. -/
def defaultFileName (moment : Moment) : String :=
  "isam-snapshot-" ++ padded 4 moment.year ++ padded 2 moment.month ++ padded 2 moment.day ++ "-"
    ++ padded 2 moment.hour ++ padded 2 moment.minute ++ padded 2 moment.second ++ ".snapshot"

/-- Lists the snapshots. -/
def getAll (client : Client) : Call Response := do
  let endpoint ← Call.ofExcept endpoint
  Operations.getAll client endpoint {}

/-- The id of the first snapshot with a comment. -/
def search (client : Client) (comment : String) : Call (Option String) := do
  let endpoint ← Call.ofExcept endpoint
  Operations.search client endpoint [("comment", .string comment)]

/-- Whether a listed snapshot has an id. -/
def hasId (id : String) (snapshot : Json) : Bool :=
  match snapshot.field? "id" with
  | some (.string text) => text == id
  | some (.number value) => value.text == id
  | _ => false

/-- Whether there is a snapshot with an id. -/
def isPresent (client : Client) (id : String) : Call Bool := do
  let all ← getAll client
  match all.data with
  | .array items => pure (items.any (hasId id))
  | _ => pure false

/-- Whether there is a snapshot with a comment; a forced run does not ask. -/
def isKnown (client : Client) (comment : String) (options : CallOptions) : Call Bool := do
  if options.force then pure false
  else do
    let found ← search client comment
    pure found.isSome

/-- Takes a snapshot, once for each comment. -/
def create (client : Client) (comment : String) (options : CallOptions) : Call Response := do
  if ← isKnown client comment options then
    pure (.skipped ("Snapshot '" ++ comment ++ "' already exists"))
  else
    Operations.unlessChecking options do
      let uri ← baseUri
      client.invokePost ("Creating snapshot '" ++ comment ++ "'") uri
        (.object [("comment", .string comment)]) options.ignoreError

/-- Downloads snapshots into a file. -/
def download (client : Client) (ids : List String) (path : String) : Call Response := do
  if ids.isEmpty then Call.fail .noSnapshots
  else do
    let uri ← baseUri
    client.invokeGetFile
      (uri ++ "/download?record_ids="
        ++ String.ofList (Text.percentEncode (String.intercalate "," ids).toList))
      path

/-- Sends the form that uploads a snapshot file. -/
def sendUpload (client : Client) (path : String) (comment : Option String)
    (options : CallOptions) : Call Response := do
  let uri ← baseUri
  client.invokePostFiles ("Uploading snapshot " ++ path) uri [⟨"uploadedfile", path⟩]
    (comment.map fun comment => ("comment", comment)).toList options.ignoreError

/-- Uploads a snapshot file; with a comment it is uploaded once. -/
def upload (client : Client) (path : String) (comment : Option String) (options : CallOptions) :
    Call Response := do
  let known : Option String ← match comment with
    | some comment => do
      if ← isKnown client comment options then pure (some comment) else pure none
    | none => pure none
  match known with
  | some comment => pure (.skipped ("Snapshot '" ++ comment ++ "' already uploaded"))
  | none => Operations.unlessChecking options (sendUpload client path comment options)

/-- Applies the snapshot with an id. -/
def apply (client : Client) (id : String) (options : CallOptions) : Call Response := do
  if ← isPresent client id then
    Operations.unlessChecking options do
      let uri ← baseUri
      client.invokePost ("Applying snapshot " ++ id)
        (uri ++ "/apply/" ++ String.ofList (Text.percentEncode id.toList))
        (.object [("snapshot_id", .string id)]) options.ignoreError
  else pure (.skipped ("Snapshot " ++ id ++ " does not exist"))

/-- Deletes the snapshot with an id. -/
def delete (client : Client) (id : String) (options : CallOptions) : Call Response := do
  if ← isPresent client id then
    Operations.unlessChecking options do
      let uri ← baseUri
      client.invokeDelete ("Deleting snapshot " ++ id)
        (uri ++ "/multi_destroy?record_ids=" ++ String.ofList (Text.percentEncode id.toList))
        options.ignoreError
  else pure (.skipped ("Snapshot " ++ id ++ " does not exist, nothing to delete"))

end ApplianceConfig.Snapshot
