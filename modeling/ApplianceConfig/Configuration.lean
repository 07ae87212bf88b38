import ApplianceConfig.Address.Origin
import ApplianceConfig.Appliance.Client
import ApplianceConfig.Json.Printer
import ApplianceConfig.Json.Reader

/-!
# Configuration

The configuration keeps named profiles, each with the settings to reach one
appliance, and which of them is used when none is named.  It lives in a JSON file
in the configuration directory of the user.  A file that is missing stands for
an empty configuration; so does, when the program starts, a file that cannot be
read.  The first profile that is saved becomes the default.
-/

set_option autoImplicit false

namespace ApplianceConfig

/-! ## Profiles -/

/-- The settings to reach one appliance. -/
structure Profile where
  hostname : String
  port : UInt16 := 443
  username : Option String := none
  /-- A stored password; without one it is taken from the environment. -/
  password : Option String := none
  verifyTls : Bool := false
  timeoutSeconds : Option UInt64 := none
  deriving DecidableEq

namespace Profile

/-- The names of a profile's fields, in order. -/
def fieldNames : List String :=
  ["hostname", "port", "username", "password", "verify_tls", "timeout_secs"]

/-- The parts of a document that a profile is read from. -/
def shape : Json.Shape := .record (fieldNames.map fun name => (name, .value))

/-- A text that may be missing as a value. -/
def optionalText (text : Option String) : Json := (text.map Json.string).getD .null

/-- A profile as a document, its fields in the order in which they are saved. -/
def toJson (profile : Profile) : Json :=
  .object ([("hostname", .string profile.hostname), ("port", .ofNat profile.port.toNat),
    ("username", optionalText profile.username)]
    ++ (profile.password.map fun password => ("password", Json.string password)).toList
    ++ [("verify_tls", .bool profile.verifyTls),
      ("timeout_secs", (profile.timeoutSeconds.map fun n => Json.ofNat n.toNat).getD .null)])

/-- Reads a profile from a document. -/
def ofJson? (document : Json) : Option Profile := do
  let field ← Json.record? fieldNames document
  pure {
    hostname := ← Json.required? Json.asString? (field "hostname")
    port := UInt16.ofNat (← Json.optional? 443 (Json.asNatBelow? UInt16.size) (field "port"))
    username := ← Json.optional? none (Json.asOptional? Json.asString?) (field "username")
    password := ← Json.optional? none (Json.asOptional? Json.asString?) (field "password")
    verifyTls := ← Json.optional? false Json.asBool? (field "verify_tls")
    timeoutSeconds := (← Json.optional? none (Json.asOptional? (Json.asNatBelow? UInt64.size))
      (field "timeout_secs")).map UInt64.ofNat }

/-- The client for a host and port. -/
def client (wording : Wording) (side : Side) (hostname : String) (port : UInt16)
    (credentials : Credentials) : Except Fault Client :=
  match Address.form hostname port.toNat with
  | .ok origin => .ok (Client.ofOrigin side origin credentials)
  | .error fault =>
    .error ((Fault.of (.address (wording.address fault))).within
      ("Invalid appliance address " ++ hostname ++ ":" ++ toString port.toNat))

/-- The client for a profile. -/
def connect (wording : Wording) (side : Side) (environment : Environment) (profile : Profile) :
    Except Fault Client := do
  let credentials ← Credentials.resolve environment profile.username profile.password
  client wording side profile.hostname profile.port credentials

end Profile

/-! ## Configurations -/

/-- Named profiles in the order of names, and the default among them. -/
structure Configuration where
  defaultProfile : Option String := none
  profiles : List (String × Profile) := []
  deriving DecidableEq

namespace Configuration

/-- A list of named profiles with one set, keeping the order of names. -/
def insertProfile (name : String) (profile : Profile) :
    List (String × Profile) → List (String × Profile)
  | [] => [(name, profile)]
  | (other, old) :: rest =>
    if name < other then (name, profile) :: (other, old) :: rest
    else if name = other then (name, profile) :: rest
    else (other, old) :: insertProfile name profile rest

/-- The profile with a name, or the default one. -/
def profile? (configuration : Configuration) (name : Option String) : Option Profile :=
  match name.or configuration.defaultProfile with
  | some name => configuration.profiles.lookup name
  | none => none

/-- The configuration with a profile set; the first one becomes the default. -/
def setProfile (configuration : Configuration) (name : String) (profile : Profile) :
    Configuration :=
  { defaultProfile :=
      if configuration.profiles.isEmpty && configuration.defaultProfile.isNone then some name
      else configuration.defaultProfile
    profiles := insertProfile name profile configuration.profiles }

/-- The configuration without a profile. -/
def removeProfile (configuration : Configuration) (name : String) : Configuration :=
  { configuration with profiles := configuration.profiles.filter fun entry => entry.1 != name }

/-! ## Documents -/

/-- A configuration as a document. -/
def toJson (configuration : Configuration) : Json :=
  .object [("default_profile", Profile.optionalText configuration.defaultProfile),
    ("profiles", .object (configuration.profiles.map fun (name, profile) =>
      (name, profile.toJson)))]

/-- Named profiles listed in any order; of several with one name the last one stays. -/
def sortProfiles (profiles : List (String × Profile)) : List (String × Profile) :=
  profiles.foldl (fun sorted entry => insertProfile entry.1 entry.2 sorted) []

/-- The parts of a document that a configuration is read from. -/
def shape : Json.Shape :=
  .record [("default_profile", .value), ("profiles", .map Profile.shape)]

/-- Reads a configuration from a document with its fields as they are written. -/
def ofJson? (document : Json) : Option Configuration := do
  let field ← Json.record? ["default_profile", "profiles"] document
  pure {
    defaultProfile :=
      ← Json.optional? none (Json.asOptional? Json.asString?) (field "default_profile")
    profiles :=
      sortProfiles (← Json.optional? [] (Json.asMap? Profile.ofJson?) (field "profiles")) }

/-- The text that is saved. -/
def text (configuration : Configuration) : String := configuration.toJson.pretty

/-- Reads a configuration from the text of a file. -/
def ofText? (text : String) : Option Configuration := (Json.readAs? shape text).bind ofJson?

/-! ## Files -/

/-- The file of the configuration in the configuration directory of the user; an empty name stands
for the working directory. -/
def fileIn (directory : String) : String :=
  if directory.isEmpty then "isamcfg/config.json" else directory ++ "/isamcfg/config.json"

/-- Whether a fault says that nothing is at a path. -/
def isAbsence : FileFault → Bool
  | .missing | .notDirectory | .nameTooLong | .invalidName => true
  | _ => false

/-- Loads a configuration from a file; where there is none it is empty. -/
def loadFrom (wording : Wording) (path : String) : Call Configuration := do
  match ← Call.perform (.load path) with
  | .error fault =>
    if isAbsence fault then pure {}
    else Call.ofExcept (.error ((Fault.of (.file fault)).within ("Failed to read " ++ path)))
  | .ok content =>
    match Text.decode? content with
    | none =>
      Call.ofExcept (.error ((Fault.of (.file .notText)).within ("Failed to read " ++ path)))
    | some text =>
      match ofText? text with
      | some configuration => pure configuration
      | none =>
        Call.ofExcept (.error ((Fault.of (.malformedJson (wording.configuration text))).within
          ("Failed to parse " ++ path)))

/-- Loads a configuration from a file; one that cannot be loaded counts as empty. -/
def loadOrEmpty (wording : Wording) (path : String) : Call Configuration :=
  ExceptT.mk do
    match ← (loadFrom wording path).run with
    | .ok configuration => pure (.ok configuration)
    | .error _ => pure (.ok {})

/-- Saves a configuration to a file, making the directory it lies in. -/
def saveTo (configuration : Configuration) (path : String) : Call Unit := do
  if let some directory := Path.directory? path then
    Call.ofFile (← Call.perform (.makeDirectories directory))
  Call.ofFile (← Call.perform (.store path (Text.utf8 configuration.text)))

end Configuration

end ApplianceConfig
