import ApplianceConfig.CommandLine.Grammar
import ApplianceConfig.Operations.Certificate

/-!
# Commands

What the program can be told to do, the settings that go with it, and the
grammar that ties both to the arguments on the command line.  A command holds
what was written; documents and files are read when it runs.
-/

set_option autoImplicit false

namespace ApplianceConfig

/-! ## What can be asked for -/

/-- A command on snapshots. -/
inductive SnapshotCommand where
  | list
  | create (comment : String)
  | download (ids : List String) (output : Option String)
  | upload (file : String) (comment : Option String)
  | apply (id : String)
  | delete (id : String)
  deriving DecidableEq

/-- A command on the junctions of an instance. -/
inductive JunctionCommand where
  | list (inst : String)
  | get (inst point : String)
  | set (inst file : String)
  | delete (inst point : String)
  deriving DecidableEq

/-- A command on certificates. -/
inductive CertificateCommand where
  | databases
  | list (database : String) (kind : CertificateKind)
  | importFile (database label file : String) (kind : CertificateKind) (password : Option String)
  | delete (database label : String) (kind : CertificateKind)
  | exportFile (database label output : String) (kind : CertificateKind)
  deriving DecidableEq

/-- A command that talks to an appliance; `pairs` are the parameters as they were written. -/
inductive ApplianceCommand where
  | facts
  | get (resource : String) (id : Option String) (pairs : List String)
  | search (resource : String) (key pairs : List String)
  | set (resource file : String) (pairs : List String)
  | delete (resource : String) (key file : Option String) (pairs : List String)
  | compare (resource other : String) (pairs : List String)
  | apply (file : String)
  | pending
  | deploy (discard : Bool)
  | snapshot (command : SnapshotCommand)
  | junction (command : JunctionCommand)
  | certificate (command : CertificateCommand)
  deriving DecidableEq

/-- A command. -/
inductive Command where
  /-- List the known resources, or those of one service. -/
  | resources (service : Option String)
  /-- Save a profile. -/
  | profile (name address : String) (isDefault : Bool)
  /-- Do something with the appliance that the settings name. -/
  | appliance (command : ApplianceCommand)
  deriving DecidableEq

/-- The settings that go with every command. -/
structure Settings where
  profile : Option String := none
  hostname : Option String := none
  port : Option UInt16 := none
  username : Option String := none
  verifyTls : Bool := false
  timeoutSeconds : Option UInt64 := none
  options : CallOptions := {}
  deriving DecidableEq

/-- A command with its settings. -/
structure Invocation where
  settings : Settings
  command : Command
  deriving DecidableEq

namespace CommandLine

/-! ## Values -/

/-- A text without the sign before it, and whether the sign is a minus. -/
def splitSign (text : String) : Bool × List Char :=
  match text.toList with
  | '+' :: rest => (false, rest)
  | '-' :: rest => (true, rest)
  | chars => (false, chars)

/-- The number that digits write. -/
def digitsValue? (digits : List Char) : Option Nat :=
  if digits.isEmpty || !digits.all Numeral.isDigit then none else some (Numeral.natural digits)

/-- Reads a port, which may have a sign; a negative one is refused. -/
def port? (text : String) : Option UInt16 := do
  let (isNegative, digits) := splitSign text
  let n ← digitsValue? digits
  if UInt16.size ≤ n || (isNegative && n != 0) then none else some (UInt16.ofNat n)

/-- Reads a number of seconds, which may have a plus sign. -/
def seconds? (text : String) : Option UInt64 := do
  let (isNegative, digits) := splitSign text
  let n ← digitsValue? digits
  if UInt64.size ≤ n || isNegative then none else some (UInt64.ofNat n)

/-- The words for how much is logged. -/
def logLevels : List String := ["off", "error", "warn", "info", "debug", "trace"]

/-- Whether a text can name a file. -/
def isPath (text : String) : Bool := !text.isEmpty

/-! ## Options and places -/

/-- A flag. -/
def flag (name : String) : OptionRule := { name, takesValue := false }

/-- The options that every command takes. -/
def commonOptions : List OptionRule :=
  [{ name := "profile" }, { name := "hostname" },
    { name := "port", accepts := fun text => (port? text).isSome },
    { name := "username", letter := some 'u' }, flag "verify-tls",
    { name := "timeout", accepts := fun text => (seconds? text).isSome },
    flag "check", flag "force", flag "ignore-error",
    { name := "log-level", accepts := fun text => logLevels.contains text }]

/-- The option that names parameters for address templates. -/
def pairsOption : OptionRule := { name := "param", letter := some 'p', repeats := true }

/-- The option that names a file. -/
def fileOption : OptionRule := { name := "file", letter := some 'f', accepts := isPath }

/-- The option for the kind of certificate. -/
def kindOption : OptionRule :=
  { name := "kind", accepts := fun text => (CertificateKind.parse text).toOption.isSome }

/-- A plain argument that names a file. -/
def pathPlace (name : String) : PlaceRule := { name, accepts := isPath }

/-- The kind of certificate that was given; without one it is signer certificates. -/
def kindOf (given : Arguments) : CertificateKind :=
  ((given.value? "kind").bind fun text => (CertificateKind.parse text).toOption).getD .signer

/-! ## The commands -/

/-- A command that talks to an appliance, with the words that name it. -/
def applianceRule (path : List String) (options : List OptionRule) (places : List PlaceRule)
    (meaning : Arguments → Option ApplianceCommand) : CommandRule Command :=
  { path, options, places, meaning := fun given => (meaning given).map .appliance }

/-- The commands on snapshots. -/
def snapshotRules : List (CommandRule Command) := [
  applianceRule ["snapshot", "list"] [] [] fun _ => some (.snapshot .list),
  applianceRule ["snapshot", "create"] [] [{ name := "comment" }] fun given => do
    pure (.snapshot (.create (← given.value? "comment"))),
  applianceRule ["snapshot", "download"]
    [{ name := "output", letter := some 'o', accepts := isPath }]
    [{ name := "ids", repeats := true }] fun given =>
      some (.snapshot (.download (given.values "ids") (given.value? "output"))),
  applianceRule ["snapshot", "upload"] [{ name := "comment" }] [pathPlace "file"] fun given => do
    pure (.snapshot (.upload (← given.value? "file") (given.value? "comment"))),
  applianceRule ["snapshot", "apply"] [] [{ name := "id" }] fun given => do
    pure (.snapshot (.apply (← given.value? "id"))),
  applianceRule ["snapshot", "delete"] [] [{ name := "id" }] fun given => do
    pure (.snapshot (.delete (← given.value? "id")))]

/-- The commands on junctions. -/
def junctionRules : List (CommandRule Command) := [
  applianceRule ["junction", "list"] [] [{ name := "instance" }] fun given => do
    pure (.junction (.list (← given.value? "instance"))),
  applianceRule ["junction", "get"] [] [{ name := "instance" }, { name := "point" }]
    fun given => do
      pure (.junction (.get (← given.value? "instance") (← given.value? "point"))),
  applianceRule ["junction", "set"] [fileOption] [{ name := "instance" }] fun given => do
    pure (.junction (.set (← given.value? "instance") (← given.value? "file"))),
  applianceRule ["junction", "delete"] [] [{ name := "instance" }, { name := "point" }]
    fun given => do
      pure (.junction (.delete (← given.value? "instance") (← given.value? "point")))]

/-- The commands on certificates. -/
def certificateRules : List (CommandRule Command) := [
  applianceRule ["cert", "list"] [kindOption] [{ name := "database" }] fun given =>
    some (.certificate (match given.value? "database" with
      | some database => .list database (kindOf given)
      | none => .databases)),
  applianceRule ["cert", "import"] [kindOption, { name := "password" }]
    [{ name := "database" }, { name := "label" }, pathPlace "file"] fun given => do
      pure (.certificate (.importFile (← given.value? "database") (← given.value? "label")
        (← given.value? "file") (kindOf given) (given.value? "password"))),
  applianceRule ["cert", "delete"] [kindOption] [{ name := "database" }, { name := "label" }]
    fun given => do
      pure (.certificate (.delete (← given.value? "database") (← given.value? "label")
        (kindOf given))),
  applianceRule ["cert", "export"] [kindOption]
    [{ name := "database" }, { name := "label" }, pathPlace "output"] fun given => do
      pure (.certificate (.exportFile (← given.value? "database") (← given.value? "label")
        (← given.value? "output") (kindOf given)))]

/-- The commands on resources of any kind. -/
def resourceRules : List (CommandRule Command) := [
  applianceRule ["get"] [pairsOption] [{ name := "resource" }, { name := "id" }] fun given => do
    pure (.get (← given.value? "resource") (given.value? "id") (given.values "param")),
  applianceRule ["search"] [pairsOption] [{ name := "resource" }, { name := "key", repeats := true }]
    fun given => do
      if (given.values "key").isEmpty then none
      pure (.search (← given.value? "resource") (given.values "key") (given.values "param")),
  applianceRule ["set"] [fileOption, pairsOption] [{ name := "resource" }] fun given => do
    pure (.set (← given.value? "resource") (← given.value? "file") (given.values "param")),
  applianceRule ["delete"] [fileOption, pairsOption] [{ name := "resource" }, { name := "key" }]
    fun given => do
      pure (.delete (← given.value? "resource") (given.value? "key") (given.value? "file")
        (given.values "param")),
  applianceRule ["compare"] [{ name := "with" }, pairsOption] [{ name := "resource" }]
    fun given => do
      pure (.compare (← given.value? "resource") (← given.value? "with") (given.values "param"))]

/-- The other commands. -/
def otherRules : List (CommandRule Command) := [
  { path := ["resources"], places := [{ name := "service" }],
    meaning := fun given => some (.resources (given.value? "service")) },
  { path := ["profile"], options := [flag "default"],
    places := [{ name := "name" }, { name := "address" }],
    meaning := fun given => do
      pure (.profile (← given.value? "name") (← given.value? "address") (given.has "default")) },
  applianceRule ["facts"] [] [] fun _ => some .facts,
  applianceRule ["apply"] [] [pathPlace "file"] fun given => do
    pure (.apply (← given.value? "file")),
  applianceRule ["pending"] [] [] fun _ => some .pending,
  applianceRule ["deploy"] [flag "discard"] [] fun given => some (.deploy (given.has "discard"))]

/-- The grammar of the program. -/
def grammar : Grammar Command :=
  { options := commonOptions
    commands := resourceRules ++ otherRules ++ snapshotRules ++ junctionRules ++ certificateRules }

/-- The settings among what was given. -/
def settingsOf (given : Arguments) : Settings :=
  { profile := given.value? "profile"
    hostname := given.value? "hostname"
    port := (given.value? "port").bind port?
    username := given.value? "username"
    verifyTls := given.has "verify-tls"
    timeoutSeconds := (given.value? "timeout").bind seconds?
    options :=
      { checkMode := given.has "check"
        force := given.has "force"
        ignoreError := given.has "ignore-error" } }

end CommandLine

/-- Reads an invocation from the arguments of the program. -/
def Invocation.read (arguments : List String) : Except CommandLine.Ending Invocation :=
  (CommandLine.grammar.read arguments).map fun (command, given) =>
    ⟨CommandLine.settingsOf given, command⟩

end ApplianceConfig
