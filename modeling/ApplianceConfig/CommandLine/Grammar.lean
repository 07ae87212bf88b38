/-!
# Command lines

A command line names a command, which may take several words, and gives it
options and plain arguments.  A grammar says which commands there are and what
each takes; `Grammar.read` reads the arguments one by one and ends in a command
or in a reason why there is none.

**Options.**  An option is written `--name value` or `--name=value`, or by its
letter as `-l value`, `-lvalue` or `-l=value`.  The value of an option never
starts with a dash, unless it is a single dash or stands behind an equals sign.
Behind `--` every argument is a plain one.

**Levels.**  Every word of a command opens a level.  Options of the grammar are
understood at every level, and the innermost one counts; within one level an
option may be given once, unless it repeats.
-/

set_option autoImplicit false

namespace ApplianceConfig.CommandLine

/-! ## Grammars -/

/-- Why reading ends without a command. -/
inductive Ending where
  /-- The arguments do not follow the grammar. -/
  | misuse
  /-- Help is asked for. -/
  | help
  /-- The version is asked for. -/
  | version
  deriving DecidableEq, Repr

/-- An option. -/
structure OptionRule where
  name : String
  letter : Option Char := none
  takesValue : Bool := true
  repeats : Bool := false
  /-- The values that are understood. -/
  accepts : String → Bool := fun _ => true

/-- A plain argument; one that repeats takes all that follow. -/
structure PlaceRule where
  name : String
  repeats : Bool := false
  /-- The values that are understood. -/
  accepts : String → Bool := fun _ => true

/-- What was given, by name. -/
abbrev Level := List (String × String)

/-- What was given at every level, the innermost first. -/
structure Arguments where
  levels : List Level

namespace Arguments

/-- The value given for a name, at the innermost level that has one. -/
def value? (arguments : Arguments) (name : String) : Option String :=
  arguments.levels.findSome? fun level => level.lookup name

/-- All values given for a name, in order. -/
def values (arguments : Arguments) (name : String) : List String :=
  arguments.levels.flatMap fun level =>
    level.filterMap fun given => if given.1 = name then some given.2 else none

/-- Whether a name was given. -/
def has (arguments : Arguments) (name : String) : Bool := (arguments.value? name).isSome

end Arguments

/-- A command: the words that name it, what it takes, and what it means. -/
structure CommandRule (α : Type) where
  path : List String
  options : List OptionRule := []
  places : List PlaceRule := []
  /-- The meaning of what was given; nothing if something is missing. -/
  meaning : Arguments → Option α

/-- The commands, and the options that all of them take. -/
structure Grammar (α : Type) where
  options : List OptionRule
  commands : List (CommandRule α)

/-! ## Reading -/

/-- How far the arguments were read. -/
structure Reading where
  /-- The words of the command so far. -/
  path : List String := []
  /-- What was given at this level. -/
  here : Level := []
  /-- What was given at the levels around it, the innermost first. -/
  outer : List Level := []
  /-- The option whose value comes next. -/
  awaiting : Option OptionRule := none
  /-- Whether only plain arguments follow. -/
  plain : Bool := false
  /-- Whether help on a command is asked for. -/
  asking : Bool := false
  /-- The number of places that are filled. -/
  filled : Nat := 0

namespace Reading

/-- Takes a value for a name. -/
def give (reading : Reading) (name value : String) (repeats : Bool) (accepts : String → Bool) :
    Except Ending Reading :=
  if !accepts value then .error .misuse
  else if !repeats && (reading.here.lookup name).isSome then .error .misuse
  else .ok { reading with here := reading.here ++ [(name, value)] }

/-- Takes the value of an option. -/
def giveOption (reading : Reading) (rule : OptionRule) (value : String) : Except Ending Reading :=
  reading.give rule.name value rule.repeats rule.accepts

/-- Opens the level of a further word of the command. -/
def enter (reading : Reading) (word : String) : Reading :=
  { reading with
    path := reading.path ++ [word]
    here := []
    outer := reading.here :: reading.outer }

end Reading

namespace Grammar

variable {α : Type} (grammar : Grammar α)

/-- The command with the given words. -/
def command? (path : List String) : Option (CommandRule α) :=
  grammar.commands.find? fun command => command.path == path

/-- Whether words start the name of a command, or are all of it. -/
def leads (path : List String) : Bool :=
  grammar.commands.any fun command => path.isPrefixOf command.path

/-- Whether words start the name of a command and are not all of it. -/
def isOpen (path : List String) : Bool := grammar.leads path && (grammar.command? path).isNone

/-- The options understood behind the given words. -/
def optionsAt (path : List String) : List OptionRule :=
  ((grammar.command? path).map CommandRule.options).getD [] ++ grammar.options

/-- Whether an argument is written like an option. -/
def isDashed (argument : String) : Bool :=
  match argument.toList with
  | '-' :: _ :: _ => true
  | _ => false

/-- Reads an option by its name, with the value that is attached to it. -/
def readName (reading : Reading) (name : String) (attached : Option String) :
    Except Ending Reading :=
  if name = "help" && attached.isNone then .error .help
  else if name = "version" && attached.isNone && reading.path.isEmpty then .error .version
  else
    match (grammar.optionsAt reading.path).find? fun rule => rule.name == name with
    | none => .error .misuse
    | some rule =>
      match rule.takesValue, attached with
      | true, some value => reading.giveOption rule value
      | true, none => .ok { reading with awaiting := some rule }
      | false, some _ => .error .misuse
      | false, none => reading.giveOption rule ""

/-- Reads options by their letters; the first that takes a value takes all that follows. -/
def readLetters (reading : Reading) : List Char → Except Ending Reading
  | [] => .ok reading
  | letter :: rest =>
    if letter = 'h' then .error .help
    else if letter = 'V' && reading.path.isEmpty then .error .version
    else
      match (grammar.optionsAt reading.path).find? fun rule => rule.letter == some letter with
      | none => .error .misuse
      | some rule =>
        if rule.takesValue then
          match rest with
          | [] => .ok { reading with awaiting := some rule }
          | '=' :: value => reading.giveOption rule (String.ofList value)
          | value => reading.giveOption rule (String.ofList value)
        else
          match reading.giveOption rule "" with
          | .ok reading => readLetters reading rest
          | .error ending => .error ending

/-- Reads a plain argument into the next place. -/
def readPlace (reading : Reading) (argument : String) : Except Ending Reading :=
  match (grammar.command? reading.path).bind fun command => command.places[reading.filled]? with
  | none => .error .misuse
  | some rule =>
    (reading.give rule.name argument rule.repeats rule.accepts).map fun reading =>
      if rule.repeats then reading else { reading with filled := reading.filled + 1 }

/-- Reads one argument. -/
def step (reading : Reading) (argument : String) : Except Ending Reading :=
  match reading.awaiting with
  | some rule =>
    if isDashed argument then .error .misuse
    else { reading with awaiting := none }.giveOption rule argument
  | none =>
    if reading.plain then grammar.readPlace reading argument
    else if grammar.leads (reading.path ++ [argument]) then .ok (reading.enter argument)
    else if reading.asking then .error .misuse
    else if argument = "help" && grammar.isOpen reading.path then
      .ok { reading with asking := true }
    else
      match argument.toList with
      | ['-', '-'] => .ok { reading with plain := true }
      | '-' :: '-' :: option =>
        let name := option.takeWhile (· != '=')
        let attached := match option.dropWhile (· != '=') with
          | [] => none
          | _ :: value => some (String.ofList value)
        grammar.readName reading (String.ofList name) attached
      | '-' :: letter :: letters => grammar.readLetters reading (letter :: letters)
      | _ => grammar.readPlace reading argument

/-- What all arguments together mean. -/
def finish (reading : Reading) : Except Ending (α × Arguments) :=
  if reading.asking then .error .help
  else if reading.awaiting.isSome then .error .misuse
  else
    let arguments : Arguments := ⟨reading.here :: reading.outer⟩
    match (grammar.command? reading.path).bind fun command => command.meaning arguments with
    | some meaning => .ok (meaning, arguments)
    | none => .error .misuse

/-- Reads a command line: the command with all that was given. -/
def read (arguments : List String) : Except Ending (α × Arguments) := do
  grammar.finish (← arguments.foldlM (fun reading argument => grammar.step reading argument) {})

end Grammar

end ApplianceConfig.CommandLine
