import ApplianceConfig.CommandLine.Run
import Std.Time.Zoned

/-!
# The program

The outer layer: it takes the arguments and variables, answers the effects of
the session that they start, writes both outputs and ends with the exit code.
It has no transport of its own, so every exchange with an appliance is answered
as one that did not get through, and its readers say no more than what they
expected.
-/

set_option autoImplicit false

namespace ApplianceConfig.Program

/-- The variables that the program looks at, as far as they are set. -/
def environment : IO Environment := do
  let names := [Environment.usernameVariable, Environment.passwordVariable,
    Environment.certificatePasswordVariable]
  let values ← names.mapM fun name => do pure ((← IO.getEnv name).map (name, ·))
  pure (values.filterMap id)

/-- The configuration directory of the user. -/
def configurationDirectory : IO String := do
  match ← IO.getEnv "XDG_CONFIG_HOME" with
  | some directory => if directory.startsWith "/" then pure directory else belowHome
  | none => belowHome
where
  /-- The usual place below the home directory. -/
  belowHome : IO String := do
    pure (((← IO.getEnv "HOME").map (· ++ "/.config")).getD "")

/-- The cause of a failed file access; the system's number tells apart what comes as one error. -/
def fileFault : IO.Error → FileFault
  | .noFileOrDirectory .. => .missing
  | .alreadyExists .. => .occupied
  | .inappropriateType _ code _ => if code = 21 then .isDirectory else .notDirectory
  | .invalidArgument _ code _ => if code = 36 then .nameTooLong else .invalidName
  | _ => .other

/-- A file access as a result. -/
def attempt {α : Type} (action : IO α) : IO (Except FileFault α) := do
  match ← action.toBaseIO with
  | .ok value => pure (.ok value)
  | .error fault => pure (.error (fileFault fault))

/-- The time on the clock. -/
def moment : IO Moment := do
  let now ← Std.Time.PlainDateTime.now
  pure {
    year := now.date.year.toInt.toNat
    month := now.date.month.val.toNat
    day := now.date.day.val.toNat
    hour := now.time.hour.val.toNat
    minute := now.time.minute.val.toNat
    second := now.time.second.val.toNat }

/-- The facts remembered about both appliances. -/
structure Memory where
  left : Option Facts := none
  right : Option Facts := none

/-- The words of the readers. -/
def wording : Wording where
  configuration _ := "expected a configuration"
  junction _ := "expected a junction"
  document _ := "expected a document"
  state _ := "expected a state document"
  address
    | .emptyHost => "empty host"
    | .malformedDomain => "invalid international domain name"
    | .malformedNumber => "invalid IPv4 address"
    | .malformedBrackets => "invalid IPv6 address"
    | .malformedPort => "invalid port number"

/-- Answers an effect. -/
def answer : (effect : Effect) → StateT Memory IO effect.Answer
  | .exchange _ _ => pure (.error "there is no transport")
  | .recallFacts .left => do pure (← get).left
  | .recallFacts .right => do pure (← get).right
  | .rememberFacts .left facts => modify fun memory => { memory with left := facts }
  | .rememberFacts .right facts => modify fun memory => { memory with right := facts }
  | .load path => attempt do pure (← IO.FS.readBinFile path).toList
  | .makeDirectories path => attempt (IO.FS.createDirAll path)
  | .store path content => attempt (IO.FS.writeBinFile path ⟨content.toArray⟩)
  | .clock => moment

/-- Runs the program. -/
def run (arguments : List String) : IO UInt32 := do
  let surroundings : Surroundings := ⟨← environment, wording, ← configurationDirectory⟩
  let (outcome, _) ← ((CommandLine.runArguments surroundings arguments).runM answer).run {}
  (← IO.getStdout).putStr outcome.output
  (← IO.getStderr).putStr outcome.diagnostics
  pure (UInt32.ofNat outcome.code)

end ApplianceConfig.Program

/-- The entry point. -/
def main (arguments : List String) : IO UInt32 := ApplianceConfig.Program.run arguments
