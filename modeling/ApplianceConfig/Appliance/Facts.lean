import ApplianceConfig.Appliance.Version
import ApplianceConfig.Json.Basic

/-!
# Facts about an appliance

What decides whether an appliance can serve a resource: the version of its
active firmware and the modules activated on it.  Both are read from answers of
the appliance, which mixes real booleans with words.  An unknown version meets
every requirement, so that the appliance itself gets to refuse the call.
-/

set_option autoImplicit false

namespace ApplianceConfig

/-- What is known about an appliance. -/
structure Facts where
  version : Option Version
  modules : List String
  deriving DecidableEq

namespace Facts

/-- Whether a text equals a word, ASCII letters of either case being the same. -/
def sameWord (text word : String) : Bool :=
  text.toList.map Char.toLower == word.toList.map Char.toLower

/-- Whether a value says yes: a true boolean, or the word `true` or `yes`. -/
def affirmative : Json → Bool
  | .bool value => value
  | .string text => sameWord text "true" || sameWord text "yes"
  | _ => false

/-- Whether a partition is marked as the active one. -/
def isActive (partition : Json) : Bool :=
  match partition.field? "active" with
  | some value => affirmative value
  | none => false

/-- The version of the active firmware partition, or of the first if none is marked. -/
def activeVersion? (firmware : Json) : Option Version :=
  match firmware with
  | .array partitions =>
    match (partitions.find? isActive).or partitions.head? with
    | some partition =>
      match partition.field? "firmware_version" with
      | some (.string text) => (Version.parse text).toOption
      | _ => none
    | none => none
  | _ => none

/-- The module that an item of the capabilities names, if it is activated: a bare name, or an
object whose `enabled` is missing or says yes. -/
def activatedModule? : Json → Option String
  | .string name => some name
  | .object fields =>
    if ((Json.lookup "enabled" fields).map affirmative).getD true then
      match Json.lookup "id" fields with
      | some (.string name) => some name
      | _ => none
    else none
  | _ => none

/-- The activated modules, listed by themselves or under `capabilities`. -/
def activatedModules (capabilities : Json) : List String :=
  match capabilities with
  | .array items => items.filterMap activatedModule?
  | .object fields =>
    match Json.lookup "capabilities" fields with
    | some (.array items) => items.filterMap activatedModule?
    | _ => []
  | _ => []

/-- The facts that two answers tell. -/
def ofAnswers (firmware capabilities : Json) : Facts :=
  ⟨activeVersion? firmware, activatedModules capabilities⟩

/-- Whether a module is activated. -/
def hasModule (facts : Facts) (name : String) : Bool := facts.modules.contains name

/-- Whether the firmware is at least a given version. -/
def meetsVersion (facts : Facts) (minimum : Version) : Bool :=
  match facts.version with
  | some version => version.atLeast minimum
  | none => true

/-- Facts as a document. -/
def toJson (facts : Facts) : Json :=
  .object [("version", (facts.version.map fun version => Json.string version.text).getD .null),
    ("activated_modules", .ofStrings facts.modules)]

/-- The text of a version that may be unknown. -/
def versionText (facts : Facts) : String := (facts.version.map Version.text).getD ""

/-- The warning for an appliance with too old a firmware. -/
def versionWarning (facts : Facts) (minimum : Version) : String :=
  "API invoked requires minimum version: " ++ minimum.text
    ++ ", appliance is of lower version: " ++ facts.versionText

/-- The warning for an appliance without a module. -/
def moduleWarning (name : String) : String :=
  "API invoked requires module: " ++ name ++ ", appliance does not have it activated"

/-- The first module of a list that is not activated. -/
def missingModule? (facts : Facts) (modules : List String) : Option String :=
  modules.find? fun name => !facts.hasModule name

/-- The warning for the requirement that facts do not meet, the version first, if there is one. -/
def unmet? (facts : Facts) (minimumVersion : Option String) (modules : List String) :
    Except Fault (Option String) :=
  match minimumVersion with
  | none => .ok ((facts.missingModule? modules).map moduleWarning)
  | some text =>
    match Version.parse text with
    | .error fault => .error fault
    | .ok minimum =>
      if facts.meetsVersion minimum then .ok ((facts.missingModule? modules).map moduleWarning)
      else .ok (some (facts.versionWarning minimum))

end Facts

end ApplianceConfig
