import ApplianceConfig.Fault
import ApplianceConfig.Text.Percent

/-!
# Address templates

An address template holds placeholders `{name}`.  Each is replaced by the
percent-encoded value of that name; the name `id` is reserved for the identifier
of an object and takes its value from nowhere else.  A template is scanned from
left to right for an opening brace and the next closing one, and what was put in
is not scanned again.

`Template.segments` is the grammar of templates and `Template.fill` replaces the
placeholders of the segments one after the other, so the leftmost defect of a
template is the one that is told.
-/

set_option autoImplicit false

namespace ApplianceConfig

/-! ## Parameters -/

/-- Values by name, in the order of names. -/
structure Parameters where
  values : List (String × String)
  deriving DecidableEq

namespace Parameters

/-- No values. -/
def empty : Parameters := ⟨[]⟩

/-- A list of named values with one value set, keeping the order of names. -/
def insertValue (name value : String) : List (String × String) → List (String × String)
  | [] => [(name, value)]
  | (other, old) :: rest =>
    if name < other then (name, value) :: (other, old) :: rest
    else if name = other then (name, value) :: rest
    else (other, old) :: insertValue name value rest

/-- The values with one set. -/
def insert (parameters : Parameters) (name value : String) : Parameters :=
  ⟨insertValue name value parameters.values⟩

/-- The value of a name. -/
def get? (parameters : Parameters) (name : String) : Option String :=
  parameters.values.lookup name

/-- Values listed in any order; of several for one name the last one stays. -/
def ofList (values : List (String × String)) : Parameters :=
  values.foldl (fun parameters value => parameters.insert value.1 value.2) empty

/-- A text split at its first equals sign. -/
def splitPair? : List Char → Option (List Char × List Char)
  | [] => none
  | c :: rest =>
    if c = '=' then some ([], rest)
    else (splitPair? rest).map fun (name, value) => (c :: name, value)

/-- Reads arguments of the form `name=value`, without the blanks around names and values. -/
def ofPairs : Parameters → List String → Except Fault Parameters
  | parameters, [] => .ok parameters
  | parameters, pair :: rest =>
    match splitPair? pair.toList with
    | none => .error (.of (.notAPair pair))
    | some (name, value) =>
      ofPairs (parameters.insert (String.ofList (Text.trimChars name))
        (String.ofList (Text.trimChars value))) rest

/-- Reads arguments of the form `name=value`. -/
def parse (pairs : List String) : Except Fault Parameters := ofPairs empty pairs

end Parameters

/-! ## Templates -/

namespace Template

/-- A part of a template. -/
inductive Segment where
  | literal (c : Char)
  | placeholder (name : List Char)
  | unterminated
  deriving DecidableEq

/-- The segments of a template; inside a placeholder the name read so far is held in reverse. -/
def scan : Option (List Char) → List Char → List Segment
  | none, [] => []
  | some _, [] => [.unterminated]
  | none, c :: rest => if c = '\x7b' then scan (some []) rest else .literal c :: scan none rest
  | some name, c :: rest =>
    if c = '\x7d' then .placeholder name.reverse :: scan none rest
    else scan (some (c :: name)) rest

/-- The segments of a template. -/
def segments (template : String) : List Segment := scan none template.toList

/-- The value of a placeholder. -/
def value? (parameters : Parameters) (id : Option String) (name : String) : Option String :=
  if name = "id" then id else parameters.get? name

/-- The text of segments with their placeholders replaced; faults quote the whole template. -/
def fill (template : String) (parameters : Parameters) (id : Option String) :
    List Segment → Except Fault (List Char)
  | [] => .ok []
  | .literal c :: rest => (fill template parameters id rest).map (c :: ·)
  | .placeholder name :: rest =>
    match value? parameters id (String.ofList name) with
    | none => .error (.of (.missingParameter (String.ofList name) template))
    | some value =>
      (fill template parameters id rest).map (Text.percentEncode value.toList ++ ·)
  | .unterminated :: _ => .error (.of (.unterminatedPlaceholder template))

/-- The text of a template with its placeholders replaced. -/
def expand (template : String) (parameters : Parameters) (id : Option String) :
    Except Fault String :=
  (fill template parameters id (segments template)).map String.ofList

end Template

end ApplianceConfig
