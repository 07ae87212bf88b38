/-!
# Paths

A path leads to a file or directory by parts between slashes, from the root if it
starts with a slash and from the working directory otherwise.  Repeated slashes
say nothing; a single dot stays where it is and two dots go up.
-/

set_option autoImplicit false

namespace ApplianceConfig.Path

/-- The parts of a path. -/
def parts (path : String) : List String :=
  ((path.toList.splitOn '/').map String.ofList).filter fun part => part != ""

/-- Whether a path starts at the root. -/
def isAbsolute (path : String) : Bool := path.startsWith "/"

/-- Whether a path can only be that of a directory, because of the slash at its end. -/
def endsInSlash (path : String) : Bool := path.endsWith "/"

/-- The parts of a path without those that stay. -/
def movingParts (path : String) : List String := (parts path).filter fun part => part != "."

/-- The directory that a path lies in; none if that is where the path starts.  Nothing is looked up,
so two dots count as a name here. -/
def directory? (path : String) : Option String :=
  let start := if isAbsolute path then "/" else ""
  let text := start ++ String.intercalate "/" (movingParts path).dropLast
  if text.isEmpty || (movingParts path).isEmpty then none else some text

/-- The last part of a path; none if that is no file name. -/
def fileName? (path : String) : Option String :=
  match (movingParts path).getLast? with
  | none => none
  | some name => if name == ".." then none else some name

end ApplianceConfig.Path
