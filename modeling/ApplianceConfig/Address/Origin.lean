import ApplianceConfig.Address.Domain
import ApplianceConfig.Address.Number

/-!
# Origins of appliances

An appliance is named by a host and a port.  Both together are read as an
address behind `https://` and brought into one form: the host in lower case, the
port left out if it is the usual one.  What is named a host may hold more than
that, a path for instance, and then the port belongs to it; the form keeps it so.
-/

set_option autoImplicit false

namespace ApplianceConfig.Address

/-- Whether a character ends the host and port of an address. -/
def endsAuthority (c : Char) : Bool := c == '/' || c == '\\' || c == '?' || c == '#'

/-! ## Names and passwords -/

/-- A text split at its last at sign. -/
def splitUser (authority : List Char) : Option (List Char × List Char) :=
  match authority.reverse.dropWhile (· != '@') with
  | [] => none
  | _ :: user => some (user.reverse, (authority.reverse.takeWhile (· != '@')).reverse)

/-- The form of the name and password before a host. -/
def userText (user : List Char) : List Char :=
  let name := user.takeWhile (· != ':')
  let password := (user.dropWhile (· != ':')).drop 1
  let text := escape escapedInUser name
    ++ if password.isEmpty then [] else ':' :: escape escapedInUser password
  if text.isEmpty then [] else text ++ ['@']

/-! ## Hosts and ports -/

/-- The host at the start of a text, up to a colon outside of brackets, and what follows it. -/
def splitHost : Bool → List Char → List Char × List Char
  | _, [] => ([], [])
  | bracketed, c :: rest =>
    if c == ':' && !bracketed then ([], c :: rest)
    else
      let (host, rest) := splitHost (c == '[' || (bracketed && c != ']')) rest
      (c :: host, rest)

/-- The form of a host. -/
def host? (host : List Char) : Except AddressFault (List Char) :=
  match host with
  | [] => .error .emptyHost
  | '[' :: rest =>
    if rest.getLast? = some ']' then
      match eightUnits? rest.dropLast with
      | some units => .ok (bracketText units).toList
      | none => .error .malformedBrackets
    else .error .malformedBrackets
  | host =>
    match (Text.decode? (unescape host)).bind fun text => asciiDomain? text.toList with
    | none => .error .malformedDomain
    | some [] => .error .emptyHost
    | some domain =>
      if endsInNumber domain then
        match fourBytes? domain with
        | some text => .ok text.toList
        | none => .error .malformedNumber
      else .ok domain

/-- The form of a port with its colon; the usual one is left out. -/
def port? (text : List Char) : Except AddressFault (List Char) :=
  match text with
  | [] => .ok []
  | _ :: digits =>
    if !digits.all Numeral.isDigit then .error .malformedPort
    else
      let n := Numeral.natural digits
      if UInt16.size ≤ n then .error .malformedPort
      else if digits.isEmpty || n = 443 then .ok []
      else .ok (':' :: (toString n).toList)

/-! ## Paths -/

/-- Whether a part of a path stands for the directory itself. -/
def isHere (part : List Char) : Bool :=
  part == ['.'] || (String.ofList part).toLower == "%2e"

/-- Whether a part of a path stands for the directory above. -/
def isAbove (part : List Char) : Bool :=
  ["..", ".%2e", "%2e.", "%2e%2e"].contains (String.ofList part).toLower

/-- Whether a part of a path names a drive: a letter and a colon or bar. -/
def isDrive (part : List Char) : Bool :=
  match part with
  | [letter, mark] => letter.isAlpha && (mark == ':' || mark == '|')
  | _ => false

/-- The parts before the last one, given the last first; a drive is not left. -/
def leave (done : List (List Char)) : List (List Char) :=
  match done with
  | [] => []
  | part :: rest => if isDrive part then part :: rest else rest

/-- The parts of a path with dots resolved, the last first; a path that ends in dots ends in a
slash. -/
def resolve : List (List Char) → List (List Char) → List (List Char)
  | done, [] => done
  | done, [part] =>
    if isAbove part then [] :: leave done
    else if isHere part then [] :: done
    else part :: done
  | done, part :: rest =>
    if isAbove part then resolve (leave done) rest
    else if isHere part then resolve done rest
    else resolve (part :: done) rest

/-- The form of a path. -/
def pathText (path : List Char) : List Char :=
  let parts := (path.map fun c => if c == '\\' then '/' else c).splitOn '/'
  let parts := if parts.head? = some [] then parts.tail else parts
  '/' :: List.intercalate ['/'] ((resolve [] parts).reverse.map (escape escapedInPath))

/-- The form of what follows the host and port: path, query and fragment. -/
def tailText (text : List Char) : List Char :=
  let beforeFragment := text.takeWhile (· != '#')
  let fragment := text.dropWhile (· != '#')
  let path := beforeFragment.takeWhile (· != '?')
  let query := beforeFragment.dropWhile (· != '?')
  pathText path
    ++ (match query with
      | [] => []
      | mark :: query => mark :: escape escapedInQuery query)
    ++ match fragment with
      | [] => []
      | mark :: fragment => mark :: escape escapedInFragment fragment

/-! ## Origins -/

/-- The form of the address with a host and a port. -/
def form (hostname : String) (port : Nat) : Except AddressFault String := do
  let text := (hostname ++ ":" ++ toString port).toList.filter fun c =>
    !(c == '\t' || c == '\n' || c == '\r')
  let text := text.dropWhile fun c => c == '/' || c == '\\'
  let authority := text.takeWhile fun c => !endsAuthority c
  let rest := text.dropWhile fun c => !endsAuthority c
  let (user, authority) := match splitUser authority with
    | some (user, authority) => (userText user, authority)
    | none => ([], authority)
  let (host, portPart) := splitHost false authority
  let host ← host? host
  let portText ← port? portPart
  pure ("https://" ++ String.ofList (user ++ host ++ portText ++ tailText rest))

end ApplianceConfig.Address
