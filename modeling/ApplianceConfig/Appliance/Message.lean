import ApplianceConfig.Appliance.Request
import ApplianceConfig.Fault
import ApplianceConfig.Json.Reader
import ApplianceConfig.Text.Utf8

/-!
# Bodies of replies

A successful reply carries JSON, nothing, or some other text: blanks count as
null, and a text that is not JSON becomes a string.  A failure reply may carry an
object with a `message`; it is shown without control characters, and a message
longer than 200 bytes is cut at a character boundary and marked with its length.
-/

set_option autoImplicit false

namespace ApplianceConfig.Message

/-- The value that the body of a successful reply stands for. -/
def value (body : Bytes) : Json :=
  let text := Text.decodeLossy body
  if text.toList.all Text.isBlank then .null
  else (Json.read? text).getD (.string text)

/-- The most bytes of a message that are shown. -/
def longest : Nat := 200

/-- The longest beginning of a text that takes at most the given number of bytes. -/
def takeBytes : Nat → List Char → List Char
  | _, [] => []
  | room, c :: rest =>
    if c.utf8Size ≤ room then c :: takeBytes (room - c.utf8Size) rest else []

/-- A message cut to the bytes that are shown. -/
def truncated (message : String) : String :=
  if longest < message.utf8ByteSize then
    String.ofList (takeBytes longest message.toList) ++ "... [truncated, "
      ++ toString message.utf8ByteSize ++ " bytes total]"
  else message

/-- A message as it is shown. -/
def clean (message : String) : String := Text.withoutControls (truncated message)

/-- The message in the body of a failure reply, empty if there is none. -/
def ofFailure (body : Bytes) : String :=
  match Json.read? (Text.decodeLossy body) with
  | some document =>
    match document.field? "message" with
    | some (.string message) => clean message
    | _ => ""
  | none => ""

end ApplianceConfig.Message
