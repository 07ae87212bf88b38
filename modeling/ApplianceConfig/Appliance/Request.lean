import ApplianceConfig.Appliance.Status
import ApplianceConfig.Json.Basic

/-!
# Requests and replies

What is sent to an appliance and what comes back.  A request names the address
it goes to in two parts: the origin, which is the appliance, and the target on
it.  A reply has a status and a body; if the connection broke while the body was
read, what the transport says of it stands in its place.
-/

set_option autoImplicit false

namespace ApplianceConfig

/-- What a request does. -/
inductive Method where
  | get
  | post
  | put
  | delete
  deriving DecidableEq, Repr

/-- The word for a method. -/
def Method.text : Method → String
  | get => "GET"
  | post => "POST"
  | put => "PUT"
  | delete => "DELETE"

/-- The bytes of a file or of a body. -/
abbrev Bytes := List UInt8

/-- One part of a form: a field, or a file if it has a file name. -/
structure FormPart where
  name : String
  fileName : Option String
  content : Bytes
  deriving DecidableEq

/-- What a request carries. -/
inductive Content where
  | nothing
  | document (value : Json)
  | form (parts : List FormPart)

/-- A request to an appliance. -/
structure Request where
  origin : String
  method : Method
  target : String
  /-- The form of answer that is asked for. -/
  accept : String
  authorization : String
  content : Content

/-- A reply of an appliance. -/
structure Reply where
  status : Status
  body : Except String Bytes

/-- What comes of a request: a reply, or what the transport says if none arrives. -/
abbrev Delivery := Except String Reply

/-- The form of answer that every call but a download asks for. -/
def documentForm : String := "application/json"

/-- The form of answer that a download asks for. -/
def fileForm : String := "application/octet-stream"

end ApplianceConfig
