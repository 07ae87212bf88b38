import ApplianceConfig.Fault
import ApplianceConfig.Text.Base64
import ApplianceConfig.Text.Quoted

/-!
# Credentials

The management interface asks for a user name and a password.  What a profile or
the command line leaves open is taken from variables of the environment; without
a user name the account of a fresh appliance is used, and without a password
there are no credentials.  A password is never shown.
-/

set_option autoImplicit false

namespace ApplianceConfig

/-- The variables of the environment a program runs in. -/
abbrev Environment := List (String × String)

/-- The variables that credentials are taken from. -/
def Environment.usernameVariable : String := "ISAMCFG_USERNAME"

/-- The variable that holds the password of the management account. -/
def Environment.passwordVariable : String := "ISAMCFG_PASSWORD"

/-- The variable that holds the password of a certificate file. -/
def Environment.certificatePasswordVariable : String := "ISAMCFG_CERT_PASSWORD"

/-- A user name with its password. -/
structure Credentials where
  username : String
  password : String
  deriving DecidableEq

namespace Credentials

/-- The management account of a fresh appliance. -/
def defaultUsername : String := "admin@local"

/-- Whether a user name can be sent: neither empty nor longer than 256 bytes, without a colon and
without control characters. -/
def isValidUsername (username : String) : Bool :=
  !username.isEmpty && username.utf8ByteSize ≤ 256
    && username.toList.all fun c => c != ':' && !Text.isControl c

/-- The credentials for what is given, the rest taken from the environment. -/
def resolve (environment : Environment) (username password : Option String) :
    Except Fault Credentials :=
  let username := (username.or (environment.lookup Environment.usernameVariable)).getD
    defaultUsername
  if isValidUsername username then
    match password.or (environment.lookup Environment.passwordVariable) with
    | some password => .ok ⟨username, password⟩
    | none =>
      .error ((Fault.of .variableNotSet).within
        ("No password configured. Set " ++ Environment.passwordVariable))
  else .error (.of (.invalidUsername username))

/-- The header value that authorizes a request. -/
def authorization (credentials : Credentials) : String :=
  "Basic " ++ Text.base64 (credentials.username ++ ":" ++ credentials.password)

/-- Credentials for diagnostics, with the password masked. -/
def masked (credentials : Credentials) : String :=
  "Credentials \x7b username: " ++ Text.quoted credentials.username
    ++ ", password: " ++ Text.quoted "****" ++ " \x7d"

end Credentials

end ApplianceConfig
