import LoginVault.Base64
import LoginVault.Environment
import LoginVault.Json.Basic
import LoginVault.Text.Quoted

/-!
# Credentials — who asks

Every request carries a name and a password. Each of the two comes from a credential store, if
there is one that knows it, and else from the environment. A store that answers with something
other than a text is at fault, whatever the environment holds.
-/

namespace LoginVault

/-- A name and a password. -/
structure Credentials where
  username : String
  password : String
  deriving DecidableEq, Repr

namespace Credentials

/-- The octets of a text in UTF-8. -/
def octets (s : String) : List UInt8 :=
  s.toList.flatMap String.utf8EncodeChar

/-- The value of the header that carries the credentials. -/
def header (c : Credentials) : String :=
  "Basic " ++ String.ofList (Base64.encode (octets (c.username ++ ":" ++ c.password)))

/-- How the credentials are shown, without the password. -/
def describe (c : Credentials) : String :=
  s!"BasicAuthCredentials(username={Text.quoted c.username})"

end Credentials

/-- A credential store: the values it holds under its names. -/
abbrev CredentialStore := Json.Members

/-- The two parts of the credentials. -/
inductive CredentialPart where
  | username
  | password
  deriving DecidableEq, Repr

/-- The name of a part in a credential store. -/
def CredentialPart.storeName : CredentialPart → String
  | .username => "gpass_username"
  | .password => "gpass_password"

/-- The variable of the environment that gives a part. -/
def CredentialPart.variableName : CredentialPart → String
  | .username => "GPASS_USERNAME"
  | .password => "GPASS_PASSWORD"

/-- Why credentials are not resolved. -/
inductive CredentialFault where
  | missing (parts : List CredentialPart)
  | notAText (part : CredentialPart) (kind : Kind)
  deriving DecidableEq, Repr

/-- The text of a fault. -/
def CredentialFault.message : CredentialFault → String
  | .missing parts =>
    let names := String.intercalate ", " (parts.map (·.variableName))
    s!"GPass credentials not configured: set {names} or configure them in the credential store"
  | .notAText part kind =>
    s!"Expected string from credentials.get('{part.storeName}'), got {kind.name}"

namespace Credentials

/-- One part of the credentials, `none` if neither the store nor the environment gives it. -/
def resolvePart (store : Option CredentialStore) (env : Environment) (part : CredentialPart) :
    Except CredentialFault (Option String) :=
  match store.bind (List.lookup part.storeName) with
  | none | some .null => .ok (env.setting? part.variableName)
  | some (.text s) => .ok (if s.isEmpty then env.setting? part.variableName else some s)
  | some v => .error (.notAText part v.kind)

/-- The credentials that the store and the environment give. -/
def resolve (store : Option CredentialStore) (env : Environment) :
    Except CredentialFault Credentials := do
  let username ← resolvePart store env .username
  let password ← resolvePart store env .password
  match username, password with
  | some u, some p => .ok ⟨u, p⟩
  | none, some _ => .error (.missing [.username])
  | some _, none => .error (.missing [.password])
  | none, none => .error (.missing [.username, .password])

end Credentials

end LoginVault
