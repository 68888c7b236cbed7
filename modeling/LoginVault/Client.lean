import LoginVault.Failure
import LoginVault.Json.Decoding
import LoginVault.Json.Display

/-!
# Client — sending queries and reading answers

A client joins a configuration with the credentials to send. Every query ends in exactly one of
three ways: a result, a failure of the store, or a foreign fault, which is passed on as it came.
Nothing is asked twice.
-/

namespace LoginVault

/-- How the store is reached, and the value of the header that every request carries. -/
structure Client where
  config : Config
  authorization : String
  deriving DecidableEq

/-- The client that sends these credentials. -/
def Client.ofCredentials (config : Config) (credentials : Credentials) : Client :=
  ⟨config, credentials.header⟩

/-- A query as this client sends it. -/
def Client.request (c : Client) (query : Query) : Request :=
  ⟨c.config.baseUrl ++ loginsPath, c.authorization, query⟩

namespace Response

/-- Whether the status tells success. -/
def isSuccess (r : Response) : Bool := 200 ≤ r.status && r.status < 300

/-- The body as text. -/
def text (r : Response) : String :=
  String.ofList (LoginVault.Text.decodeUtf8Replacing r.body)

/-- What the store says about a failure: the member `message` of an object, or else the whole
body. -/
def failureText (r : Response) : String :=
  match Json.decode? r.body with
  | some (.object ms) => match ms.lookup "message" with
    | some v => v.display
    | none => r.text
  | _ => r.text

/-- The value in the body of a successful response. -/
def value (r : Response) : Except ProtocolFault Json :=
  if r.isSuccess then
    match Json.decode? r.body with
    | some v => .ok v
    | none => .error (.notJson r.status)
  else .error (.status r.status r.failureText)

end Response

/-- The object that a response should hold. -/
def Json.expectObject (expected : Expected) : Json → Except ProtocolFault Json.Members
  | .object ms => .ok ms
  | v => .error (.notAnObject expected v.kind)

/-- The page that a value is, or what is wrong with it. -/
def Json.pageOf (v : Json) : Except ProtocolFault LoginPage := do
  let ms ← v.expectObject .page
  if (ms.lookup FieldName.data.wire).isNone then .error .dataMissing
  else (LoginPage.decode (.object ms)).mapError (.malformed .page)

/-- The created login that a value is, or what is wrong with it. -/
def Json.createdOf (v : Json) : Except ProtocolFault Login := do
  let ms ← v.expectObject .created
  (Login.decode (.object ms)).mapError (.malformed .created)

/-- The page in a response. -/
def Response.page (r : Response) : Except ProtocolFault LoginPage := r.value.bind Json.pageOf

/-- The created login in a response. -/
def Response.created (r : Response) : Except ProtocolFault Login := r.value.bind Json.createdOf

/-- What an answer to `query` gives, when its response is read by `read`. -/
def Answer.result {α : Type} (query : Query) (read : Response → Except ProtocolFault α) :
    Answer → Except Failure α
  | .response r => (read r).mapError fun f => .store (.protocol f)
  | .fault (.foreign kind message) => .error (.foreign kind message)
  | .fault cause => .error (.store (.transport ⟨query, cause⟩))

end LoginVault
