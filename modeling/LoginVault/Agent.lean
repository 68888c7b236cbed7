import LoginVault.Form
import LoginVault.Lookup

/-!
# Agent — the store in the hands of an agent

An agent can look up the logins for the address of a page, list logins, and create one. Every
call connects anew, with the credentials and the configuration that the host has at that moment.
A failure of the store becomes a reply that tells of it; any other failure escapes. Passwords
are part of the reply to a lookup, and of a list if they were asked for; the reply to a creation
never holds one.
-/

namespace LoginVault

/-- What surrounds an agent: a credential store, if there is one, the environment, and a
configuration, if one is fixed beforehand. -/
structure Host where
  store : Option CredentialStore
  environment : Environment
  config : Option Config

/-- The client that the host gives. Credentials are looked for first, the configuration next. -/
def Host.connect (h : Host) : Except Failure Client := do
  let credentials ← (Credentials.resolve h.store h.environment).mapError (·.failure)
  let config ← match h.config with
    | some config => .ok config
    | none => (Config.ofEnvironment h.environment).mapError (·.failure)
  return .ofCredentials config credentials

/-- What an agent can ask for. -/
inductive AgentCall where
  | lookUp (url : String)
  | list (search : String) (reveal : Bool)
  | create (record : NewLogin)
  deriving DecidableEq, Repr

/-- A login as an agent sees it. -/
structure ShownLogin where
  id : LoginId
  url : String
  username : String
  password : Option String
  deriving DecidableEq, Repr

/-- A login with its password, or without it. -/
def Login.shown (reveal : Bool) (l : Login) : ShownLogin :=
  ⟨l.id, l.url, l.username, if reveal then some l.password else none⟩

/-- What an agent is told. -/
inductive AgentReply where
  | notConfigured (why : StoreError)
  | incomplete
  | lookupFailed (key : String) (error : StoreError)
  | failed (error : StoreError)
  | lookedUp (key : String) (found : Bool) (logins : List ShownLogin)
  | listed (logins : List ShownLogin)
  | created (login : ShownLogin)
  deriving DecidableEq, Repr

/-- A finished call: the reply, the client if the call connected, and the script that is left. A
client that was opened is closed by the end of the call. -/
structure AgentRun where
  reply : Except Failure AgentReply
  client : Option Client
  script : Script

namespace AgentReply

/-- The reply to a lookup. -/
def ofLookup (r : LookupResult) : AgentReply :=
  match r.error with
  | some e => .lookupFailed r.key e
  | none => .lookedUp r.key (r.outcome = .found) (r.logins.map (·.shown true))

/-- The reply that a result of the client makes. A failure of the store is a reply too. -/
def ofResult {α : Type} (reply : α → AgentReply) : Except Failure α → Except Failure AgentReply
  | .ok a => .ok (reply a)
  | .error (.store e) => .ok (.failed e)
  | .error f => .error f

end AgentReply

namespace AgentCall

/-- Whether the call can be refused without connecting. -/
def isIncomplete : AgentCall → Bool
  | .create r => r.problem?.isSome
  | _ => false

/-- Makes the call with a client. -/
def perform (c : Client) (s : Script) : AgentCall → Except Failure AgentReply × Script
  | .lookUp url =>
    let run := LoginVault.lookUp c (.address (some url)) .absent .idle s
    (run.ended.map .ofLookup, run.script)
  | .list search reveal =>
    let (result, s) := s.find c search
    (AgentReply.ofResult (fun logins => .listed (logins.map (·.shown reveal))) result, s)
  | .create record =>
    let (result, s) := s.create c record
    (AgentReply.ofResult (fun login => .created (login.shown false)) result, s)

/-- Makes the call on a host. -/
def run (h : Host) (s : Script) (call : AgentCall) : AgentRun :=
  -- a call that is refused does not even look for credentials
  if call.isIncomplete then ⟨.ok .incomplete, none, s⟩
  else match h.connect with
    | .error (.store why) => ⟨.ok (.notConfigured why), none, s⟩
    | .error f => ⟨.error f, none, s⟩
    | .ok c =>
      let (reply, s) := call.perform c s
      ⟨reply, some c, s⟩

end AgentCall

/-! ## Replies as objects -/

/-- An identifier as a value. -/
def LoginId.encode : LoginId → Json
  | .number n => .integer n
  | .name s => .text s

/-- A login as an object. A password that is not shown is no member. -/
def ShownLogin.encode (l : ShownLogin) : Json :=
  .object ([("id", l.id.encode), ("url", .text l.url), ("username", .text l.username)]
    ++ l.password.toList.map fun p => ("password", .text p))

/-- A reply as an object: either it tells of success, or it has a member `error`. -/
def AgentReply.encode : AgentReply → Json.Members
  | .notConfigured why =>
    [("error", .text "GPass credentials not configured"), ("detail", .text why.message),
      ("help", .text ("Set GPASS_USERNAME and GPASS_PASSWORD environment variables "
        ++ "or configure them via credential store"))]
  | .incomplete => [("error", .text "Both url and username are required")]
  | .lookupFailed key error => [("error", .text error.message), ("key", .text key)]
  | .failed error => [("error", .text error.message)]
  | .lookedUp key found logins =>
    [("success", .bool true), ("key", .text key), ("matched", .bool found),
      ("logins", .list (logins.map (·.encode)))]
  | .listed logins =>
    [("success", .bool true), ("count", .integer logins.length),
      ("logins", .list (logins.map (·.encode)))]
  | .created login => [("success", .bool true), ("login", login.encode)]

end LoginVault
