import LoginVault.Config
import LoginVault.Credentials
import LoginVault.Http

/-!
# Failure — what can go wrong

The failures of the store are those that the library expects: a front end reports them and goes
on. All other failures end whatever was running. Failures are kept as their causes, and
`message` gives the words.
-/

namespace LoginVault

/-- Why a request brought no response, and what was asked. -/
structure TransportFault where
  query : Query
  cause : RequestFault
  deriving DecidableEq, Repr

/-- The two things that a successful response can be expected to hold. -/
inductive Expected where
  | page
  | created
  deriving DecidableEq, Repr

/-- What is wrong with a response. -/
inductive ProtocolFault where
  | status (code : Nat) (text : String)
  | notJson (code : Nat)
  | notAnObject (expected : Expected) (kind : Kind)
  | dataMissing
  | malformed (expected : Expected) (why : Malformed)
  deriving DecidableEq, Repr

/-- The text of a fault in a response. -/
def ProtocolFault.message : ProtocolFault → String
  | .status code text => s!"HTTP {code}: {text}"
  | .notJson _ => "Response is not valid JSON"
  | .notAnObject .page kind => s!"Expected a login envelope, got {kind.name}"
  | .notAnObject .created kind => s!"Expected a login object, got {kind.name}"
  | .dataMissing => "Login envelope is missing 'Data'"
  | .malformed .page why => s!"Malformed login envelope: {why.message}"
  | .malformed .created why => s!"Malformed login in create response: {why.message}"

/-- The status of the response, where the fault is one of the response as a whole. -/
def ProtocolFault.statusCode? : ProtocolFault → Option Nat
  | .status code _ => some code
  | .notJson code => some code
  | _ => none

/-- The text of a fault on the way. -/
def TransportFault.message (t : TransportFault) : String :=
  match t.cause with
  | .timedOut .. => s!"Request timed out: {t.query.method} {loginsPath}"
  | .network _ message | .foreign _ message => s!"Network error: {message}"

/-- The classes of failures of the store. -/
inductive StoreErrorClass where
  | general
  | config
  | credentials
  | transport
  | protocol
  | noActiveTab
  deriving DecidableEq, Repr

/-- The failures of the store. A host that reports the address of the active tab may fail with
one of any class, in its own words. -/
inductive StoreError where
  | config (fault : ConfigFault)
  | credentials (missing : List CredentialPart)
  | transport (fault : TransportFault)
  | protocol (fault : ProtocolFault)
  | noActiveTab
  | reported (ofClass : StoreErrorClass) (message : String)
  deriving DecidableEq, Repr

/-- The class of a failure. -/
def StoreError.errorClass : StoreError → StoreErrorClass
  | .config _ => .config
  | .credentials _ => .credentials
  | .transport _ => .transport
  | .protocol _ => .protocol
  | .noActiveTab => .noActiveTab
  | .reported c _ => c

/-- The text of a failure of the store. -/
def StoreError.message : StoreError → String
  | .config fault => fault.message
  | .credentials missing => (CredentialFault.missing missing).message
  | .transport fault => fault.message
  | .protocol fault => fault.message
  | .noActiveTab => "No active tab in the current window"
  | .reported _ message => message

/-- Whatever ends an operation without a result. -/
inductive Failure where
  | store (error : StoreError)
  | malformed (why : Malformed)
  | foreign (fault : ForeignFault) (message : String)
  | credentialNotAText (part : CredentialPart) (kind : Kind)
  | secondRun
  | rendering
  | redrawing
  | navigation
  | duplicateRow (key : String)
  | unknownOrder (name : String)
  deriving DecidableEq, Repr

/-- The text of a failure. -/
def Failure.message : Failure → String
  | .store error => error.message
  | .malformed why => why.message
  | .foreign _ message => message
  | .credentialNotAText part kind => (CredentialFault.notAText part kind).message
  | .secondRun => "ExtensionLookupFlow runs once; create a new flow per popup open"
  | .rendering => "render failed"
  | .redrawing => "redraw failed"
  | .navigation => "navigation"
  | .duplicateRow key => s!"The row key {Text.quoted key} already exists."
  | .unknownOrder name => s!"{Text.quoted name} is not a valid SortOrder"

/-- The failure of a configuration. -/
def ConfigFault.failure (f : ConfigFault) : Failure := .store (.config f)

/-- The failure of credentials: missing ones are a failure of the store. -/
def CredentialFault.failure : CredentialFault → Failure
  | .missing parts => .store (.credentials parts)
  | .notAText part kind => .credentialNotAText part kind

end LoginVault
