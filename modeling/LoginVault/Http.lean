import LoginVault.Login.Decoding

/-!
# Http — requests and answers

Two things are asked of the store: a page of its logins, and the creation of one. A request ends
in a response, or in a fault that tells how no response came about.
-/

namespace LoginVault

/-- The stage of a request at which time ran out. -/
inductive TimeoutStage where
  | connecting
  | reading
  | writing
  | waitingForPool
  deriving DecidableEq, Repr

/-- How a request failed on the way. -/
inductive NetworkFault where
  | connecting
  | reading
  | writing
  | closing
  | proxy
  | unsupportedProtocol
  | localProtocol
  | remoteProtocol
  | decoding
  | tooManyRedirects
  deriving DecidableEq, Repr

/-- Faults that are none of the request's own: they are bugs of the caller or of the host, and
nothing in the library handles them. -/
inductive ForeignFault where
  | invalidUrl
  | runtime
  | value
  | operatingSystem
  deriving DecidableEq, Repr

/-- How no response came about. -/
inductive RequestFault where
  | timedOut (stage : TimeoutStage) (message : String)
  | network (fault : NetworkFault) (message : String)
  | foreign (fault : ForeignFault) (message : String)
  deriving DecidableEq, Repr

/-- The response of the store: a status and the octets of a body. -/
structure Response where
  status : Nat
  body : List UInt8
  deriving DecidableEq, Repr

/-- How a request ended. -/
inductive Answer where
  | response (r : Response)
  | fault (f : RequestFault)
  deriving DecidableEq, Repr

/-- What is asked of the store. -/
inductive Query where
  | page (search : Option String) (limit offset : Nat)
  | create (record : NewLogin)
  deriving DecidableEq, Repr

/-- The method of a query. -/
def Query.method : Query → String
  | .page .. => "GET"
  | .create _ => "POST"

/-- The path under which the store keeps its logins. -/
def loginsPath : String := "/logins/"

/-- A query as it is sent. -/
structure Request where
  url : String
  authorization : String
  query : Query
  deriving DecidableEq, Repr

end LoginVault
