import LoginVault.Form
import LoginVault.Lookup
import LoginVault.Table

/-!
# Session.Basic — the state of a session

A session has one client, one cache of the whole collection, any number of views and callbacks
that follow the cache, and named tasks. Tasks run by turns. A task that is not finished either
has a turn coming or waits: for the answer to a request of its own, or for the end of a fetch of
the cache. The turns to come stand in one queue, which grows at its end only.

The journal tells all that could be seen from outside, in order, and only grows. The ledger of
fetches keeps every fetch of the cache that was begun, with its outcome.
-/

namespace LoginVault

/-! ## Followers of the cache -/

/-- What a view does when it has changed: nothing, be recorded, be recorded and fail, or fill a
grid that takes each row under the text of its identifier and refuses a text that it has. -/
inductive Observer where
  | absent
  | records
  | fails
  | grid
  deriving DecidableEq, Repr

/-- The first text that comes a second time. -/
def firstRepeated (known : List String) : List String → Option String
  | [] => none
  | k :: rest => if known.contains k then some k else firstRepeated (known ++ [k]) rest

/-- Why the observer fails on these rows, if it does. -/
def Observer.fault? (o : Observer) (rows : List Login) : Option Failure :=
  match o with
  | .absent | .records => none
  | .fails => some .redrawing
  | .grid => (firstRepeated [] (rows.map (·.id.text))).map .duplicateRow

/-- A table and a form over the cache, and the last failure of a revalidation. -/
structure View where
  table : Table
  form : Form
  lastError : Option StoreError
  mounted : Bool
  observer : Observer
  deriving DecidableEq, Repr

/-- A view that has just been made. -/
def View.fresh (observer : Observer) : View := ⟨.empty, .closed, none, false, observer⟩

/-- What follows the cache: a callback or the table of a view. -/
inductive Subscriber where
  | callback (name : String)
  | view (name : String)
  deriving DecidableEq, Repr

/-- What a callback does when it is called. Failing ends its actions. -/
inductive Action where
  | fail
  | subscribe (callback : String)
  | unsubscribe (callback : String)
  | revalidate (task : String) (fresh : Bool)
  deriving DecidableEq, Repr

/-! ## Fetches -/

/-- Where a fetch of the cache stands. -/
inductive FetchStage where
  | begun
  | asking (p : Paging)
  | answered (p : Paging) (a : Answer)
  | finished (outcome : Except Failure (List Login))

/-- A fetch of the cache and the tasks that wait for its end, in the order in which they began
to wait. -/
structure Fetch where
  stage : FetchStage
  waiting : List String

/-- The outcome of a fetch that has ended. -/
def Fetch.outcome? (f : Fetch) : Option (Except Failure (List Login)) :=
  match f.stage with
  | .finished outcome => some outcome
  | _ => none

/-- The cache: the snapshot last read, the fetch that callers join, the followers, and the
ledger of all fetches, each known by its place. -/
structure Cache where
  snapshot : List Login
  inflight : Option Nat
  subscribers : List Subscriber
  fetches : List Fetch

/-! ## Tasks -/

/-- What a task is started for. A record that is malformed fails the task as soon as it runs. -/
inductive Call where
  | revalidate (fresh : Bool)
  | list (search : Option String)
  | create (record : Except Malformed NewLogin)
  | lookup (address : Option String)
  | mount (view : String)
  | refresh (view : String)
  | submit (view : String) (record : Except Malformed NewLogin)
  | visit (view : String) (fails : Bool)

/-- What a task wants of the fetch it waits for: its outcome, the first rows of a view that is
being mounted (for the duration of a visit, or for good), or the rows after a login was
created. -/
inductive Purpose where
  | outcome
  | mounting (view : String)
  | visiting (view : String) (fails : Bool)
  | saved (view : String) (login : Login)
  deriving DecidableEq, Repr

/-- What a task asks of the store on its own: a list, a lookup for a key, or a creation, for
itself or from the form of a view. -/
inductive Errand where
  | list (p : Paging)
  | lookup (key : String) (p : Paging)
  | create (record : NewLogin)
  | submit (view : String) (record : NewLogin)
  deriving DecidableEq, Repr

/-- The query of an errand. -/
def Errand.query (pageSize : Nat) : Errand → Query
  | .list p => p.query pageSize
  | .lookup _ p => p.query pageSize
  | .create record => .create record
  | .submit _ record => .create record

/-- What a task waits for. A caller that needs a fresh snapshot first lets the fetch end that
was in flight when it came. -/
inductive Wait where
  | answer (e : Errand)
  | superseded (fetch : Nat) (p : Purpose)
  | fetch (fetch : Nat) (p : Purpose)
  deriving DecidableEq, Repr

/-- What a task finds when its turn comes. -/
inductive Resumption where
  | begin (c : Call)
  | answered (e : Errand) (a : Answer)
  | supersededEnded (p : Purpose)
  | fetchEnded (fetch : Nat) (p : Purpose)
  | cancelled

/-- The value of a task that ended well. -/
inductive Value where
  | nothing
  | login (l : Login)
  | logins (ls : List Login)
  | lookup (r : LookupResult)
  | rowIds (ids : List LoginId)
  deriving DecidableEq, Repr

/-- How a task ended. -/
inductive Outcome where
  | returned (v : Value)
  | raised (f : Failure)
  | cancelled
  deriving DecidableEq, Repr

/-- A task: it has a turn coming, waits, or is finished. -/
inductive Task where
  | ready (r : Resumption)
  | waiting (w : Wait)
  | finished (o : Outcome)

/-! ## Requests and journal -/

/-- Who sent a request. -/
inductive Owner where
  | task (name : String)
  | fetch (fetch : Nat)
  deriving DecidableEq, Repr

/-- What an observer sees of a view and of the cache when it is called. -/
structure Seen where
  rows : List Login
  filter : String
  order : Option SortOrder
  total : Nat
  loading : Bool
  form : Form
  lastError : Option StoreError
  deriving DecidableEq, Repr

/-- What can be seen of a session from outside. -/
inductive Entry where
  | sent (q : Query)
  | notified (callback : String) (snapshot : List Login)
  | redrawn (view : String) (seen : Seen)
  | finished (task : String) (o : Outcome)
  deriving DecidableEq, Repr

/-- All of a session but the turns to come. The unanswered requests stand oldest first. -/
structure State where
  client : Client
  cache : Cache
  views : Named View
  callbacks : Named (List Action)
  tasks : Named Task
  pending : List (Owner × Query)
  journal : List Entry

/-- The state of a session in which nothing has happened. -/
def State.start (client : Client) : State :=
  ⟨client, ⟨[], none, [], []⟩, [], [], [], [], []⟩

/-- A turn to come. A task goes on; a fetch asks for its first page, or reads a page; the cache
lets go of a fetch that has ended; the end of a fetch is passed on to a task. -/
inductive Turn where
  | task (name : String)
  | open (fetch : Nat)
  | page (fetch : Nat)
  | settle (fetch : Nat)
  | relay (fetch : Nat) (task : String)
  deriving DecidableEq, Repr

namespace State

/-- Writes into the journal. -/
def note (s : State) (e : Entry) : State :=
  { s with journal := s.journal ++ [e] }

/-- Sends a query. -/
def send (s : State) (o : Owner) (q : Query) : State :=
  { s with pending := s.pending ++ [(o, q)] }.note (.sent q)

/-- Puts a task into another state. -/
def setTask (s : State) (name : String) (t : Task) : State :=
  { s with tasks := s.tasks.put name t }

/-- Ends a task. -/
def finish (s : State) (name : String) (o : Outcome) : State :=
  (s.setTask name (.finished o)).note (.finished name o)

/-- Changes a view. -/
def updateView (s : State) (name : String) (f : View → View) : State :=
  { s with views := s.views.update name f }

end State

end LoginVault
