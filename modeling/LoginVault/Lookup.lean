import LoginVault.LookupKey
import LoginVault.Script

/-!
# Lookup — the logins for the page in the active tab

A lookup flow runs once: it reads the address of the active tab, reduces it to a key, asks the
store for the logins that match the key, and hands the result to a renderer. A failure of the
store becomes a result that tells of it; a foreign fault leaves the flow where it was. An empty
key asks for nothing, since the store would take it as a search for everything.
-/

namespace LoginVault

/-- Where a flow stands. -/
inductive LookupState where
  | idle
  | readingTab
  | normalizing
  | querying
  | rendered
  | failed
  deriving DecidableEq, Repr

/-- The name of a state. -/
def LookupState.name : LookupState → String
  | .idle => "idle"
  | .readingTab => "reading_tab"
  | .normalizing => "normalizing"
  | .querying => "querying"
  | .rendered => "rendered"
  | .failed => "failed"

/-- How a lookup turned out. -/
inductive LookupOutcome where
  | found
  | noMatch
  | noActiveTab
  | failure
  deriving DecidableEq, Repr

/-- The name of an outcome. -/
def LookupOutcome.name : LookupOutcome → String
  | .found => "matches"
  | .noMatch => "no_match"
  | .noActiveTab => "no_active_tab"
  | .failure => "error"

/-- What is rendered at the end of a flow. -/
structure LookupResult where
  state : LookupState
  key : String
  logins : List Login
  error : Option StoreError
  deriving DecidableEq, Repr

namespace LookupResult

/-- The result of a successful query. -/
def ofLogins (key : String) (logins : List Login) : LookupResult :=
  ⟨.rendered, key, logins, none⟩

/-- The result of a failure; the key is empty if none was reached. -/
def ofError (key : String) (error : StoreError) : LookupResult :=
  ⟨.failed, key, [], some error⟩

/-- The outcome of a result. -/
def outcome (r : LookupResult) : LookupOutcome :=
  match r.error with
  | some e => if e.errorClass = .noActiveTab then .noActiveTab else .failure
  | none => if r.logins.isEmpty then .noMatch else .found

/-- The name of a result, that of its outcome. -/
def name (r : LookupResult) : String := r.outcome.name

/-- The result of the query for a key. Foreign faults are passed on. -/
def ofQuery (key : String) : Except Failure (List Login) → Except Failure LookupResult
  | .ok logins => .ok (.ofLogins key logins)
  | .error (.store e) => .ok (.ofError key e)
  | .error f => .error f

end LookupResult

/-- The address of the active tab, if there is one; an empty address is none. -/
def activeAddress (address : Option String) : Except Failure String :=
  match address.filter (!·.isEmpty) with
  | some a => .ok a
  | none => .error (.store .noActiveTab)

/-- What the host answers when it is asked for the active tab. -/
inductive Tab where
  | address (a : Option String)
  | fails (f : Failure)

/-- What the host answers, as the address to look up. -/
def Tab.read : Tab → Except Failure String
  | .address a => activeAddress a
  | .fails f => .error f

/-- The renderers: none at all, one that takes the result, and one that takes it and fails. -/
inductive Renderer where
  | absent
  | takes
  | fails
  deriving DecidableEq, Repr

/-- What happens outside a flow while it runs. -/
inductive LookupEvent where
  | tabRead
  | asked (request : Request)
  | rendered (result : LookupResult)
  deriving DecidableEq, Repr

/-- A finished run: how it ended, the states that the flow entered, in order, where it stands
now, and what happened in which state. -/
structure LookupRun where
  ended : Except Failure LookupResult
  entered : List LookupState
  state : LookupState
  events : List (LookupEvent × LookupState)
  script : Script

namespace LookupRun

/-- The end of a run that has a result: the flow enters the state of the result, and then the
renderer is called. -/
def render (renderer : Renderer) (entered : List LookupState)
    (events : List (LookupEvent × LookupState)) (script : Script) (r : LookupResult) : LookupRun :=
  let call := (LookupEvent.rendered r, r.state)
  let run (ended : Except Failure LookupResult) (calls : List (LookupEvent × LookupState)) :=
    LookupRun.mk ended (entered ++ [r.state]) r.state (events ++ calls) script
  match renderer with
  | .absent => run (.ok r) []
  | .takes => run (.ok r) [call]
  | .fails => run (.error .rendering) [call]

/-- The end of a run whose query for `key` ended. -/
def conclude (renderer : Renderer) (entered : List LookupState) (state : LookupState)
    (events : List (LookupEvent × LookupState)) (script : Script)
    (result : Except Failure LookupResult) : LookupRun :=
  match result with
  | .ok r => render renderer entered events script r
  | .error f => ⟨.error f, entered, state, events, script⟩

end LookupRun

/-- Runs a flow that stands in `state`. Only an idle flow can run. -/
def lookUp (c : Client) (tab : Tab) (renderer : Renderer) (state : LookupState) (s : Script) :
    LookupRun :=
  if state ≠ .idle then ⟨.error .secondRun, [], state, [], s⟩
  else
    let read := [(LookupEvent.tabRead, LookupState.readingTab)]
    match tab.read with
    | .error f =>
      .conclude renderer [.readingTab] .readingTab read s
        (LookupResult.ofQuery "" (.error f))
    | .ok address =>
      let key := LookupKey.ofAddress address
      let (matched, s') := if key.isEmpty then (.ok [], s) else s.list c (some key)
      let asked := (s'.sent.drop s.sent.length).map fun r =>
        (LookupEvent.asked r, LookupState.querying)
      .conclude renderer [.readingTab, .normalizing, .querying] .querying (read ++ asked) s'
        (LookupResult.ofQuery key matched)

end LoginVault
