import LoginVault.Session.Basic

/-!
# Session.Cache — one fetch at a time

Callers join the fetch in flight, if it has not ended, and else begin one. A fetch counts as in
flight until it has ended, so also while the followers are told of its snapshot.
-/

namespace LoginVault

namespace Cache

/-- Whether the fetch has not ended. -/
def isRunning (c : Cache) (fetch : Nat) : Bool :=
  match c.fetches[fetch]? with
  | some f => f.outcome?.isNone
  | none => false

/-- The fetch in flight that has not ended. -/
def running? (c : Cache) : Option Nat :=
  c.inflight.filter c.isRunning

/-- Whether a fetch is in flight that has not ended. -/
def isLoading (c : Cache) : Bool :=
  c.running?.isSome

/-- Adds a follower, unless it is one already. -/
def subscribe (c : Cache) (x : Subscriber) : Cache :=
  if c.subscribers.contains x then c else { c with subscribers := c.subscribers ++ [x] }

/-- Takes a follower away, if it is one. -/
def unsubscribe (c : Cache) (x : Subscriber) : Cache :=
  { c with subscribers := c.subscribers.erase x }

/-- Changes a fetch of the ledger. -/
def updateFetch (c : Cache) (fetch : Nat) (f : Fetch → Fetch) : Cache :=
  { c with fetches := c.fetches.modify fetch f }

/-- Puts a fetch into another stage. -/
def setStage (c : Cache) (fetch : Nat) (stage : FetchStage) : Cache :=
  c.updateFetch fetch ({ · with stage := stage })

/-- Lets a task wait for the end of a fetch. -/
def addWaiting (c : Cache) (fetch : Nat) (task : String) : Cache :=
  c.updateFetch fetch fun f => { f with waiting := f.waiting ++ [task] }

/-- Begins a fetch and takes it into flight. -/
def beginFetch (c : Cache) : Cache :=
  { c with inflight := some c.fetches.length, fetches := c.fetches ++ [⟨.begun, []⟩] }

/-- Lets go of a fetch, if it is still the one in flight. -/
def settle (c : Cache) (fetch : Nat) : Cache :=
  if c.inflight = some fetch then { c with inflight := none } else c

end Cache

namespace State

/-- Lets a task wait for the fetch in flight, which is begun if there is none. The fetch that
was begun is to be opened. -/
def awaitFetch (s : State) (task : String) (p : Purpose) : State × Option Nat :=
  match s.cache.running? with
  | some fetch =>
    ({ s with cache := s.cache.addWaiting fetch task }.setTask task (.waiting (.fetch fetch p)),
      none)
  | none =>
    let fetch := s.cache.fetches.length
    ({ s with cache := s.cache.beginFetch.addWaiting fetch task }.setTask task
      (.waiting (.fetch fetch p)), some fetch)

/-- Lets a task wait for a snapshot. A fresh one must come from a fetch that begins later than
now, so a fetch in flight is waited for first. -/
def revalidate (s : State) (task : String) (fresh : Bool) (p : Purpose) : State × Option Nat :=
  match fresh, s.cache.running? with
  | true, some fetch =>
    ({ s with cache := s.cache.addWaiting fetch task }.setTask task
      (.waiting (.superseded fetch p)), none)
  | _, _ => s.awaitFetch task p

/-- Passes the end of a fetch on to a task that waits for it; tells whether it does. -/
def relay (s : State) (fetch : Nat) (task : String) : State × Bool :=
  match s.tasks.lookup task with
  | some (.waiting (.fetch f p)) =>
    if f = fetch then (s.setTask task (.ready (.fetchEnded fetch p)), true) else (s, false)
  | some (.waiting (.superseded f p)) =>
    if f = fetch then (s.setTask task (.ready (.supersededEnded p)), true) else (s, false)
  | _ => (s, false)

end State

end LoginVault
