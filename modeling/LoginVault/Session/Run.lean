import LoginVault.Session.Task

/-!
# Session.Run — events from outside, and turns

An event from outside changes the state at once and puts turns at the end of the queue. Turns
are then taken from the front of the queue until none is left. That this ends is seen from a
measure (`weight`): turns that read a page are only put there from outside, and every other turn
puts turns of a smaller rank there than its own.
-/

namespace LoginVault

/-- What comes from outside: a task is started or cancelled, a request is answered, a callback
begins or ends to follow the cache, a view is made, unmounted or operated. -/
inductive Event where
  | spawn (task : String) (c : Call)
  | cancel (task : String)
  | respond (index : Nat) (a : Answer)
  | subscribe (callback : String) (actions : List Action)
  | unsubscribe (callback : String) (actions : List Action)
  | newView (view : String) (observer : Observer)
  | unmount (view : String)
  | setFilter (view : String) (filter : String)
  | setOrder (view : String) (order : Option String)
  | openForm (view : String)
  | closeForm (view : String)

/-- What an event does: the state after it, the turns to come, and why it failed, if it did. -/
structure Effect where
  state : State
  turns : List Turn
  failure : Option Failure

namespace State

/-- Whether a pending request is the one of this owner. -/
def ownedBy (o : Owner) (r : Owner × Query) : Bool := r.1 = o

/-- Cancels a task. If its turn is coming, it finds that it was cancelled; if it waits, it gets a
turn, and its own request is withdrawn. A fetch that it waits for goes on. -/
def cancel (s : State) (task : String) : State × List Turn :=
  match s.tasks.lookup task with
  | some (.ready _) => (s.setTask task (.ready .cancelled), [])
  | some (.waiting _) =>
    ({ s with pending := s.pending.filter (!ownedBy (.task task) ·) }.setTask task
      (.ready .cancelled), [.task task])
  | _ => (s, [])

/-- Answers the request at this place among those pending. -/
def respond (s : State) (index : Nat) (a : Answer) : State × List Turn :=
  match s.pending[index]? with
  | none => (s, [])
  | some (owner, _) =>
    let s := { s with pending := s.pending.eraseIdx index }
    match owner with
    | .task name => match s.tasks.lookup name with
      | some (.waiting (.answer e)) => (s.setTask name (.ready (.answered e a)), [.task name])
      | _ => (s, [])
    | .fetch fetch => match s.cache.fetches[fetch]?.map Fetch.stage with
      | some (.asking p) =>
        ({ s with cache := s.cache.setStage fetch (.answered p a) }, [.page fetch])
      | _ => (s, [])

/-- The effect of an event. -/
def apply (s : State) (e : Event) : Effect :=
  let quiet (s : State) : Effect := ⟨s, [], none⟩
  let turning (r : State × List Turn) : Effect := ⟨r.1, r.2, none⟩
  let redrawing (r : State × Option Failure) : Effect := ⟨r.1, [], r.2⟩
  match e with
  | .spawn task c =>
    let (s, started) := s.spawn task c
    ⟨s, if started then [.task task] else [], none⟩
  | .cancel task => turning (s.cancel task)
  | .respond index a => turning (s.respond index a)
  | .subscribe callback actions => quiet (s.subscribe callback actions)
  | .unsubscribe callback actions => quiet (s.unsubscribe callback actions)
  | .newView view observer => quiet { s with views := s.views.putNew view (.fresh observer) }
  | .unmount view => quiet (s.unmount view)
  | .setFilter view filter =>
    redrawing (s.change view fun v => { v with table := v.table.setFilter filter })
  | .setOrder view order =>
    match (order.map SortOrder.ofName) with
    | none => redrawing (s.change view fun v => { v with table := v.table.setOrder none })
    | some (.ok o) => redrawing (s.change view fun v => { v with table := v.table.setOrder (some o) })
    | some (.error f) => ⟨s, [], some f⟩
  | .openForm view => redrawing (s.changeForm view fun _ => .opened)
  | .closeForm view => redrawing (s.changeForm view fun _ => .closed)

/-- Takes one turn; the turns that it makes come after all others. -/
def take (s : State) : Turn → State × List Turn
  | .task name =>
    let (s, opened) := s.resume name
    (s, (opened.map Turn.open).toList)
  | .open fetch => (s.openFetch fetch, [])
  | .page fetch =>
    -- the tasks that followers started come before the end of the fetch is noticed
    let (s, started, ended) := s.readFetch fetch
    let relays := match ended with
      | some waiting => .settle fetch :: waiting.map (.relay fetch)
      | none => []
    (s, started.map .task ++ relays)
  | .settle fetch => ({ s with cache := s.cache.settle fetch }, [])
  | .relay fetch task =>
    let (s, woken) := s.relay fetch task
    (s, if woken then [.task task] else [])

end State

/-! ## Sessions -/

/-- A state and the turns to come. -/
structure Session where
  state : State
  queue : List Turn

namespace Turn

/-- Whether the turn reads a page for a fetch. -/
def readsPage : Turn → Bool
  | .page _ => true
  | _ => false

/-- A turn that reads no page makes turns of smaller ranks, at most one, or none. -/
def rank : Turn → Nat
  | .relay .. => 3
  | .task _ => 2
  | _ => 1

end Turn

/-- The sum of the ranks of these turns. -/
def totalRank : List Turn → Nat
  | [] => 0
  | t :: rest => t.rank + totalRank rest

@[simp] theorem totalRank_append (first rest : List Turn) :
    totalRank (first ++ rest) = totalRank first + totalRank rest := by
  induction first with
  | nil => simp [totalRank]
  | cons t first ih => simp [totalRank, ih, Nat.add_assoc]

/-- The measure of a queue: how many turns read a page, then the sum of the ranks. -/
def weight (queue : List Turn) : Nat × Nat :=
  (queue.countP Turn.readsPage, totalRank queue)

/-- A turn that reads no page makes no turn that reads one, and none that weighs as much. -/
theorem State.take_lighter (s : State) (t : Turn) (h : t.readsPage = false) :
    (s.take t).2.countP Turn.readsPage = 0 ∧ totalRank (s.take t).2 < t.rank := by
  cases t with
  | page fetch => cases h
  | task name =>
    simp only [State.take]
    cases (s.resume name).2 <;> simp [Turn.readsPage, Turn.rank, totalRank]
  | relay fetch task =>
    simp only [State.take]
    split <;> simp [Turn.readsPage, Turn.rank, totalRank]
  | _ => simp [State.take, Turn.rank, totalRank]

/-- The turns that reading a page makes read no page themselves. -/
theorem State.take_page (s : State) (fetch : Nat) :
    (s.take (.page fetch)).2.countP Turn.readsPage = 0 := by
  simp only [State.take, List.countP_eq_zero, List.mem_append, List.mem_map]
  rintro t (⟨_, _, rfl⟩ | ht)
  · simp [Turn.readsPage]
  · split at ht
    · simp only [List.mem_cons, List.mem_map] at ht
      rcases ht with rfl | ⟨_, _, rfl⟩ <;> simp [Turn.readsPage]
    · cases ht

namespace Session

/-- Every turn makes the queue lighter. -/
theorem weight_take (s : State) (t : Turn) (rest : List Turn) :
    Prod.Lex (· < ·) (· < ·) (weight (rest ++ (s.take t).2)) (weight (t :: rest)) := by
  by_cases h : t.readsPage
  · obtain ⟨fetch, rfl⟩ : ∃ fetch, t = .page fetch := by cases t <;> simp_all [Turn.readsPage]
    apply Prod.Lex.left
    simp [List.countP_append, List.countP_cons, s.take_page fetch, Turn.readsPage]
  · obtain ⟨h₁, h₂⟩ := s.take_lighter t (by simpa using h)
    simp only [weight, List.countP_append, totalRank_append, h₁, List.countP_cons, h, totalRank]
    exact Prod.Lex.right _ (by omega)

/-- A session in which nothing has happened. -/
def start (client : Client) : Session := ⟨.start client, []⟩

/-- Takes the first turn; `none` if there is none. -/
def tick (s : Session) : Option Session :=
  match s.queue with
  | [] => none
  | t :: rest =>
    let (state, turns) := s.state.take t
    some ⟨state, rest ++ turns⟩

/-- Takes turns until none is left. After each, `observe` sees the state before and after it. -/
def settleWith {α : Type} (observe : α → State → State → α) (a : α) (state : State)
    (queue : List Turn) : α × State :=
  match queue with
  | [] => (a, state)
  | t :: rest =>
    let r := state.take t
    settleWith observe (observe a state r.1) r.1 (rest ++ r.2)
termination_by weight queue
decreasing_by exact weight_take state t rest

/-- Takes turns until none is left. -/
def settle (s : Session) : Session :=
  ⟨(settleWith (fun _ _ _ => ()) () s.state s.queue).2, []⟩

/-- Applies an event; its turns come after all others. -/
def apply (s : Session) (e : Event) : Session × Option Failure :=
  let r := s.state.apply e
  (⟨r.state, s.queue ++ r.turns⟩, r.failure)

/-- Applies events up to the first that fails, with no turn between them. -/
def applyAll (s : Session) : List Event → Session × Option Failure
  | [] => (s, none)
  | e :: rest =>
    match s.apply e with
    | (s, none) => s.applyAll rest
    | (s, some f) => (s, some f)

/-- Applies events and then takes all turns. -/
def step (s : Session) (events : List Event) : Session × Option Failure :=
  let (s, failure) := s.applyAll events
  (s.settle, failure)

end Session

end LoginVault
