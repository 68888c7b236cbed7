import LoginVault.Session.Run

/-!
# Session.Schedule — sessions under every interleaving

A schedule is a list of inputs: at each point either something comes from outside, or the first
turn of the queue is taken. A session is reachable if some schedule leads to it from the start,
so a statement about all schedules is a statement about every interleaving of events and turns.
The steps of a session, in which a batch of events is followed by all turns, are schedules of a
special form (`step_eq_run`).
-/

namespace LoginVault

/-- What happens next in a session: an event from outside, or the first turn of the queue. -/
inductive Input where
  | event (e : Event)
  | turn

namespace Session

/-- The session after an input. A turn in an empty queue changes nothing. -/
def advance (s : Session) : Input → Session
  | .event e => (s.apply e).1
  | .turn => s.tick.getD s

/-- The session after a schedule. -/
def run (s : Session) (inputs : List Input) : Session := inputs.foldl advance s

/-- The session that a schedule leads to from the start. -/
def reached (client : Client) (inputs : List Input) : Session := (start client).run inputs

@[simp] theorem run_nil (s : Session) : s.run [] = s := rfl

@[simp] theorem run_cons (s : Session) (i : Input) (rest : List Input) :
    s.run (i :: rest) = (s.advance i).run rest := rfl

theorem run_append (s : Session) (first rest : List Input) :
    s.run (first ++ rest) = (s.run first).run rest :=
  List.foldl_append

theorem run_concat (s : Session) (inputs : List Input) (i : Input) :
    s.run (inputs ++ [i]) = (s.run inputs).advance i :=
  run_append s inputs [i]

/-- Going on from a reached session leads to a reached session. -/
theorem reached_append (client : Client) (first rest : List Input) :
    reached client (first ++ rest) = (reached client first).run rest :=
  run_append _ _ _

theorem reached_concat (client : Client) (inputs : List Input) (i : Input) :
    reached client (inputs ++ [i]) = (reached client inputs).advance i :=
  reached_append client inputs [i]

@[simp] theorem advance_turn_cons (s : State) (t : Turn) (rest : List Turn) :
    advance ⟨s, t :: rest⟩ .turn = ⟨(s.take t).1, rest ++ (s.take t).2⟩ := rfl

/-- What every input keeps, every schedule keeps. -/
theorem run_keeps {P : Session → Prop} (step : ∀ s i, P s → P (s.advance i)) {s : Session}
    (h : P s) (inputs : List Input) : P (s.run inputs) := by
  induction inputs generalizing s with
  | nil => exact h
  | cons i rest ih => exact ih (step s i h)

/-! ## Steps are schedules -/

/-- Events up to the first that fails are a schedule without turns. -/
theorem applyAll_eq_run (s : Session) (events : List Event) :
    ∃ inputs, (s.applyAll events).1 = s.run inputs := by
  induction events generalizing s with
  | nil => exact ⟨[], rfl⟩
  | cons e rest ih =>
    cases h : s.apply e with
    | mk next failure =>
      cases failure with
      | none =>
        rcases ih next with ⟨inputs, eq⟩
        exact ⟨.event e :: inputs, by simp [applyAll, advance, h, eq]⟩
      | some f => exact ⟨[.event e], by simp [applyAll, advance, h]⟩

/-- Taking all turns is a schedule of turns, and leaves none. -/
theorem settle_eq_run (state : State) (queue : List Turn) :
    ∃ n, settle ⟨state, queue⟩ = run ⟨state, queue⟩ (List.replicate n .turn) := by
  simp only [settle]
  fun_induction settleWith (fun _ _ _ => ()) () state queue with
  | case1 a state => exact ⟨0, rfl⟩
  | case2 a state t rest r ih =>
    rcases ih with ⟨n, eq⟩
    exact ⟨n + 1, by rw [eq, List.replicate_succ, run_cons, advance_turn_cons]⟩

/-- Every step of a session is a schedule. -/
theorem step_eq_run (s : Session) (events : List Event) :
    ∃ inputs, (s.step events).1 = s.run inputs := by
  rcases s.applyAll_eq_run events with ⟨first, eqFirst⟩
  rcases settle_eq_run (s.run first).state (s.run first).queue with ⟨n, eqTurns⟩
  refine ⟨first ++ List.replicate n .turn, ?_⟩
  rw [run_append, ← eqTurns, ← eqFirst]
  rfl

end Session

end LoginVault
