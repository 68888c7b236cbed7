import LoginVault.Proofs.Session.Deeds
import LoginVault.Proofs.Session.Wakings

/-!
# Session.OwnTurns — a task among all others

A task takes its turns among those of all others. `OwnTurn` says where they stand in a schedule, and
`askedBy` what the task asks of the store in them and in no other turn. Between them nothing befalls
a task that has a turn coming (`ready_kept`), unless it is cancelled.
-/

namespace LoginVault

/-- What was asked of the store, if the entry tells of that. -/
def Entry.query? : Entry → Option Query
  | .sent q => some q
  | _ => none

namespace State

/-- What was asked of the store so far, in order. -/
def asked (s : State) : List Query := s.deeds.filterMap Entry.query?

theorem Adds.asked {s s' : State} {news : List Entry} (adds : Adds s s' news) :
    s'.asked = s.asked ++ news.filterMap Entry.query? := by
  simp [State.asked, adds.deeds]

end State

namespace Session

open State

/-! ## What a task asks -/

/-- What the task asks of the store in this input, if that is its turn. -/
def newlyAsked (s : Session) (T : String) : Input → List Query
  | .event _ => []
  | .turn =>
    if s.queue.head? = some (.task T) then
      (s.advance .turn).state.asked.drop s.state.asked.length
    else []

/-- What the task asks of the store in its own turns, in the course of these inputs. -/
def askedBy (T : String) : Session → List Input → List Query
  | _, [] => []
  | s, i :: rest => s.newlyAsked T i ++ askedBy T (s.advance i) rest

/-- Whether a turn of the task comes next after `early`, in the course of these inputs. -/
structure OwnTurn (s : Session) (T : String) (inputs early : List Input) : Prop where
  within : early ++ [.turn] <+: inputs
  head : (s.run early).queue.head? = some (.task T)

variable {s : Session} {T : String} {inputs early : List Input} {i : Input}

theorem askedBy_concat (T : String) (s : Session) (inputs : List Input) (i : Input) :
    askedBy T s (inputs ++ [i]) = askedBy T s inputs ++ (s.run inputs).newlyAsked T i := by
  induction inputs generalizing s with
  | nil => simp [askedBy]
  | cons j rest ih => simp [askedBy, ih]

/-- A turn of the task is taken by the task. -/
theorem advance_of_head (head : s.queue.head? = some (.task T)) :
    (s.advance .turn).state = (s.state.resume T).1 := by
  rcases s with ⟨s, q⟩
  obtain ⟨rest, rfl⟩ := List.head?_eq_some_iff.mp head
  rfl

theorem newlyAsked_own {news : List Entry} (head : s.queue.head? = some (.task T))
    (adds : Adds s.state (s.state.resume T).1 news) :
    s.newlyAsked T .turn = news.filterMap Entry.query? := by
  simp [newlyAsked, head, advance_of_head head, adds.asked]

theorem newlyAsked_other (other : i = .turn → s.queue.head? ≠ some (.task T)) :
    s.newlyAsked T i = [] := by
  cases i with
  | event e => rfl
  | turn => simp [newlyAsked, other rfl]

/-- A task that has no turn coming asks for nothing. -/
theorem newlyAsked_idle (idle : ∀ r, s.state.tasks.lookup T ≠ some (.ready r)) (i : Input) :
    s.newlyAsked T i = [] := by
  by_cases own : i = .turn ∧ s.queue.head? = some (.task T)
  · obtain ⟨rfl, head⟩ := own
    have hquiet : Adds s.state (s.state.resume T).1 [] := .quietly (by rw [resume_idle idle])
    exact newlyAsked_own head hquiet
  · exact newlyAsked_other fun hi head => own ⟨hi, head⟩

/-! ## Inputs that are no turn of the task -/

/-- A task that has a turn coming keeps it until it takes it, unless it is cancelled. -/
theorem ready_kept {r : Resumption} (ready : s.state.tasks.lookup T = some (.ready r))
    (uncancelled : r ≠ .cancelled) (spared : i ≠ .event (.cancel T))
    (other : i = .turn → s.queue.head? ≠ some (.task T)) :
    (s.advance i).state.tasks.lookup T = some (.ready r) := by
  have hactive : (s.advance i).state.tasks.lookup T ≠ some (.ready .cancelled) :=
    not_cancelled (by simpa [ready] using uncancelled) spared
  rcases s.advance_own_or_ready i T with ⟨hi, head⟩ | same | ⟨r', now⟩
  · exact absurd head (other hi)
  · exact same.trans ready
  · cases (s.advance_move i).task_move T with
    | kept same => exact same.trans ready
    | overtaken _ cancelled _ => exact absurd cancelled hactive
    | _ => simp_all

/-! ## Where the turns stand -/

theorem OwnTurn.state (own : OwnTurn s T inputs early) :
    (s.run (early ++ [.turn])).state = ((s.run early).state.resume T).1 := by
  rw [run_concat, advance_of_head own.head]

theorem OwnTurn.of_prefix {first : List Input} (own : OwnTurn s T early first)
    (within : early <+: inputs) : OwnTurn s T inputs first :=
  ⟨own.within.trans within, own.head⟩

/-- A turn in the course of more inputs came before, or is the last. -/
theorem OwnTurn.of_concat (own : OwnTurn s T (inputs ++ [i]) early) :
    OwnTurn s T inputs early ∨ early = inputs ∧ i = .turn := by
  rcases List.prefix_concat_iff.mp own.within with same | earlier
  · obtain ⟨rfl, hi⟩ := List.append_inj' same rfl
    obtain rfl : Input.turn = i := by simpa using hi
    exact Or.inr ⟨rfl, rfl⟩
  · exact Or.inl ⟨earlier, own.head⟩

end Session

end LoginVault
