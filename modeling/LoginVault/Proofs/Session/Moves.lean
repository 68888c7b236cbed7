import LoginVault.Proofs.Session.Schedule
import LoginVault.Proofs.Session.Turns

/-!
# Session.Moves — all that an input can do

Every input moves a session in one of the ways of `Session.Move` (`advance_move`). A move tells
what becomes of the fetches, tasks, requests and turns; what becomes of views and the journal it
leaves open, except where followers start tasks. Every invariant of sessions is proved move by
move.
-/

namespace LoginVault

/-- The state with another snapshot, of which nobody was told. -/
def State.withSnapshot (s : State) (logins : List Login) : State :=
  { s with cache := { s.cache with snapshot := logins } }

/-- Whether a turn finds nothing to do. -/
def State.Idle (s : State) : Turn → Prop
  | .task T => ∀ r, s.tasks.lookup T ≠ some (.ready r)
  | .open f => s.cache.stage? f ≠ some .begun
  | .page f => ∀ p a, s.cache.stage? f ≠ some (.answered p a)
  | .settle f => s.cache.inflight ≠ some f
  | .relay f T => ∀ p, s.tasks.lookup T ≠ some (.waiting (.fetch f p))
      ∧ s.tasks.lookup T ≠ some (.waiting (.superseded f p))

namespace Session

open State

/-- All that an input can do to a session. -/
inductive Move : Session → Session → Prop
  /-- A view is operated, or a callback begins or ends to follow the cache. -/
  | quiet {s s' : State} {q : List Turn} (same : SameWork s s') : Move ⟨s, q⟩ ⟨s', q⟩
  /-- A task is started. -/
  | spawned {s : State} {q : List Turn} {T : String} {c : Call}
      (new : s.tasks.lookup T = none) :
      Move ⟨s, q⟩ ⟨s.setTask T (.ready (.begin c)), q ++ [.task T]⟩
  /-- A task is cancelled whose turn is coming. -/
  | overtaken {s : State} {q : List Turn} {T : String} {r : Resumption}
      (ready : s.tasks.lookup T = some (.ready r)) :
      Move ⟨s, q⟩ ⟨s.setTask T (.ready .cancelled), q⟩
  /-- A task is cancelled that waits. -/
  | cancelled {s : State} {q : List Turn} {T : String} {w : Wait}
      (waiting : s.tasks.lookup T = some (.waiting w)) :
      Move ⟨s, q⟩ ⟨{ s with pending := s.pending.filter (!ownedBy (.task T) ·) }.setTask T
        (.ready .cancelled), q ++ [.task T]⟩
  /-- The request of a task is answered. -/
  | answered {s : State} {q : List Turn} {T : String} {e : Errand} {a : Answer} {index : Nat}
      {query : Query} (request : s.pending[index]? = some (.task T, query))
      (waiting : s.tasks.lookup T = some (.waiting (.answer e))) :
      Move ⟨s, q⟩ ⟨{ s with pending := s.pending.eraseIdx index }.setTask T
        (.ready (.answered e a)), q ++ [.task T]⟩
  /-- The request of a fetch is answered. -/
  | pageAnswered {s : State} {q : List Turn} {f : Nat} {p : Paging} {a : Answer} {index : Nat}
      {query : Query} (request : s.pending[index]? = some (.fetch f, query))
      (asking : s.cache.stage? f = some (.asking p)) :
      Move ⟨s, q⟩ ⟨{ s with
          pending := s.pending.eraseIdx index
          cache := s.cache.setStage f (.answered p a) }, q ++ [.page f]⟩
  /-- A request is answered for which nobody waits. -/
  | unheard {s : State} {q : List Turn} {o : Owner} {index : Nat} {query : Query}
      (request : s.pending[index]? = some (o, query))
      (notTask : ∀ T, o = .task T → ∀ e, s.tasks.lookup T ≠ some (.waiting (.answer e)))
      (notFetch : ∀ f, o = .fetch f → ∀ p, s.cache.stage? f ≠ some (.asking p)) :
      Move ⟨s, q⟩ ⟨{ s with pending := s.pending.eraseIdx index }, q⟩
  /-- A turn finds nothing to do. -/
  | idle {s : State} {t : Turn} {q : List Turn} (nothing : s.Idle t) : Move ⟨s, t :: q⟩ ⟨s, q⟩
  /-- A task takes its turn. -/
  | task {s : State} {T : String} {r : Resumption} {q : List Turn} {x : State × Option Nat}
      (ready : s.tasks.lookup T = some (.ready r)) (turn : TaskTurn s T r x) :
      Move ⟨s, .task T :: q⟩ ⟨x.1, q ++ (x.2.map Turn.open).toList⟩
  /-- A fetch asks for its first page. -/
  | opened {s : State} {f : Nat} {q : List Turn} (begun : s.cache.stage? f = some .begun) :
      Move ⟨s, .open f :: q⟩ ⟨s.askPage f (.start none), q⟩
  /-- A fetch reads a page and asks for the next. -/
  | turned {s : State} {f : Nat} {p next : Paging} {a : Answer} {q : List Turn}
      (read : s.cache.stage? f = some (.answered p a))
      (more : p.advance s.client.config.pageSize a = .ok (.more next)) :
      Move ⟨s, .page f :: q⟩ ⟨s.askPage f next, q⟩
  /-- A fetch reads its last page, or fails: followers may have started tasks. -/
  | ended {s mid : State} {f : Nat} {p : Paging} {a : Answer} {r : Except Failure (List Login)}
      {started : List String} {q : List Turn}
      (read : s.cache.stage? f = some (.answered p a))
      (last : p.advance s.client.config.pageSize a = r.map .complete)
      (spawns : Spawns (s.withSnapshot (r.toOption.getD s.cache.snapshot)) mid started) :
      Move ⟨s, .page f :: q⟩ ⟨{ mid with cache := mid.cache.setStage f (.finished r) },
        q ++ (started.map .task ++ .settle f :: (s.cache.waitingFor f).map (.relay f))⟩
  /-- The cache lets go of a fetch that has ended. -/
  | settled {s : State} {f : Nat} {q : List Turn} :
      Move ⟨s, .settle f :: q⟩ ⟨{ s with cache := s.cache.settle f }, q⟩
  /-- The end of a fetch is passed on to a task that waits for its outcome. -/
  | told {s : State} {f : Nat} {T : String} {p : Purpose} {q : List Turn}
      (waiting : s.tasks.lookup T = some (.waiting (.fetch f p))) :
      Move ⟨s, .relay f T :: q⟩ ⟨s.setTask T (.ready (.fetchEnded f p)), q ++ [.task T]⟩
  /-- The end of a fetch is passed on to a task that waits for a later one. -/
  | released {s : State} {f : Nat} {T : String} {p : Purpose} {q : List Turn}
      (waiting : s.tasks.lookup T = some (.waiting (.superseded f p))) :
      Move ⟨s, .relay f T :: q⟩ ⟨s.setTask T (.ready (.supersededEnded p)), q ++ [.task T]⟩

/-! ## Events -/

variable (s : State) (q : List Turn)

theorem spawn_move (T : String) (c : Call) :
    Move ⟨s, q⟩ ⟨(s.spawn T c).1, q ++ if (s.spawn T c).2 then [.task T] else []⟩ := by
  unfold State.spawn
  cases h : s.tasks.lookup T with
  | some t => simpa using Move.quiet (q := q) (.refl s)
  | none => exact .spawned h

theorem cancel_move (T : String) : Move ⟨s, q⟩ ⟨(s.cancel T).1, q ++ (s.cancel T).2⟩ := by
  unfold State.cancel
  split
  · rename_i r hready
    simpa using Move.overtaken (q := q) hready
  · rename_i w hwaiting
    exact .cancelled hwaiting
  · simpa using Move.quiet (q := q) (.refl s)

theorem respond_move (index : Nat) (a : Answer) :
    Move ⟨s, q⟩ ⟨(s.respond index a).1, q ++ (s.respond index a).2⟩ := by
  unfold State.respond
  split
  · simpa using Move.quiet (q := q) (.refl s)
  · rename_i owner query hrequest
    cases owner with
    | task T =>
      simp only
      split
      · rename_i e hwaiting
        exact .answered hrequest hwaiting
      · -- the task has stopped waiting for this answer
        rename_i hnobody
        simp only [List.append_nil]
        refine .unheard hrequest ?_ (fun f h => by cases h)
        intro T' h e hwaiting
        cases h
        exact hnobody e hwaiting
    | fetch f =>
      simp only
      split
      · rename_i p hasking
        exact .pageAnswered hrequest hasking
      · -- the fetch has stopped asking
        rename_i hnobody
        simp only [List.append_nil]
        refine .unheard hrequest (fun T h => by cases h) ?_
        intro f' h p hasking
        cases h
        exact hnobody p hasking

/-- Every event moves a session. -/
theorem apply_move (e : Event) : Move ⟨s, q⟩ (apply ⟨s, q⟩ e).1 := by
  have quietly {s' : State} (same : SameWork s s') : Move ⟨s, q⟩ ⟨s', q ++ []⟩ := by
    simpa using Move.quiet (q := q) same
  cases e with
  | spawn T c => exact spawn_move s q T c
  | cancel T => exact cancel_move s q T
  | respond index a => exact respond_move s q index a
  | subscribe callback actions => exact quietly (s.subscribe_sameWork _ _)
  | unsubscribe callback actions => exact quietly (s.unsubscribe_sameWork _ _)
  | newView view observer => exact quietly ⟨rfl, rfl, rfl, rfl, rfl, rfl⟩
  | unmount view => exact quietly (s.unmount_sameWork view)
  | setFilter view filter => exact quietly (s.change_sameWork view _)
  | openForm view => exact quietly (s.changeForm_sameWork view _)
  | closeForm view => exact quietly (s.changeForm_sameWork view _)
  | setOrder view order =>
    simp only [apply, State.apply]
    split
    · exact quietly (s.change_sameWork view _)
    · exact quietly (s.change_sameWork view _)
    · exact quietly (.refl s)

/-! ## Turns -/

theorem stage?_of_getElem? {f : Nat} {x : Fetch} (h : s.cache.fetches[f]? = some x) :
    s.cache.stage? f = some x.stage ∧ s.cache.waitingFor f = x.waiting := by
  simp [Cache.stage?, Cache.waitingFor, h]

theorem open_move (f : Nat) : Move ⟨s, .open f :: q⟩ ⟨s.openFetch f, q⟩ := by
  unfold State.openFetch
  split
  · rename_i waiting hf
    exact .opened (stage?_of_getElem? s hf).1
  · rename_i hother
    refine .idle fun hbegun => ?_
    rcases Option.map_eq_some_iff.mp hbegun with ⟨x, hx, hstage⟩
    rcases x with ⟨stage, waiting⟩
    subst hstage
    exact hother waiting hx

theorem page_move (f : Nat) :
    Move ⟨s, .page f :: q⟩ ⟨(s.take (.page f)).1, q ++ (s.take (.page f)).2⟩ := by
  simp only [State.take, State.readFetch]
  split
  · rename_i p a waiting hf
    rcases stage?_of_getElem? s hf with ⟨hread, hwaiting⟩
    simp only at hread hwaiting
    subst hwaiting
    cases hadvance : p.advance s.client.config.pageSize a with
    | error e =>
      simpa using Move.ended (q := q) (r := .error e) hread hadvance (SameWork.refl s).spawns
    | ok progress =>
      cases progress with
      | more next => simpa using Move.turned (q := q) hread hadvance
      | complete logins =>
        have hspawns : Spawns (s.withSnapshot logins) (s.replaceSnapshot logins).1
            (s.replaceSnapshot logins).2 := tellAll_spawns _ _
        simpa using Move.ended (q := q) (r := .ok logins) hread hadvance hspawns
  · rename_i hother
    simp only [List.append_nil, List.map_nil]
    refine .idle fun p a hread => ?_
    rcases Option.map_eq_some_iff.mp hread with ⟨x, hx, hstage⟩
    rcases x with ⟨stage, waiting⟩
    subst hstage
    exact hother p a waiting hx

theorem relay_move (f : Nat) (T : String) :
    Move ⟨s, .relay f T :: q⟩ ⟨(s.take (.relay f T)).1, q ++ (s.take (.relay f T)).2⟩ := by
  have idly (h : s.relay f T = (s, false)) (nothing : s.Idle (.relay f T)) :
      Move ⟨s, .relay f T :: q⟩ ⟨(s.take (.relay f T)).1, q ++ (s.take (.relay f T)).2⟩ := by
    simpa [State.take, h] using Move.idle (q := q) nothing
  cases h : s.tasks.lookup T with
  | none => exact idly (by simp [State.relay, h]) (by simp [State.Idle, h])
  | some t =>
    cases t with
    | ready r => exact idly (by simp [State.relay, h]) (by simp [State.Idle, h])
    | finished o => exact idly (by simp [State.relay, h]) (by simp [State.Idle, h])
    | waiting w =>
      cases w with
      | answer e => exact idly (by simp [State.relay, h]) (by simp [State.Idle, h])
      | fetch g p =>
        by_cases hg : g = f
        · subst hg
          simpa [State.take, State.relay, h] using Move.told (q := q) h
        · exact idly (by simp [State.relay, h, hg]) (by simp [State.Idle, h, hg])
      | superseded g p =>
        by_cases hg : g = f
        · subst hg
          simpa [State.take, State.relay, h] using Move.released (q := q) h
        · exact idly (by simp [State.relay, h, hg]) (by simp [State.Idle, h, hg])

/-- Every turn moves a session. -/
theorem take_move (t : Turn) : Move ⟨s, t :: q⟩ ⟨(s.take t).1, q ++ (s.take t).2⟩ := by
  cases t with
  | «open» f => simpa [State.take] using open_move s q f
  | page f => exact page_move s q f
  | settle f => simpa [State.take] using Move.settled (s := s) (q := q) (f := f)
  | relay f T => exact relay_move s q f T
  | task T =>
    cases h : s.tasks.lookup T with
    | none =>
      have hidle : ∀ r, s.tasks.lookup T ≠ some (.ready r) := by simp [h]
      simpa [State.take, resume_idle hidle] using Move.idle (q := q) (t := .task T) hidle
    | some t =>
      cases t with
      | ready r => exact .task h (resume_turn h)
      | waiting w =>
        have hidle : ∀ r, s.tasks.lookup T ≠ some (.ready r) := by simp [h]
        simpa [State.take, resume_idle hidle] using Move.idle (q := q) (t := .task T) hidle
      | finished o =>
        have hidle : ∀ r, s.tasks.lookup T ≠ some (.ready r) := by simp [h]
        simpa [State.take, resume_idle hidle] using Move.idle (q := q) (t := .task T) hidle

/-- Every input moves a session. -/
theorem advance_move (s : Session) (i : Input) : Move s (s.advance i) := by
  rcases s with ⟨state, queue⟩
  cases i with
  | event e => exact apply_move state queue e
  | turn =>
    cases queue with
    | nil => exact .quiet (.refl state)
    | cons t rest => exact take_move state rest t

/-- What every move keeps, every schedule keeps. -/
theorem run_keeps_of_moves {P : Session → Prop} (step : ∀ {s s'}, Move s s' → P s → P s')
    {s : Session} (h : P s) (inputs : List Input) : P (s.run inputs) :=
  run_keeps (fun s i hs => step (s.advance_move i) hs) h inputs

end Session

end LoginVault
