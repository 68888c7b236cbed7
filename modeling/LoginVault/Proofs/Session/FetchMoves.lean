import LoginVault.Proofs.Session.Moves

/-!
# Session.FetchMoves — what a move can do to one fetch

A move leaves a fetch where it stands, or does one of five things to it (`FetchMove`): the fetch
begins, is opened, is answered, turns a page or ends. Statements on the life of a fetch are
proved along these.
-/

namespace LoginVault.Session

open State

variable {s s' : Session}

/-- All that a move can do to the fetch at this place. -/
inductive FetchMove (s s' : Session) (f : Nat) : Prop
  | kept (same : s'.state.cache.stage? f = s.state.cache.stage? f)
  | begun (next : f = s.state.cache.fetches.length) (idle : s.state.cache.running? = none)
      (now : s'.state.cache.stage? f = some .begun) (turn : .open f ∈ s'.queue)
  | opened (before : s.state.cache.stage? f = some .begun)
      (now : s'.state.cache.stage? f = some (.asking (.start none)))
      (queue : s.queue = .open f :: s'.queue)
      (request : (.fetch f, (Paging.start none).query s'.state.client.config.pageSize)
        ∈ s'.state.pending)
  | answered {p : Paging} {a : Answer} (before : s.state.cache.stage? f = some (.asking p))
      (now : s'.state.cache.stage? f = some (.answered p a)) (turn : .page f ∈ s'.queue)
  | turned {p next : Paging} {a : Answer} (before : s.state.cache.stage? f = some (.answered p a))
      (now : s'.state.cache.stage? f = some (.asking next))
      (queue : s.queue = .page f :: s'.queue)
      (request : (.fetch f, next.query s'.state.client.config.pageSize) ∈ s'.state.pending)
  | ended {p : Paging} {a : Answer} {r : Except Failure (List Login)}
      (before : s.state.cache.stage? f = some (.answered p a))
      (now : s'.state.cache.stage? f = some (.finished r))
      (head : s.queue.head? = some (.page f))

/-- Putting one fetch into another stage leaves the others where they stand. -/
theorem stage?_setStage_cases {c d : Cache} (fetches : d.fetches = c.fetches) {g : Nat}
    {before after : FetchStage} (stands : c.stage? g = some before) (f : Nat) :
    (f ≠ g ∧ (d.setStage g after).stage? f = c.stage? f)
      ∨ (f = g ∧ (d.setStage g after).stage? f = some after) := by
  have hsame := (Cache.reads_congr fetches f).1
  rw [Cache.stage?_setStage]
  by_cases hf : f = g
  · subst hf
    simp [hsame, stands]
  · simp [hf, hsame]

/-- A turn of a task begins a fetch at most. -/
theorem fetchMove_of_turn {s : State} {T : String} {r : Resumption} {x : State × Option Nat}
    (turn : TaskTurn s T r x) (q : List Turn) (f : Nat) :
    FetchMove ⟨s, .task T :: q⟩ ⟨x.1, q ++ (x.2.map Turn.open).toList⟩ f := by
  cases turn with
  | finished same _ => exact .kept (same.stage? f)
  | asked same _ => exact .kept (same.stage? f)
  | early _ _ => exact .kept rfl
  | enlisted same _ _ =>
    exact .kept ((Cache.stage?_addWaiting _ _ _ _).trans (same.stage? f))
  | @began mid p same _ idle =>
    have hstage := Cache.stage?_beginFetch mid.cache f
    by_cases hlast : f = mid.cache.fetches.length
    · refine .begun (hlast.trans (by rw [same.fetches])) (same.running?.symm.trans idle) ?_ ?_
      · exact (Cache.stage?_addWaiting _ _ _ _).trans (by rw [hstage, if_pos hlast])
      · simp [hlast]
    · refine .kept ((Cache.stage?_addWaiting _ _ _ _).trans ?_)
      rw [hstage, if_neg hlast, same.stage? f]

/-- Every move does one of these things to every fetch. -/
theorem Move.fetch_move (move : Move s s') (f : Nat) : FetchMove s s' f := by
  cases move with
  | quiet same => exact .kept (same.stage? f)
  | spawned _ | overtaken _ | cancelled _ | answered _ _ | unheard _ _ _ | idle _ | told _
  | released _ => exact .kept rfl
  | settled => exact .kept (Cache.reads_settle _ _ f).1
  | task ready turn => exact fetchMove_of_turn turn _ f
  | @pageAnswered s q g p a index query request asking =>
    rcases stage?_setStage_cases (d := s.cache) rfl asking f with ⟨-, hkept⟩ | ⟨rfl, hset⟩
    · exact .kept hkept
    · exact .answered asking hset (by simp)
  | @opened s g q begun =>
    rcases stage?_setStage_cases (d := s.cache) rfl begun f with ⟨-, hkept⟩ | ⟨rfl, hset⟩
    · exact .kept hkept
    · exact .opened begun hset rfl (List.mem_append_right _ List.mem_cons_self)
  | @turned s g p next a q read more =>
    rcases stage?_setStage_cases (d := s.cache) rfl read f with ⟨-, hkept⟩ | ⟨rfl, hset⟩
    · exact .kept hkept
    · exact .turned read hset rfl (List.mem_append_right _ List.mem_cons_self)
  | @ended s mid g p a r started q read last spawns =>
    rcases stage?_setStage_cases spawns.fetches read f with ⟨-, hkept⟩ | ⟨rfl, hset⟩
    · exact .kept hkept
    · exact .ended read hset rfl

end LoginVault.Session
