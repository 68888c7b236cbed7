import LoginVault.Proofs.Session.Flight

/-!
# Session.TaskMoves — what a move can do to one task

A move leaves a task where it stands, or does one of ten things to it (`TaskMove`): it is
started, cancelled, answered or told of the end of a fetch, or it takes its turn. Statements on
the life of a task, from its call to its end, are proved along these.
-/

namespace LoginVault.Session

open State

variable {s s' : Session}

/-- All that a move can do to the task of this name. -/
inductive TaskMove (s s' : Session) (T : String) : Prop
  | kept (same : s'.state.tasks.lookup T = s.state.tasks.lookup T)
  | started {c : Call} (new : s.state.tasks.lookup T = none)
      (now : s'.state.tasks.lookup T = some (.ready (.begin c))) (turn : .task T ∈ s'.queue)
  | overtaken {r : Resumption} (ready : s.state.tasks.lookup T = some (.ready r))
      (now : s'.state.tasks.lookup T = some (.ready .cancelled)) (queue : s'.queue = s.queue)
  | cancelled {w : Wait} (waiting : s.state.tasks.lookup T = some (.waiting w))
      (now : s'.state.tasks.lookup T = some (.ready .cancelled)) (turn : .task T ∈ s'.queue)
  | answered {e : Errand} {a : Answer}
      (waiting : s.state.tasks.lookup T = some (.waiting (.answer e)))
      (now : s'.state.tasks.lookup T = some (.ready (.answered e a))) (turn : .task T ∈ s'.queue)
  | told {f : Nat} {p : Purpose}
      (waiting : s.state.tasks.lookup T = some (.waiting (.fetch f p)))
      (relay : .relay f T ∈ s.queue)
      (now : s'.state.tasks.lookup T = some (.ready (.fetchEnded f p)))
      (turn : .task T ∈ s'.queue)
  | released {f : Nat} {p : Purpose}
      (waiting : s.state.tasks.lookup T = some (.waiting (.superseded f p)))
      (relay : .relay f T ∈ s.queue)
      (now : s'.state.tasks.lookup T = some (.ready (.supersededEnded p)))
      (turn : .task T ∈ s'.queue) (cache : s'.state.cache = s.state.cache)
  | finished {r : Resumption} {o : Outcome} (ready : s.state.tasks.lookup T = some (.ready r))
      (why : r.Finishes s.state.cache o) (now : s'.state.tasks.lookup T = some (.finished o))
  | asked {r : Resumption} {e : Errand} (ready : s.state.tasks.lookup T = some (.ready r))
      (why : r.IsOwn) (now : s'.state.tasks.lookup T = some (.waiting (.answer e)))
      (request : (.task T, e.query s'.state.client.config.pageSize) ∈ s'.state.pending)
  | joined {r : Resumption} {p : Purpose} (ready : s.state.tasks.lookup T = some (.ready r))
      (why : r.Joins p)
      (now : s'.state.tasks.lookup T = some (.waiting (.fetch s.state.cache.joined p)))
      (running : s'.state.cache.isRunning s.state.cache.joined = true)
      (waits : T ∈ s'.state.cache.waitingFor s.state.cache.joined)
  | superseded {r : Resumption} {f : Nat} {p : Purpose}
      (ready : s.state.tasks.lookup T = some (.ready r)) (why : r.IsOwn)
      (before : s.state.cache.running? = some f)
      (now : s'.state.tasks.lookup T = some (.waiting (.superseded f p)))
      (running : s'.state.cache.isRunning f = true) (waits : T ∈ s'.state.cache.waitingFor f)

/-- The turn of a task moves this task. -/
theorem taskMove_of_turn {s : State} {T : String} {r : Resumption} {x : State × Option Nat}
    (turn : TaskTurn s T r x) (ready : s.tasks.lookup T = some (.ready r)) (q : List Turn) :
    TaskMove ⟨s, .task T :: q⟩ ⟨x.1, q ++ (x.2.map Turn.open).toList⟩ T := by
  cases turn with
  | finished same why => exact .finished ready why (by simp)
  | @asked mid e same why =>
    refine .asked ready why (e := e) (by simp) ?_
    exact List.mem_append_right _ List.mem_cons_self
  | @enlisted mid f w same why hf =>
    have hrunning := (Cache.running?_eq_some_iff.mp hf).2
    have hlt := (Cache.isRunning_iff.mp hrunning).1
    have hnow : (mid.cache.addWaiting f T).isRunning f = true :=
      (Cache.isRunning_addWaiting f T).trans hrunning
    have hwaits : T ∈ (mid.cache.addWaiting f T).waitingFor f := by
      rw [Cache.waitingFor_addWaiting _ _ _ _ hlt]
      simp
    have hbefore := same.running?.symm.trans hf
    have hjoined : s.cache.joined = f := by simp [Cache.joined, hbefore]
    rcases why with ⟨p, rfl, why⟩ | ⟨p, rfl, why⟩
    · exact .joined ready why (by simp [hjoined]) (hjoined ▸ hnow) (hjoined ▸ hwaits)
    · exact .superseded ready why hbefore (p := p) (by simp) hnow hwaits
  | @began mid p same why idle =>
    have hnow : (mid.cache.beginFetch.addWaiting mid.cache.fetches.length T).isRunning
        mid.cache.fetches.length = true := by
      simp [Cache.isRunning_beginFetch]
    have hwaits : T ∈ (mid.cache.beginFetch.addWaiting mid.cache.fetches.length T).waitingFor
        mid.cache.fetches.length := by
      rw [Cache.waitingFor_addWaiting _ _ _ _ (by simp)]
      simp
    have hjoined : s.cache.joined = mid.cache.fetches.length := by
      rw [← same.joined]
      simp [Cache.joined, idle]
    exact .joined ready why (by simp [hjoined]) (hjoined ▸ hnow) (hjoined ▸ hwaits)
  | early why unended => exact .kept rfl

/-- Every move does one of these things to every task. -/
theorem Move.task_move (move : Move s s') (T : String) : TaskMove s s' T := by
  cases move with
  | quiet same => exact .kept (by rw [same.tasks])
  | pageAnswered _ _ | unheard _ _ _ | idle _ | opened _ | turned _ _ | settled => exact .kept rfl
  | @spawned s q U c new =>
    by_cases hU : T = U
    · subst hU
      exact .started new (c := c) (by simp) (by simp)
    · exact .kept (by simp [hU])
  | @overtaken s q U r ready =>
    by_cases hU : T = U
    · subst hU
      exact .overtaken ready (by simp) rfl
    · exact .kept (by simp [hU])
  | @cancelled s q U w waiting =>
    by_cases hU : T = U
    · subst hU
      exact .cancelled waiting (by simp) (by simp)
    · exact .kept (by simp [hU])
  | @answered s q U e a index query request waiting =>
    by_cases hU : T = U
    · subst hU
      exact .answered waiting (a := a) (by simp) (by simp)
    · exact .kept (by simp [hU])
  | @told s f U p q waiting =>
    by_cases hU : T = U
    · subst hU
      exact .told waiting List.mem_cons_self (by simp) (by simp)
    · exact .kept (by simp [hU])
  | @released s f U p q waiting =>
    by_cases hU : T = U
    · subst hU
      exact .released waiting List.mem_cons_self (by simp) (by simp) rfl
    · exact .kept (by simp [hU])
  | @task s U r q x ready turn =>
    by_cases hU : T = U
    · subst hU
      exact taskMove_of_turn turn ready q
    · exact .kept (turn.others hU)
  | @ended s mid f p a r started q read last spawns =>
    by_cases hT : T ∈ started
    · rcases spawns.started T hT with ⟨hnew, c, hc⟩
      exact .started hnew (c := c) hc (by simp [hT])
    · exact .kept (spawns.others T hT)

/-! ## Turns of its own -/

/-- A move that is no turn of a task leaves it where it stands, or makes it ready. -/
theorem Move.own_or_ready (move : Move s s') (T : String) :
    s.queue.head? = some (.task T) ∨ s'.state.tasks.lookup T = s.state.tasks.lookup T
      ∨ ∃ r, s'.state.tasks.lookup T = some (.ready r) := by
  have hset {s : State} {U : String} {r : Resumption} :
      (s.setTask U (.ready r)).tasks.lookup T = s.tasks.lookup T
        ∨ ∃ r', (s.setTask U (.ready r)).tasks.lookup T = some (.ready r') := by
    by_cases hU : T = U
    · exact Or.inr ⟨r, by simp [hU]⟩
    · exact Or.inl (by simp [hU])
  cases move with
  | quiet same => exact Or.inr (Or.inl (by rw [same.tasks]))
  | pageAnswered _ _ | unheard _ _ _ | idle _ | opened _ | turned _ _ | settled =>
    exact Or.inr (Or.inl rfl)
  | spawned _ | overtaken _ | cancelled _ | answered _ _ | told _ | released _ => exact Or.inr hset
  | @task s U r q x ready turn =>
    by_cases hU : T = U
    · subst hU
      exact Or.inl rfl
    · exact Or.inr (Or.inl (turn.others hU))
  | @ended s mid f p a r started q read last spawns =>
    by_cases hT : T ∈ started
    · rcases spawns.started T hT with ⟨-, c, hc⟩
      exact Or.inr (Or.inr ⟨_, hc⟩)
    · exact Or.inr (Or.inl (spawns.others T hT))

/-- A task finishes, or begins to wait, only in a turn of its own. -/
theorem advance_own_or_ready (s : Session) (i : Input) (T : String) :
    (i = .turn ∧ s.queue.head? = some (.task T))
      ∨ (s.advance i).state.tasks.lookup T = s.state.tasks.lookup T
      ∨ ∃ r, (s.advance i).state.tasks.lookup T = some (.ready r) := by
  cases i with
  | turn =>
    rcases (s.advance_move .turn).own_or_ready T with own | other
    · exact Or.inl ⟨rfl, own⟩
    · exact Or.inr other
  | event e =>
    -- what an event does to tasks does not depend on the turns to come
    rcases (apply_move s.state [] e).own_or_ready T with own | other
    · cases own
    · exact Or.inr other

end LoginVault.Session
