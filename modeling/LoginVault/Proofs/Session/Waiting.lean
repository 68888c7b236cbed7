import LoginVault.Proofs.Session.FetchMoves
import LoginVault.Proofs.Session.TaskMoves

/-!
# Session.Waiting — nothing waits in vain

Whatever is not finished has what will move it (`Live`): a task whose turn is coming stands in
the queue; a task that waits for an answer has a pending request; a task that waits for the end
of a fetch is in the ledger while the fetch is running, and afterwards a turn that passes the end
on stands in the queue; a fetch has the turn or the request that its stage calls for. A move
takes such a thing away only from whom it no longer serves (`turn_kept`, `request_kept`,
`waiter_kept`).
-/

namespace LoginVault

/-- The fetch whose end is waited for. -/
def Wait.fetch? : Wait → Option Nat
  | .answer _ => none
  | .superseded f _ => some f
  | .fetch f _ => some f

/-- Whether the owner of a request waits for its answer. -/
def State.Awaits (s : State) : Owner → Prop
  | .task T => ∃ e, s.tasks.lookup T = some (.waiting (.answer e))
  | .fetch f => ∃ p, s.cache.stage? f = some (.asking p)

namespace Session

open State

variable {s s' : Session}

/-- Whether a fetch that stands here has what will move it on. -/
def Provided (s : Session) (f : Nat) : FetchStage → Prop
  | .begun => .open f ∈ s.queue
  | .asking p => (.fetch f, p.query s.state.client.config.pageSize) ∈ s.state.pending
  | .answered _ _ => .page f ∈ s.queue
  | .finished _ => True

/-- Whatever is not finished has what will move it. -/
structure Live (s : Session) : Prop where
  turns : ∀ T r, s.state.tasks.lookup T = some (.ready r) → .task T ∈ s.queue
  requests : ∀ T e, s.state.tasks.lookup T = some (.waiting (.answer e)) →
    (.task T, e.query s.state.client.config.pageSize) ∈ s.state.pending
  stages : ∀ f stage, s.state.cache.stage? f = some stage → s.Provided f stage
  told : ∀ T f p, s.state.tasks.lookup T = some (.ready (.fetchEnded f p)) →
    ∃ r, s.state.cache.outcome? f = some r
  waits : ∀ T w f, s.state.tasks.lookup T = some (.waiting w) → w.fetch? = some f →
    (s.state.cache.isRunning f = true ∧ T ∈ s.state.cache.waitingFor f)
      ∨ .relay f T ∈ s.queue

/-! ## What a move takes away -/

theorem Move.client (move : Move s s') : s'.state.client = s.state.client := by
  cases move with
  | quiet same => exact same.client
  | ended _ _ spawns => exact spawns.client
  | task ready turn =>
    cases turn with
    | finished same _ => exact same.client
    | asked same _ => exact same.client
    | enlisted same _ _ => exact same.client
    | began same _ _ => exact same.client
    | early _ _ => rfl
  | _ => rfl

/-- A turn leaves the queue when it is taken, and then has nothing to do. -/
theorem Move.turn_kept (move : Move s s')
    (told : ∀ T f p, s.state.tasks.lookup T = some (.ready (.fetchEnded f p)) →
      ∃ r, s.state.cache.outcome? f = some r) {t : Turn} (mem : t ∈ s.queue) :
    t ∈ s'.queue ∨ s'.state.Idle t := by
  have hlater {u : Turn} {q more : List Turn} (h : t ∈ u :: q) (hne : t ≠ u) : t ∈ q ++ more :=
    List.mem_append_left _ ((List.mem_cons.mp h).resolve_left hne)
  cases move with
  | quiet _ | overtaken _ | unheard _ _ _ => exact Or.inl mem
  | spawned _ | cancelled _ | answered _ _ | pageAnswered _ _ =>
    exact Or.inl (List.mem_append_left _ mem)
  | @idle s u q nothing =>
    rcases List.mem_cons.mp mem with rfl | h
    · exact Or.inr nothing
    · exact Or.inl h
  | @settled s f q =>
    rcases List.mem_cons.mp mem with rfl | h
    · refine Or.inr ?_
      show (s.cache.settle f).inflight ≠ some f
      rw [Cache.inflight_settle]
      split
      · simp
      · assumption
    · exact Or.inl h
  | @opened s f q begun =>
    rcases List.mem_cons.mp mem with rfl | h
    · refine Or.inr fun hbegun => ?_
      have hstage : (s.cache.setStage f (.asking (.start none))).stage? f = some .begun := hbegun
      simp [Cache.stage?_setStage, begun] at hstage
    · exact Or.inl h
  | @turned s f p next a q read more =>
    rcases List.mem_cons.mp mem with rfl | h
    · refine Or.inr fun p' a' hread => ?_
      have hstage : (s.cache.setStage f (.asking next)).stage? f = some (.answered p' a') := hread
      simp [Cache.stage?_setStage, read] at hstage
    · exact Or.inl h
  | @ended s mid f p a r started q read last spawns =>
    by_cases ht : t = .page f
    · subst ht
      refine Or.inr fun p' a' hread => ?_
      have hstage : (mid.cache.setStage f (.finished r)).stage? f = some (.answered p' a') := hread
      rw [Cache.stage?_setStage, if_pos rfl] at hstage
      rcases Option.map_eq_some_iff.mp hstage with ⟨-, -, h⟩
      cases h
    · exact Or.inl (hlater mem ht)
  | @told s f T p q waiting =>
    by_cases ht : t = .relay f T
    · subst ht
      exact Or.inr fun p' => by simp
    · exact Or.inl (hlater mem ht)
  | @released s f T p q waiting =>
    by_cases ht : t = .relay f T
    · subst ht
      exact Or.inr fun p' => by simp
    · exact Or.inl (hlater mem ht)
  | @task s T r q x ready turn =>
    by_cases ht : t = .task T
    · subst ht
      exact Or.inr (turn.unready fun f p h => told T f p (h ▸ ready))
    · exact Or.inl (hlater mem ht)

/-- Taking away the request of another leaves a request. -/
theorem mem_eraseIdx_of_ne {α : Type} {xs : List α} {i : Nat} {x y : α} (mem : x ∈ xs)
    (hy : xs[i]? = some y) (hne : x ≠ y) : x ∈ xs.eraseIdx i := by
  rw [List.mem_eraseIdx_iff_getElem?]
  rcases List.mem_iff_getElem?.mp mem with ⟨j, hj⟩
  refine ⟨j, ?_, hj⟩
  rintro rfl
  exact hne (Option.some.inj (hj.symm.trans hy))

/-- A request is taken away when it is answered or its task is cancelled. -/
theorem Move.request_kept (move : Move s s') {x : Owner × Query} (mem : x ∈ s.state.pending) :
    x ∈ s'.state.pending ∨ ¬ s'.state.Awaits x.1 := by
  have hother {i : Nat} {y : Owner × Query} (hy : s.state.pending[i]? = some y) :
      x = y ∨ x ∈ s.state.pending.eraseIdx i := by
    by_cases hxy : x = y
    · exact Or.inl hxy
    · exact Or.inr (mem_eraseIdx_of_ne mem hy hxy)
  cases move with
  | quiet same => exact Or.inl (same.pending ▸ mem)
  | spawned _ | overtaken _ | idle _ | settled | told _ | released _ => exact Or.inl mem
  | opened _ | turned _ _ => exact Or.inl (List.mem_append_left _ mem)
  | ended _ _ spawns => exact Or.inl (spawns.pending ▸ mem)
  | @cancelled s q T w waiting =>
    rcases x with ⟨owner, query⟩
    by_cases ho : owner = .task T
    · -- the requests of the cancelled task are withdrawn, and it waits for none
      subst ho
      refine Or.inr fun hawaits => ?_
      rcases hawaits with ⟨e, he⟩
      simp at he
    · refine Or.inl (List.mem_filter.mpr ⟨mem, ?_⟩)
      simp [ownedBy, ho]
  | @answered s q T e a index query request waiting =>
    rcases hother request with rfl | hkept
    · refine Or.inr fun hawaits => ?_
      rcases hawaits with ⟨e', he⟩
      simp at he
    · exact Or.inl hkept
  | @pageAnswered s q f p a index query request asking =>
    rcases hother request with rfl | hkept
    · refine Or.inr fun hawaits => ?_
      rcases hawaits with ⟨p', hp⟩
      have hstage : (s.cache.setStage f (.answered p a)).stage? f = some (.asking p') := hp
      simp [Cache.stage?_setStage, asking] at hstage
    · exact Or.inl hkept
  | @unheard s q o index query request notTask notFetch =>
    rcases hother request with rfl | hkept
    · -- nobody waited for the answer, or it would not be unheard
      refine Or.inr fun hawaits => ?_
      cases o with
      | task T =>
        rcases hawaits with ⟨e, he⟩
        exact notTask T rfl e he
      | fetch f =>
        rcases hawaits with ⟨p, hp⟩
        exact notFetch f rfl p hp
    · exact Or.inl hkept
  | @task s T r q y ready turn =>
    left
    cases turn with
    | finished same _ => exact same.pending ▸ mem
    | asked same _ => exact List.mem_append_left _ (same.pending ▸ mem)
    | enlisted same _ _ => exact same.pending ▸ mem
    | began same _ _ => exact same.pending ▸ mem
    | early _ _ => exact mem

/-- A fetch that comes to a stage gets what will move it on. -/
theorem Move.stage_provided (move : Move s s') {f : Nat} {stage : FetchStage}
    (h : s'.state.cache.stage? f = some stage) :
    s.state.cache.stage? f = some stage ∨ s'.Provided f stage := by
  have hnow {after : FetchStage} (now : s'.state.cache.stage? f = some after) : after = stage :=
    Option.some.inj (now.symm.trans h)
  cases move.fetch_move f with
  | kept same => exact Or.inl (same.symm.trans h)
  | begun _ _ now turn => exact Or.inr (hnow now ▸ turn)
  | opened _ now _ request => exact Or.inr (hnow now ▸ request)
  | answered _ now turn => exact Or.inr (hnow now ▸ turn)
  | turned _ now _ request => exact Or.inr (hnow now ▸ request)
  | ended _ now _ => exact Or.inr (hnow now ▸ trivial)

/-- A task that waits for a running fetch stays in the ledger until the fetch ends; then the end
is passed on to it. -/
theorem Move.waiter_kept (move : Move s s') {f : Nat} {T : String}
    (running : s.state.cache.isRunning f = true) (waits : T ∈ s.state.cache.waitingFor f) :
    (s'.state.cache.isRunning f = true ∧ T ∈ s'.state.cache.waitingFor f)
      ∨ .relay f T ∈ s'.queue := by
  have hsame {c : Cache} (h : c.fetches = s.state.cache.fetches) :
      c.isRunning f = true ∧ T ∈ c.waitingFor f := by
    rcases Cache.reads_congr h f with ⟨-, -, hwaiting, hrunning⟩
    exact ⟨hrunning.trans running, hwaiting ▸ waits⟩
  have hset {g : Nat} {before after : FetchStage}
      (stands : s.state.cache.stage? g = some before) (unfinished : ∀ r, before ≠ .finished r)
      (goes : ∀ r, after ≠ .finished r) :
      (s.state.cache.setStage g after).isRunning f = true
        ∧ T ∈ (s.state.cache.setStage g after).waitingFor f := by
    have hrunning := Cache.isRunning_of_stage stands unfinished
    exact ⟨(Cache.isRunning_setStage f hrunning goes).trans running,
      (Cache.waitingFor_setStage _ _ _ _).symm ▸ waits⟩
  have hwaiting {c : Cache} {g : Nat} {U : String} (h : c.fetches = s.state.cache.fetches)
      (hg : g < c.fetches.length) :
      (c.addWaiting g U).isRunning f = true ∧ T ∈ (c.addWaiting g U).waitingFor f := by
    rcases hsame h with ⟨hrunning, hwaits⟩
    refine ⟨(Cache.isRunning_addWaiting f U).trans hrunning, ?_⟩
    rw [Cache.waitingFor_addWaiting _ _ _ _ hg]
    split
    · exact List.mem_append_left _ hwaits
    · exact hwaits
  cases move with
  | quiet same => exact Or.inl (hsame same.fetches)
  | spawned _ | overtaken _ | cancelled _ | answered _ _ | unheard _ _ _ | idle _ | told _
  | released _ => exact Or.inl ⟨running, waits⟩
  | settled => exact Or.inl (hsame (Cache.fetches_settle _ _))
  | pageAnswered _ asking => exact Or.inl (hset asking (by simp) (by simp))
  | opened begun => exact Or.inl (hset begun (by simp) (by simp))
  | turned read _ => exact Or.inl (hset read (by simp) (by simp))
  | @ended s mid g p a r started q read last spawns =>
    by_cases hfg : f = g
    · -- the end is passed on to all that stand in the ledger
      subst hfg
      right
      simp only [List.mem_append, List.mem_cons, List.mem_map]
      exact Or.inr (Or.inr (Or.inr ⟨T, waits, rfl⟩))
    · left
      rcases hsame spawns.fetches with ⟨hrunning, hwaits⟩
      have hlt : g < mid.cache.fetches.length := by
        rw [spawns.fetches]
        exact Cache.lt_of_stage read
      refine ⟨?_, (Cache.waitingFor_setStage _ _ _ _).symm ▸ hwaits⟩
      rw [Cache.isRunning_finish f r hlt]
      simp [hfg, hrunning]
  | @task s U r q x ready turn =>
    left
    cases turn with
    | finished same _ => exact hsame same.fetches
    | asked same _ => exact hsame same.fetches
    | early _ _ => exact ⟨running, waits⟩
    | enlisted same _ hg =>
      have hrunning := (Cache.running?_eq_some_iff.mp hg).2
      exact hwaiting same.fetches (Cache.isRunning_iff.mp hrunning).1
    | @began mid p same _ idle =>
      -- the ledger grows at its end, where `f` is not
      rcases hsame same.fetches with ⟨hf, hwaits⟩
      constructor
      · refine (Cache.isRunning_addWaiting f U).trans ?_
        simp [Cache.isRunning_beginFetch, hf]
      · show T ∈ (mid.cache.beginFetch.addWaiting mid.cache.fetches.length U).waitingFor f
        rw [Cache.waitingFor_addWaiting _ _ _ _ (by simp), Cache.waitingFor_beginFetch]
        split
        · exact List.mem_append_left _ hwaits
        · exact hwaits

/-! ## Every move keeps the session alive -/

theorem Live.step_turns (live : Live s) (move : Move s s') :
    ∀ T r, s'.state.tasks.lookup T = some (.ready r) → .task T ∈ s'.queue := by
  intro T r hready
  cases move.task_move T with
  | kept same =>
    have hbefore := same.symm.trans hready
    rcases move.turn_kept live.told (live.turns T r hbefore) with hkept | hidle
    · exact hkept
    · exact absurd hready (hidle r)
  | started _ _ turn => exact turn
  | cancelled _ _ turn => exact turn
  | answered _ _ turn => exact turn
  | told _ _ _ turn => exact turn
  | released _ _ _ turn _ => exact turn
  | overtaken ready _ queue => exact queue ▸ live.turns T _ ready
  | finished _ _ now | asked _ _ now _ | joined _ _ now _ _ | superseded _ _ _ now _ _ =>
    simp [now] at hready

theorem Live.step_requests (live : Live s) (move : Move s s') :
    ∀ T e, s'.state.tasks.lookup T = some (.waiting (.answer e)) →
      (.task T, e.query s'.state.client.config.pageSize) ∈ s'.state.pending := by
  intro T e hwaiting
  cases move.task_move T with
  | kept same =>
    have hbefore := live.requests T e (same.symm.trans hwaiting)
    rw [move.client]
    rcases move.request_kept hbefore with hkept | hlost
    · exact hkept
    · exact absurd ⟨e, hwaiting⟩ hlost
  | asked _ _ now request =>
    have heq := now.symm.trans hwaiting
    simp only [Option.some.injEq, Task.waiting.injEq, Wait.answer.injEq] at heq
    exact heq ▸ request
  | started _ now _ | cancelled _ now _ | answered _ now _ | told _ _ now _
  | released _ _ now _ _ | overtaken _ now _ | finished _ _ now | joined _ _ now _ _
  | superseded _ _ _ now _ _ => simp [now] at hwaiting

theorem Live.step_stages (live : Live s) (move : Move s s') :
    ∀ f stage, s'.state.cache.stage? f = some stage → s'.Provided f stage := by
  intro f stage hstage
  rcases move.stage_provided hstage with hbefore | hprovided
  · have hprovided := live.stages f stage hbefore
    cases stage with
    | finished r => trivial
    | begun =>
      rcases move.turn_kept live.told hprovided with hkept | hidle
      · exact hkept
      · exact absurd hstage hidle
    | answered p a =>
      rcases move.turn_kept live.told hprovided with hkept | hidle
      · exact hkept
      · exact absurd hstage (hidle p a)
    | asking p =>
      -- a request leaves when it is answered, and then the fetch no longer asks
      show _ ∈ s'.state.pending
      rw [move.client]
      rcases move.request_kept hprovided with hkept | hlost
      · exact hkept
      · exact absurd ⟨p, hstage⟩ hlost
  · exact hprovided

theorem Live.step_told (live : Live s) (flight : Flight s) (move : Move s s') :
    ∀ T f p, s'.state.tasks.lookup T = some (.ready (.fetchEnded f p)) →
      ∃ r, s'.state.cache.outcome? f = some r := by
  intro T f p hready
  have hended : ∃ r, s.state.cache.outcome? f = some r := by
    cases move.task_move T with
    | kept same => exact live.told T f p (same.symm.trans hready)
    | told _ relay now _ =>
      have heq := now.symm.trans hready
      simp only [Option.some.injEq, Task.ready.injEq, Resumption.fetchEnded.injEq] at heq
      rcases heq with ⟨rfl, -⟩
      exact flight.ended _ relay _ rfl
    | started _ now _ | cancelled _ now _ | answered _ now _ | released _ _ now _ _
    | overtaken _ now _ | finished _ _ now | asked _ _ now _ | joined _ _ now _ _
    | superseded _ _ _ now _ _ => simp [now] at hready
  rcases hended with ⟨r, hr⟩
  exact ⟨r, (flight.ledger move).outcome?_kept hr⟩

theorem Live.step_waits (live : Live s) (move : Move s s') :
    ∀ T w f, s'.state.tasks.lookup T = some (.waiting w) → w.fetch? = some f →
      (s'.state.cache.isRunning f = true ∧ T ∈ s'.state.cache.waitingFor f)
        ∨ .relay f T ∈ s'.queue := by
  intro T w f hwaiting hf
  cases move.task_move T with
  | kept same =>
    rcases live.waits T w f (same.symm.trans hwaiting) hf with ⟨hrunning, hwaits⟩ | hrelay
    · exact move.waiter_kept hrunning hwaits
    · rcases move.turn_kept live.told hrelay with hkept | hidle
      · exact Or.inr hkept
      · -- a turn that passes the end on is spent on a task that does not wait for it
        cases w with
        | answer e => cases hf
        | superseded g p =>
          obtain rfl := Option.some.inj hf
          exact absurd hwaiting (hidle p).2
        | fetch g p =>
          obtain rfl := Option.some.inj hf
          exact absurd hwaiting (hidle p).1
  | joined _ _ now running waits =>
    have heq := now.symm.trans hwaiting
    simp only [Option.some.injEq, Task.waiting.injEq] at heq
    subst heq
    obtain rfl := Option.some.inj hf
    exact Or.inl ⟨running, waits⟩
  | superseded _ _ _ now running waits =>
    have heq := now.symm.trans hwaiting
    simp only [Option.some.injEq, Task.waiting.injEq] at heq
    subst heq
    obtain rfl := Option.some.inj hf
    exact Or.inl ⟨running, waits⟩
  | asked _ _ now _ =>
    have heq := now.symm.trans hwaiting
    simp only [Option.some.injEq, Task.waiting.injEq] at heq
    subst heq
    cases hf
  | started _ now _ | cancelled _ now _ | answered _ now _ | told _ _ now _
  | released _ _ now _ _ | overtaken _ now _ | finished _ _ now => simp [now] at hwaiting

/-- Every move leaves everything with what will move it. -/
theorem Live.step (live : Live s) (flight : Flight s) (move : Move s s') : Live s' where
  turns := live.step_turns move
  requests := live.step_requests move
  stages := live.step_stages move
  told := live.step_told flight move
  waits := live.step_waits move

theorem Live.start (client : Client) : Live (start client) where
  turns := by intro T r h; cases h
  requests := by intro T e h; cases h
  stages := by intro f stage h; cases h
  told := by intro T f p h; cases h
  waits := by intro T w f h; cases h

end Session

end LoginVault
