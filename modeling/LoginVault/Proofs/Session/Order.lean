import LoginVault.Proofs.Session.Waiting

/-!
# Session.Order — who comes before whom

Why a caller that insisted on a fresh snapshot gets the very next fetch, whatever happens in
between: the queue grows at its end only, so all who waited for the old fetch take their turns
before the next fetch can have ended. `Ordered` says it turn by turn. There is at most one turn
of a fetch in the queue. While a fetch has a request on its way or an answer to read, no end is
still to be passed on; before it is opened, all ends are passed on; and before it reads its
answer, all released callers take their turns. From this, the fetch that a caller gets is the
next one for everyone who waits for an old one (`Ordered.superseded`).
-/

namespace LoginVault

/-- Whether the turn is one of a fetch. -/
def Turn.isFetch : Turn → Bool
  | .open _ | .page _ => true
  | _ => false

/-- Whether a fetch has a request on its way or an answer to read. -/
def FetchStage.IsUnderWay : FetchStage → Prop
  | .asking _ | .answered _ _ => True
  | _ => False

namespace State

/-- What may stand behind a turn. -/
structure InOrder (s : State) (t u : Turn) : Prop where
  sole : t.isFetch = true → u.isFetch = false
  opens : ∀ f g T, t = .open f → u ≠ .relay g T
  pages : ∀ f T p, t = .page f → u = .task T →
    s.tasks.lookup T ≠ some (.ready (.supersededEnded p))

/-- Anything may stand behind a turn that is not one of a fetch. -/
theorem InOrder.of_not_isFetch {s : State} {t : Turn} (h : t.isFetch = false) (u : Turn) :
    s.InOrder t u where
  sole := by simp [h]
  opens := by rintro f g T rfl; cases h
  pages := by rintro f T p rfl; cases h

end State

namespace Session

open State

variable {s s' : Session}

/-- The order of the queue. -/
structure Ordered (s : Session) : Prop where
  /-- A turn of a fetch has something to do. -/
  busy : ∀ t ∈ s.queue, t.isFetch = true → ¬ s.state.Idle t
  /-- While a fetch is under way no end is still to be passed on. -/
  unrelayed : ∀ f stage, s.state.cache.stage? f = some stage → stage.IsUnderWay →
    ∀ g T, .relay g T ∉ s.queue
  /-- The turns stand in order. -/
  inOrder : s.queue.Pairwise s.state.InOrder
  /-- Who waits for an old fetch gets the next. -/
  superseded : ∀ T f p, s.state.tasks.lookup T = some (.waiting (.superseded f p)) →
    s.state.cache.isRunning f = true ∨ s.state.cache.joined = f + 1

/-! ## Turns of fetches -/

/-- The fetch of a turn is running, and stands where the turn finds something to do. -/
theorem Ordered.running_of_isFetch (ord : Ordered s) {t : Turn} (mem : t ∈ s.queue)
    (h : t.isFetch = true) : ∃ f, s.state.cache.isRunning f = true
      ∧ ((t = .open f ∧ s.state.cache.stage? f = some .begun)
        ∨ (t = .page f ∧ ∃ p a, s.state.cache.stage? f = some (.answered p a))) := by
  have hbusy := ord.busy t mem h
  cases t with
  | «open» f =>
    have hstage : s.state.cache.stage? f = some .begun := Classical.not_not.mp hbusy
    exact ⟨f, Cache.isRunning_of_stage hstage (by simp), Or.inl ⟨rfl, hstage⟩⟩
  | page f =>
    have hstage : ∃ p a, s.state.cache.stage? f = some (.answered p a) := by
      simpa [State.Idle] using hbusy
    rcases hstage with ⟨p, a, hread⟩
    exact ⟨f, Cache.isRunning_of_stage hread (by simp), Or.inr ⟨rfl, p, a, hread⟩⟩
  | _ => cases h

/-- While no fetch is running the queue holds no turn of a fetch. -/
theorem Ordered.no_isFetch_of_idle (ord : Ordered s) (flight : Flight s)
    (idle : s.state.cache.running? = none) : ∀ t ∈ s.queue, t.isFetch = false := by
  intro t mem
  cases h : t.isFetch with
  | false => rfl
  | true =>
    rcases ord.running_of_isFetch mem h with ⟨f, hrunning, -⟩
    rw [flight.running?_eq_some_iff.mpr hrunning] at idle
    cases idle

/-- While a fetch waits for an answer the queue holds no turn of a fetch. -/
theorem Ordered.no_isFetch_of_asking (ord : Ordered s) (flight : Flight s) {f : Nat}
    {p : Paging} (asking : s.state.cache.stage? f = some (.asking p)) :
    ∀ t ∈ s.queue, t.isFetch = false := by
  intro t mem
  cases h : t.isFetch with
  | false => rfl
  | true =>
    rcases ord.running_of_isFetch mem h with ⟨g, hrunning, hg⟩
    obtain rfl := flight.running_unique hrunning (Cache.isRunning_of_stage asking (by simp))
    rcases hg with ⟨-, hbegun⟩ | ⟨-, p', a, hread⟩
    · simp [asking] at hbegun
    · simp [asking] at hread

/-- Behind a turn of a fetch there is none. -/
theorem Ordered.no_isFetch_behind {s : State} {t : Turn} {q : List Turn}
    (ord : Ordered ⟨s, t :: q⟩) (h : t.isFetch = true) : ∀ u ∈ q, u.isFetch = false :=
  fun u hu => ((List.pairwise_cons.mp ord.inOrder).1 u hu).sole h

/-- Whether a turn of a fetch has something to do depends on the stages only. -/
theorem idle_congr {s s' : State} {t : Turn} (h : t.isFetch = true)
    (stage? : ∀ f, s'.cache.stage? f = s.cache.stage? f) (idle : s'.Idle t) : s.Idle t := by
  cases t with
  | «open» f => exact fun hbegun => idle ((stage? f).trans hbegun)
  | page f => exact fun p a hread => idle p a ((stage? f).trans hread)
  | _ => cases h

theorem Ordered.step_busy (ord : Ordered s) (flight : Flight s) (move : Move s s') :
    ∀ t ∈ s'.queue, t.isFetch = true → ¬ s'.state.Idle t := by
  intro t mem h idle
  have hold (stage? : ∀ f, s'.state.cache.stage? f = s.state.cache.stage? f)
      (before : t ∈ s.queue) : False := ord.busy t before h (idle_congr h stage? idle)
  have hnew {u : Turn} {q : List Turn} (hu : u.isFetch = false) (hmem : t ∈ q ++ [u]) : t ∈ q := by
    rcases List.mem_append.mp hmem with hq | hlast
    · exact hq
    · rw [List.mem_singleton.mp hlast, hu] at h
      cases h
  cases move with
  | quiet same => exact hold same.stage? mem
  | overtaken _ | unheard _ _ _ => exact hold (fun _ => rfl) mem
  | spawned _ | cancelled _ | answered _ _ => exact hold (fun _ => rfl) (hnew rfl mem)
  | idle _ => exact hold (fun _ => rfl) (List.mem_cons_of_mem _ mem)
  | settled => exact hold (fun f => (Cache.reads_settle _ _ f).1) (List.mem_cons_of_mem _ mem)
  | told _ | released _ => exact hold (fun _ => rfl) (List.mem_cons_of_mem _ (hnew rfl mem))
  | opened _ | turned _ _ =>
    -- the turn that is taken was the only one of a fetch
    have hnone := ord.no_isFetch_behind rfl t mem
    rw [hnone] at h
    cases h
  | @pageAnswered s q f p a index query request asking =>
    rcases List.mem_append.mp mem with hq | hlast
    · -- a fetch that waits for an answer has no turn yet
      rw [ord.no_isFetch_of_asking flight asking t hq] at h
      cases h
    · obtain rfl := List.mem_singleton.mp hlast
      exact idle p a (by simp [Cache.stage?_setStage, asking])
  | @ended s mid f p a r started q read last spawns =>
    rcases List.mem_append.mp mem with hq | hends
    · rw [ord.no_isFetch_behind rfl t hq] at h
      cases h
    · -- no turn that is added is one of a fetch
      simp only [List.mem_append, List.mem_cons, List.mem_map] at hends
      rcases hends with ⟨T, -, rfl⟩ | rfl | ⟨T, -, rfl⟩ <;> cases h
  | @task s T r q x ready turn =>
    have hbehind {q' : List Turn} (h' : t ∈ q') : t ∈ Turn.task T :: q' := List.mem_cons_of_mem _ h'
    cases turn with
    | finished same _ => exact hold same.stage? (hbehind (by simpa using mem))
    | asked same _ => exact hold same.stage? (hbehind (by simpa [State.ask] using mem))
    | early _ _ => exact hold (fun _ => rfl) (hbehind (by simpa using mem))
    | enlisted same _ _ =>
      refine hold (fun f => ?_) (hbehind (by simpa using mem))
      exact (Cache.stage?_addWaiting _ _ _ _).trans (same.stage? f)
    | @began mid p same _ none =>
      rcases List.mem_append.mp mem with hq | hlast
      · have hidle := ord.no_isFetch_of_idle flight (same.running?.symm.trans none)
        rw [hidle t (hbehind hq)] at h
        cases h
      · obtain rfl : t = .open mid.cache.fetches.length := by simpa using hlast
        refine idle ((Cache.stage?_addWaiting _ _ _ _).trans ?_)
        simp [Cache.stage?_beginFetch]

/-! ## Ends to be passed on -/

/-- A fetch comes under way when it is opened. -/
theorem Move.underWay (move : Move s s') {f : Nat} {stage : FetchStage}
    (h : s'.state.cache.stage? f = some stage) (way : stage.IsUnderWay) :
    (∃ before, s.state.cache.stage? f = some before ∧ before.IsUnderWay)
      ∨ s.queue = .open f :: s'.queue := by
  cases move.fetch_move f with
  | kept same => exact Or.inl ⟨stage, same.symm.trans h, way⟩
  | opened _ _ queue _ => exact Or.inr queue
  | answered before _ _ => exact Or.inl ⟨_, before, trivial⟩
  | turned before _ _ _ => exact Or.inl ⟨_, before, trivial⟩
  | ended before _ _ => exact Or.inl ⟨_, before, trivial⟩
  | begun _ _ now _ =>
    obtain rfl := Option.some.inj (now.symm.trans h)
    exact way.elim

theorem Ordered.step_unrelayed (ord : Ordered s) (flight : Flight s) (move : Move s s') :
    ∀ f stage, s'.state.cache.stage? f = some stage → stage.IsUnderWay →
      ∀ g T, .relay g T ∉ s'.queue := by
  intro f stage h way g T mem
  have hbehind : .relay g T ∈ s.queue := by
    rcases move.endOf? rfl mem with hbefore | ⟨hrunning, r, hr⟩
    · exact hbefore
    · -- the fetch that has just ended was the one that is still under way
      have hnow : s'.state.cache.isRunning f = true :=
        Cache.isRunning_of_stage h (by rintro r rfl; exact way)
      have hbefore : s.state.cache.isRunning f = true ∨ s.queue = .open f :: s'.queue := by
        rcases move.underWay h way with ⟨before, hstage, hway⟩ | hqueue
        · exact Or.inl (Cache.isRunning_of_stage hstage (by rintro r rfl; exact hway))
        · exact Or.inr hqueue
      rcases hbefore with hbefore | hqueue
      · obtain rfl := flight.running_unique hrunning hbefore
        rw [Cache.not_isRunning_of_outcome hr] at hnow
        cases hnow
      · rw [hqueue]
        exact List.mem_cons_of_mem _ mem
  rcases move.underWay h way with ⟨before, hstage, hway⟩ | hqueue
  · exact ord.unrelayed f before hstage hway g T hbehind
  · -- all ends are passed on before the fetch is opened
    have hpairs := ord.inOrder
    rw [hqueue, List.pairwise_cons] at hpairs
    exact (hpairs.1 _ mem).opens f g T rfl rfl

/-- While an end is still to be passed on, no fetch reads its answer. -/
theorem Ordered.no_page_of_relay (ord : Ordered s) {g : Nat} {T : String}
    (relay : .relay g T ∈ s.queue) (f : Nat) : .page f ∉ s.queue := by
  intro mem
  rcases ord.running_of_isFetch mem rfl with ⟨h, -, ⟨hopen, -⟩ | ⟨hpage, p, a, hread⟩⟩
  · cases hopen
  · exact ord.unrelayed h _ hread trivial g T relay

/-! ## The order of the queue -/

/-- What stood in order before a move stands in order after it. -/
theorem Ordered.inOrder_kept (ord : Ordered s) (move : Move s s') {t u : Turn}
    (mem : t ∈ s.queue) (h : s.state.InOrder t u) : s'.state.InOrder t u where
  sole := h.sole
  opens := h.opens
  pages := by
    intro f T p ht hu hready
    cases move.task_move T with
    | kept same => exact h.pages f T p ht hu (same.symm.trans hready)
    | released _ relay _ _ _ => exact ord.no_page_of_relay relay f (ht ▸ mem)
    | started _ now _ | cancelled _ now _ | answered _ now _ | told _ _ now _
    | overtaken _ now _ | finished _ _ now | asked _ _ now _ | joined _ _ now _ _
    | superseded _ _ _ now _ _ => simp [now] at hready

/-- A turn of a task may stand behind all turns, unless it was just released. -/
theorem inOrder_task {s : State} {T : String} {r : Resumption} {t : Turn}
    (now : s.tasks.lookup T = some (.ready r)) (other : ∀ p, r ≠ .supersededEnded p) :
    s.InOrder t (.task T) where
  sole := fun _ => rfl
  opens := by intro f g U _ h; cases h
  pages := by
    rintro f U p - h hready
    cases h
    rw [now] at hready
    exact other p (Task.ready.inj (Option.some.inj hready))

/-- The queue stays in order if what is added may stand behind what is left. -/
theorem Ordered.pairwise_append (ord : Ordered s) (move : Move s s') {left added : List Turn}
    (queue : s'.queue = left ++ added) (sub : left.Sublist s.queue)
    (among : added.Pairwise s'.state.InOrder)
    (behind : ∀ t ∈ left, ∀ u ∈ added, s'.state.InOrder t u) :
    s'.queue.Pairwise s'.state.InOrder := by
  rw [queue, List.pairwise_append]
  refine ⟨?_, among, behind⟩
  have hleft := ord.inOrder.sublist sub
  exact hleft.imp_of_mem fun ht _ h => ord.inOrder_kept move (sub.subset ht) h

theorem Ordered.step_inOrder (ord : Ordered s) (flight : Flight s) (move : Move s s') :
    s'.queue.Pairwise s'.state.InOrder := by
  have hleft (queue : s'.queue.Sublist s.queue) : s'.queue.Pairwise s'.state.InOrder :=
    ord.pairwise_append move (List.append_nil _).symm queue List.Pairwise.nil (by simp)
  have hone {left : List Turn} {u : Turn} (queue : s'.queue = left ++ [u])
      (sub : left.Sublist s.queue) (behind : ∀ t ∈ left, s'.state.InOrder t u) :
      s'.queue.Pairwise s'.state.InOrder :=
    ord.pairwise_append move queue sub (List.pairwise_singleton _ _) (by simpa using behind)
  cases move with
  | quiet _ | overtaken _ | unheard _ _ _ => exact hleft (List.Sublist.refl _)
  | idle _ | settled | opened _ | turned _ _ => exact hleft (List.sublist_cons_self _ _)
  | @spawned s q T c new =>
    exact hone rfl (List.Sublist.refl _) fun t _ =>
      inOrder_task (r := .begin c) (by simp) (by simp)
  | @cancelled s q T w waiting =>
    exact hone rfl (List.Sublist.refl _) fun t _ =>
      inOrder_task (r := .cancelled) (by simp) (by simp)
  | @answered s q T e a index query request waiting =>
    exact hone rfl (List.Sublist.refl _) fun t _ =>
      inOrder_task (r := .answered e a) (by simp) (by simp)
  | @told s f T p q waiting =>
    exact hone rfl (List.sublist_cons_self _ _) fun t _ =>
      inOrder_task (r := .fetchEnded f p) (by simp) (by simp)
  | @released s f T p q waiting =>
    -- while the end was still to be passed on, no turn that reads a page stood in the queue
    refine hone rfl (List.sublist_cons_self _ _) fun t mem => ⟨fun _ => rfl, ?_, ?_⟩
    · intro g h U _ hu
      cases hu
    · rintro g U p' rfl -
      exact absurd (List.mem_cons_of_mem _ mem)
        (ord.no_page_of_relay (List.mem_cons_self (a := Turn.relay f T)) g)
  | @pageAnswered s q f p a index query request asking =>
    exact hone rfl (List.Sublist.refl _) fun t mem =>
      .of_not_isFetch (ord.no_isFetch_of_asking flight asking t mem) _
  | @ended s mid f p a r started q read last spawns =>
    have hadded : ∀ u ∈ started.map Turn.task ++ .settle f :: (s.cache.waitingFor f).map (.relay f),
        u.isFetch = false := by
      intro u hu
      simp only [List.mem_append, List.mem_cons, List.mem_map] at hu
      rcases hu with ⟨T, -, rfl⟩ | rfl | ⟨T, -, rfl⟩ <;> rfl
    refine ord.pairwise_append (.ended read last spawns) rfl (List.sublist_cons_self _ _) ?_ ?_
    · exact List.pairwise_of_forall_mem_list fun t ht u _ => .of_not_isFetch (hadded t ht) u
    · exact fun t ht u _ => .of_not_isFetch (ord.no_isFetch_behind rfl t ht) u
  | @task s T r q x ready turn =>
    cases turn with
    | finished same why => exact hleft (by simp)
    | asked same why => exact hleft (by simp [State.ask])
    | early why unended => exact hleft (by simp)
    | enlisted same why running => exact hleft (by simp)
    | @began mid p same why idle =>
      have hidle := ord.no_isFetch_of_idle flight (same.running?.symm.trans idle)
      exact hone rfl (List.sublist_cons_self _ _) fun t mem =>
        .of_not_isFetch (hidle t (List.mem_cons_of_mem _ mem)) _

/-! ## The fetch that a caller gets -/

/-- The fetch that a caller gets changes only when a fetch ends. -/
theorem Flight.joined_kept (flight : Flight s) (move : Move s s') :
    (s'.state.cache.joined = s.state.cache.joined
        ∧ ∀ f, s.state.cache.isRunning f = true → s'.state.cache.isRunning f = true)
      ∨ ∃ f r, s.state.cache.isRunning f = true ∧ s'.state.cache.outcome? f = some r
        ∧ s.state.cache.joined = f ∧ s'.state.cache.joined = f + 1 := by
  have hflight' := flight.step move
  have hjoined {c : Cache} {f : Nat} (h : c.running? = some f) : c.joined = f := by
    simp [Cache.joined, h]
  cases flight.ledger move with
  | kept stage? length inflight =>
    left
    have hsame : ∀ g, s'.state.cache.isRunning g = s.state.cache.isRunning g :=
      fun g => Cache.isRunning_congr g (stage? g)
    have hrunning : s'.state.cache.running? = s.state.cache.running? := by
      unfold Cache.running?
      rw [inflight, funext hsame]
    exact ⟨by simp [Cache.joined, hrunning, length], fun g hg => (hsame g).trans hg⟩
  | letGo was ended stage? length inflight =>
    left
    have hbefore : s.state.cache.running? = none := by simp [Cache.running?, was, ended]
    have hafter : s'.state.cache.running? = none := by simp [Cache.running?, inflight]
    exact ⟨by simp [Cache.joined, hbefore, hafter, length],
      fun g hg => (Cache.isRunning_congr g (stage? g)).trans hg⟩
  | begun idle stage? length inflight =>
    left
    have hstage : s'.state.cache.stage? s.state.cache.fetches.length = some .begun := by
      simp [stage?]
    have hnow := Cache.isRunning_of_stage hstage (by simp)
    constructor
    · rw [hjoined (hflight'.running?_eq_some_iff.mpr hnow)]
      simp [Cache.joined, idle]
    · intro g hg
      rw [flight.running?_eq_some_iff.mpr hg] at idle
      cases idle
  | @went f stage running stage? length inflight =>
    by_cases hend : ∃ r, stage = .finished r
    · rcases hend with ⟨r, rfl⟩
      right
      -- the ledger keeps its length, so the next to begin comes right after `f`
      have hr : s'.state.cache.outcome? f = some r :=
        Cache.outcome?_eq_some_iff.mpr (by simp [stage?])
      refine ⟨f, r, running, hr, hjoined (flight.running?_eq_some_iff.mpr running), ?_⟩
      have hnone : s'.state.cache.running? = none := by
        simp [Cache.running?, inflight, flight.running f running,
          Cache.not_isRunning_of_outcome hr]
      have hlast := flight.succ_eq_length running
      simp [Cache.joined, hnone, length, hlast]
    · left
      have hstage : s'.state.cache.stage? f = some stage := by simp [stage?]
      have hnow := Cache.isRunning_of_stage hstage fun r hr => hend ⟨r, hr⟩
      constructor
      · rw [hjoined (hflight'.running?_eq_some_iff.mpr hnow),
          hjoined (flight.running?_eq_some_iff.mpr running)]
      · intro g hg
        obtain rfl := flight.running_unique hg running
        exact hnow

/-- A fetch ends when it has read its last answer. -/
theorem Move.answered_of_outcome (move : Move s s') {f : Nat} {r : Except Failure (List Login)}
    (running : s.state.cache.isRunning f = true) (h : s'.state.cache.outcome? f = some r) :
    (∃ p a, s.state.cache.stage? f = some (.answered p a))
      ∧ s.queue.head? = some (.page f) := by
  rw [Cache.outcome?_eq_some_iff] at h
  cases move.fetch_move f with
  | kept same =>
    have hr := Cache.outcome?_eq_some_iff.mpr (same.symm.trans h)
    rw [Cache.not_isRunning_of_outcome hr] at running
    cases running
  | ended before _ head => exact ⟨⟨_, _, before⟩, head⟩
  | begun _ _ now _ | opened _ now _ _ | answered _ now _ | turned _ now _ _ => simp [now] at h

theorem Ordered.step_superseded (ord : Ordered s) (flight : Flight s) (live : Live s)
    (move : Move s s') : ∀ T f p,
      s'.state.tasks.lookup T = some (.waiting (.superseded f p)) →
        s'.state.cache.isRunning f = true ∨ s'.state.cache.joined = f + 1 := by
  intro T f p hwaiting
  cases move.task_move T with
  | kept same =>
    have hbefore := same.symm.trans hwaiting
    rcases flight.joined_kept move with ⟨hjoined, hkept⟩ | ⟨g, r, hg, hr, hjoined, hnext⟩
    · exact (ord.superseded T f p hbefore).imp (hkept f) hjoined.trans
    · -- a fetch ends: if it is a later one, the end of `f` was passed on long ago
      right
      rcases ord.superseded T f p hbefore with hf | hf
      · rw [hnext, flight.running_unique hf hg]
      · rcases move.answered_of_outcome hg hr with ⟨⟨p', a, hread⟩, -⟩
        rcases live.waits T _ f hbefore rfl with ⟨hrunning, -⟩ | hrelay
        · rw [hnext, flight.running_unique hrunning hg]
        · exact absurd hrelay (ord.unrelayed g _ hread trivial f T)
  | superseded _ _ _ now running _ =>
    have heq := now.symm.trans hwaiting
    simp only [Option.some.injEq, Task.waiting.injEq, Wait.superseded.injEq] at heq
    exact Or.inl (heq.1 ▸ running)
  | started _ now _ | cancelled _ now _ | answered _ now _ | told _ _ now _
  | released _ _ now _ _ | overtaken _ now _ | finished _ _ now | asked _ _ now _
  | joined _ _ now _ _ => simp [now] at hwaiting

theorem Ordered.step (ord : Ordered s) (flight : Flight s) (live : Live s) (move : Move s s') :
    Ordered s' where
  busy := ord.step_busy flight move
  unrelayed := ord.step_unrelayed flight move
  inOrder := ord.step_inOrder flight move
  superseded := ord.step_superseded flight live move

theorem Ordered.start (client : Client) : Ordered (start client) where
  busy := by intro t h; cases h
  unrelayed := by intro f stage h; cases h
  inOrder := List.Pairwise.nil
  superseded := by intro T f p h; cases h

/-! ## The invariant of sessions -/

/-- What holds of every reachable session. -/
structure Inv (s : Session) : Prop where
  flight : Flight s
  live : Live s
  ordered : Ordered s

theorem Inv.step (inv : Inv s) (move : Move s s') : Inv s' where
  flight := inv.flight.step move
  live := inv.live.step inv.flight move
  ordered := inv.ordered.step inv.flight inv.live move

theorem Inv.run (inv : Inv s) (inputs : List Input) : Inv (s.run inputs) :=
  run_keeps_of_moves (fun move inv => inv.step move) inv inputs

/-- What every move keeps where the invariant holds, every schedule keeps. -/
theorem Inv.run_keeps {P : Session → Prop} (inv : Inv s)
    (step : ∀ {s s'}, Inv s → Move s s' → P s → P s') (h : P s) (inputs : List Input) :
    P (s.run inputs) :=
  (run_keeps_of_moves (P := fun s => Inv s ∧ P s)
    (fun move h => ⟨h.1.step move, step h.1 move h.2⟩) ⟨inv, h⟩ inputs).2

/-- An outcome stays in the ledger through every schedule. -/
theorem Inv.outcome?_run (inv : Inv s) {f : Nat} {r : Except Failure (List Login)}
    (h : s.state.cache.outcome? f = some r) (inputs : List Input) :
    (s.run inputs).state.cache.outcome? f = some r :=
  inv.run_keeps (P := fun s => s.state.cache.outcome? f = some r)
    (fun inv move h => (inv.flight.ledger move).outcome?_kept h) h inputs

/-- The invariant holds of every reachable session. -/
theorem reached_inv (client : Client) (inputs : List Input) : Inv (reached client inputs) :=
  Inv.run ⟨.start client, .start client, .start client⟩ inputs

end Session

end LoginVault
