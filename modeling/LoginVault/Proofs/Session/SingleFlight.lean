import LoginVault.Proofs.Session.Callers

/-!
# Session.SingleFlight — callers share one fetch

Under every interleaving at most one fetch is unfinished, and it is the one in flight. Who calls
for a snapshot meanwhile, and does not insist on a fresh one, joins it: nothing is begun and
nothing is asked on behalf of the caller. All who wait for one fetch finish as it ended.

Main result: `reached_singleFlight`.
-/

namespace LoginVault.Session

open State

/-- What callers of the cache rely on in a session, from now on. -/
structure SingleFlight (s : Session) : Prop where
  /-- A fetch that is unfinished is the one in flight, and there is no other. -/
  sole : ∀ f, s.state.cache.isRunning f = true → s.state.cache.inflight = some f
    ∧ ∀ g, s.state.cache.isRunning g = true → g = f
  /-- The cache is loading as long as a fetch is unfinished. -/
  loading : s.state.cache.isLoading = true ↔ ∃ f, s.state.cache.isRunning f = true
  /-- When the cache lets go of a fetch while another is unfinished, that other is a later one
  and stays in flight. -/
  held : ∀ g rest, s.queue = .settle g :: rest → ∀ f, s.state.cache.isRunning f = true →
    g < f ∧ (s.advance .turn).state.cache.inflight = some f
      ∧ (s.advance .turn).state.cache.isRunning f = true
  /-- Who waits for a fetch after its turn has called for a snapshot in it, or had called for a
  fresh one and was released from an older fetch. -/
  callers : ∀ T rest r, s.queue = .task T :: rest →
    s.state.tasks.lookup T = some (.ready r) → ∀ w f,
    (s.advance .turn).state.tasks.lookup T = some (.waiting w) → w.fetch? = some f →
      (∃ fresh p, s.state.Calls T fresh p) ∨ ∃ p, r = .supersededEnded p
  /-- A call that does not insist on a fresh snapshot joins the unfinished fetch. Its turn begins
  no fetch, asks nothing and leaves no further turn. -/
  joins : ∀ T rest p f, s.queue = .task T :: rest → s.state.Calls T false p →
    s.state.cache.isRunning f = true →
    (s.advance .turn).state.tasks.lookup T = some (.waiting (.fetch f p))
      ∧ (s.advance .turn).queue = rest
      ∧ (s.advance .turn).state.pending = s.state.pending
      ∧ (s.advance .turn).state.cache.fetches.length = s.state.cache.fetches.length
  /-- Nor does any later turn of a task that waits for a fetch begin one. -/
  content : ∀ T f p, s.state.tasks.lookup T = some (.waiting (.fetch f p)) →
    ∀ later rest, (s.run later).queue = .task T :: rest →
      ((s.run later).advance .turn).state.cache.fetches.length
        = (s.run later).state.cache.fetches.length
  /-- A task that waits for a fetch finishes as the fetch ended, or it was cancelled. -/
  shares : ∀ T f p, s.state.tasks.lookup T = some (.waiting (.fetch f p)) →
    ∀ later o, (s.run later).state.tasks.lookup T = some (.finished o) →
      o = .cancelled ∨ ∃ r, (s.run later).state.cache.outcome? f = some r ∧ p.Ends r o
  /-- It is finished when the fetch has ended and no turn is left. -/
  finishes : ∀ T f p, s.state.tasks.lookup T = some (.waiting (.fetch f p)) →
    ∀ later r, (s.run later).state.cache.outcome? f = some r → (s.run later).queue = [] →
      ∃ o, (s.run later).state.tasks.lookup T = some (.finished o)
  /-- Two tasks that wait for the outcome of one fetch, whenever each began to wait, finish with
  the same snapshot or the same failure, unless one was cancelled. -/
  agree : ∀ T U f between, s.state.tasks.lookup T = some (.waiting (.fetch f .outcome)) →
    (s.run between).state.tasks.lookup U = some (.waiting (.fetch f .outcome)) →
    ∀ later o o', ((s.run between).run later).state.tasks.lookup T = some (.finished o) →
      ((s.run between).run later).state.tasks.lookup U = some (.finished o') →
      o ≠ .cancelled → o' ≠ .cancelled → o = o'

variable {s : Session}

/-- Who asked for the outcome of a fetch gets it. -/
theorem ends_outcome {r : Except Failure (List Login)} {o : Outcome}
    (h : Purpose.outcome.Ends r o) : o = listOutcome r := by
  cases r with
  | ok logins => exact h
  | error f => cases f <;> exact h

theorem Inv.loading_iff (inv : Inv s) :
    s.state.cache.isLoading = true ↔ ∃ f, s.state.cache.isRunning f = true := by
  rw [Cache.isLoading, Option.isSome_iff_exists]
  exact exists_congr fun f => inv.flight.running?_eq_some_iff

theorem Inv.held (inv : Inv s) {g : Nat} {rest : List Turn} (queue : s.queue = .settle g :: rest)
    {f : Nat} (running : s.state.cache.isRunning f = true) :
    g < f ∧ (s.advance .turn).state.cache.inflight = some f
      ∧ (s.advance .turn).state.cache.isRunning f = true := by
  rcases s with ⟨state, q⟩
  obtain rfl : q = .settle g :: rest := queue
  rcases inv.flight.ended (.settle g) List.mem_cons_self g rfl with ⟨r, hr⟩
  have hinflight := inv.flight.running f running
  have hlast : f + 1 = state.cache.fetches.length := inv.flight.last f hinflight
  have hlt := Cache.lt_of_stage (Cache.outcome?_eq_some_iff.mp hr)
  have hne : g ≠ f := by
    rintro rfl
    rw [Cache.not_isRunning_of_outcome hr] at running
    cases running
  -- the fetch in flight is not the one that is let go of
  have hkept : state.cache.settle g = state.cache := by
    have hother : state.cache.inflight ≠ some g := by
      rw [hinflight]
      simpa using Ne.symm hne
    simp [Cache.settle, hother]
  simp only at hlt
  refine ⟨by omega, ?_, ?_⟩
  · rw [advance_turn_cons]
    simpa [State.take, hkept] using hinflight
  · rw [advance_turn_cons]
    simpa [State.take, hkept] using running

theorem calls_or_released {T : String} {rest : List Turn} {r : Resumption} {w : Wait} {f : Nat}
    (queue : s.queue = .task T :: rest) (ready : s.state.tasks.lookup T = some (.ready r))
    (waits : (s.advance .turn).state.tasks.lookup T = some (.waiting w))
    (fetch : w.fetch? = some f) :
    (∃ fresh p, s.state.Calls T fresh p) ∨ ∃ p, r = .supersededEnded p := by
  rcases s with ⟨state, q⟩
  obtain rfl : q = .task T :: rest := queue
  rw [advance_turn_cons] at waits
  rcases calls_or_unattached ready with calls | released | unattached
  · exact Or.inl calls
  · exact Or.inr released
  · exact absurd fetch (unattached w f waits)

theorem Inv.joins (inv : Inv s) {T : String} {rest : List Turn} {p : Purpose} {f : Nat}
    (queue : s.queue = .task T :: rest) (calls : s.state.Calls T false p)
    (running : s.state.cache.isRunning f = true) :
    (s.advance .turn).state.tasks.lookup T = some (.waiting (.fetch f p))
      ∧ (s.advance .turn).queue = rest
      ∧ (s.advance .turn).state.pending = s.state.pending
      ∧ (s.advance .turn).state.cache.fetches.length = s.state.cache.fetches.length := by
  have hrunning := inv.flight.running?_eq_some_iff.mpr running
  rcases s with ⟨state, q⟩
  obtain rfl : q = .task T :: rest := queue
  rcases calls.joins hrunning with ⟨hopened, hpending, hlength⟩
  have hjoined : state.cache.joined = f := by
    simp only at hrunning
    simp [Cache.joined, hrunning]
  have hwaits := calls.follows
  simp only at hwaits
  rw [hjoined] at hwaits
  rw [advance_turn_cons]
  refine ⟨hwaits, ?_, hpending, hlength⟩
  simp only at hopened
  simp [State.take, hopened]

theorem Inv.content (inv : Inv s) {T : String} {f : Nat} {p : Purpose}
    (h : s.state.Follows T f p) {rest : List Turn} (queue : s.queue = .task T :: rest) :
    (s.advance .turn).state.cache.fetches.length = s.state.cache.fetches.length := by
  rcases s with ⟨state, q⟩
  obtain rfl : q = .task T :: rest := queue
  exact h.begins_nothing

/-- Under every interleaving callers share one fetch at a time. -/
theorem reached_singleFlight (client : Client) (inputs : List Input) :
    SingleFlight (reached client inputs) := by
  have inv := reached_inv client inputs
  exact {
    sole := fun f hf => ⟨inv.flight.running f hf, fun g hg => inv.flight.running_unique hg hf⟩
    loading := inv.loading_iff
    held := fun g rest queue f running => inv.held queue running
    callers := fun T rest r queue ready w f waits fetch => calls_or_released queue ready waits fetch
    joins := fun T rest p f queue calls running => inv.joins queue calls running
    content := by
      intro T f p now later rest queue
      exact (inv.run later).content (inv.run_follows (.waits now) later) queue
    shares := by
      intro T f p now later o finished
      exact (inv.run_follows (.waits now) later).outcome finished
    finishes := by
      intro T f p now later r hr rest
      have hfollows := inv.run_follows (.waits now) later
      rcases (inv.run later).finished_or_running rest hfollows with hfinished | hrunning
      · exact hfinished
      · rw [Cache.not_isRunning_of_outcome hr] at hrunning
        cases hrunning
    agree := by
      intro T U f between nowT nowU later o o' finT finU uncancelledT uncancelledU
      have hT := (inv.run between).run_follows (inv.run_follows (.waits nowT) between) later
      have hU := (inv.run between).run_follows (.waits nowU) later
      rcases (hT.outcome finT).resolve_left uncancelledT with ⟨r, hr, hends⟩
      rcases (hU.outcome finU).resolve_left uncancelledU with ⟨r', hr', hends'⟩
      obtain rfl : r = r' := Option.some.inj (hr.symm.trans hr')
      rw [ends_outcome hends, ends_outcome hends'] }

/-- Two callers that come before the fetch is opened finish with the same failure. -/
theorem reached_singleFlight_of_two :
    let client : Client := ⟨⟨"http://localhost:3625", .whole 30, 100, by decide⟩, ""⟩
    let joined : List Input := [.event (.spawn "first" (.revalidate false)),
      .event (.spawn "second" (.revalidate false)), .turn, .turn]
    let later := .turn :: .event (.respond 0 (.fault (.network .connecting "lost")))
      :: List.replicate 6 .turn
    let ended : Task := .finished (.raised (.store (.transport
      ⟨.page none 100 0, .network .connecting "lost"⟩)))
    SingleFlight (reached client joined)
      ∧ (reached client joined).state.cache.isRunning 0 = true
      ∧ ((reached client joined).run later).state.tasks.lookup "first" = some ended
      ∧ ((reached client joined).run later).state.tasks.lookup "second" = some ended :=
  ⟨reached_singleFlight _ _, rfl, rfl, rfl⟩

end LoginVault.Session
