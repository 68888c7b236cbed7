import LoginVault.Proofs.Session.Callers
import LoginVault.Proofs.Session.Requests

/-!
# Session.Rest — when no turn is left

Turns run out, whatever came from outside, and then nobody is left hanging. Each task is finished
or waits for a request that is pending: the only one of its own, or the only one of the fetch in
flight (`State.WaitsOutside`). So the only thing that can be missing is an answer from outside:
with no request pending all tasks are finished and nothing is loading.

Main result: `reached_unstranded`.
-/

namespace LoginVault

/-- A wait that an answer from outside ends: that to the only request of the task, or that to the
only request of the fetch in flight, which keeps the task in its ledger. -/
inductive State.WaitsOutside (s : State) (T : String) : Wait → Prop
  | own {e : Errand} (request : (.task T, e.query s.client.config.pageSize) ∈ s.pending)
      (sole : s.requestsOf (.task T) = 1) : WaitsOutside s T (.answer e)
  | shared {w : Wait} {f : Nat} {q : Query} (fetch : w.fetch? = some f)
      (inflight : s.cache.inflight = some f) (running : s.cache.isRunning f = true)
      (waits : T ∈ s.cache.waitingFor f) (request : (.fetch f, q) ∈ s.pending)
      (sole : s.requestsOf (.fetch f) = 1) : WaitsOutside s T w

namespace Session

open State

variable {s s' : Session}

/-- No turn can be taken exactly if none is left. -/
theorem tick_eq_none_iff : s.tick = none ↔ s.queue = [] := by
  unfold tick
  cases s.queue with
  | nil => simp
  | cons t rest => simp

/-- Taking all turns leaves none, so turns run out. -/
theorem turns_run_out (s : Session) : ∃ n, (s.run (List.replicate n .turn)).tick = none := by
  rcases settle_eq_run s.state s.queue with ⟨n, hn⟩
  refine ⟨n, tick_eq_none_iff.mpr ?_⟩
  rw [← hn]
  rfl

/-! ## Tasks are never lost -/

/-- A name that is in use stays in use. -/
theorem TaskMove.used {T : String} (move : TaskMove s s' T)
    (used : s.state.tasks.lookup T ≠ none) : s'.state.tasks.lookup T ≠ none := by
  cases move with
  | kept same => rwa [same]
  | started _ now _ | overtaken _ now _ | cancelled _ now _ | answered _ now _ | told _ _ now _
  | released _ _ now _ _ | finished _ _ now | asked _ _ now _ | joined _ _ now _ _
  | superseded _ _ _ now _ _ => simp [now]

theorem run_used {T : String} (used : s.state.tasks.lookup T ≠ none) (inputs : List Input) :
    (s.run inputs).state.tasks.lookup T ≠ none :=
  run_keeps_of_moves (P := fun s => s.state.tasks.lookup T ≠ none)
    (fun move used => (move.task_move T).used used) used inputs

/-- Starting a task puts its name to use, if it was not in use. -/
theorem spawned_used (s : Session) (T : String) (c : Call) :
    (s.advance (.event (.spawn T c))).state.tasks.lookup T ≠ none := by
  show (s.state.spawn T c).1.tasks.lookup T ≠ none
  unfold State.spawn
  cases h : s.state.tasks.lookup T with
  | none => simp
  | some t => simp [h]

/-! ## At rest -/

/-- When no turn is left, a running fetch is the one in flight and waits for the answer to its
only request. -/
theorem Inv.request_of_running (inv : Inv s) (acc : ∀ o, s.state.Accounts o) (rest : s.queue = [])
    {f : Nat} (running : s.state.cache.isRunning f = true) :
    s.state.cache.inflight = some f ∧ (∃ q, (.fetch f, q) ∈ s.state.pending)
      ∧ s.state.requestsOf (.fetch f) = 1 := by
  rcases inv.asking_of_running rest running with ⟨q, hq⟩
  refine ⟨inv.flight.running f running, ⟨q, hq⟩, ?_⟩
  rcases acc (.fetch f) with ⟨-, one⟩ | ⟨none, -⟩
  · exact one
  · exact absurd ((acc (.fetch f)).of_mem hq) none

/-- When no turn is left, a task is finished or waits for an answer from outside. -/
theorem Inv.finished_or_waitsOutside (inv : Inv s) (acc : ∀ o, s.state.Accounts o)
    (rest : s.queue = []) {T : String} {t : Task} (used : s.state.tasks.lookup T = some t) :
    (∃ o, t = .finished o) ∨ ∃ w, t = .waiting w ∧ s.state.WaitsOutside T w := by
  cases t with
  | finished o => exact Or.inl ⟨o, rfl⟩
  | ready r => exact absurd used (inv.not_ready rest r)
  | waiting w =>
    refine Or.inr ⟨w, rfl, ?_⟩
    -- whoever waits for a fetch waits for the request of this fetch, which then runs
    have hshared {f : Nat} (hf : w.fetch? = some f) : s.state.WaitsOutside T w := by
      have hrunning := inv.running_of_waiting rest used hf
      rcases inv.request_of_running acc rest hrunning with ⟨hinflight, ⟨q, hq⟩, hsole⟩
      have hwaits : T ∈ s.state.cache.waitingFor f := by
        rcases inv.live.waits T w f used hf with ⟨-, waits⟩ | relay
        · exact waits
        · simp [rest] at relay
      exact .shared hf hinflight hrunning hwaits hq hsole
    cases w with
    | fetch f p => exact hshared rfl
    | superseded f p => exact hshared rfl
    | answer e =>
      refine .own (inv.live.requests T e used) ?_
      rcases acc (.task T) with ⟨-, one⟩ | ⟨none, -⟩
      · exact one
      · exact absurd ⟨e, used⟩ none

/-- What nobody who uses a session has to fear: to be left hanging. -/
structure Unstranded (s : Session) : Prop where
  /-- Turns run out, so every session comes to rest by itself. -/
  settles : ∃ n, (s.run (List.replicate n .turn)).tick = none
  /-- A task that is started is never lost. -/
  kept : ∀ T c later, ∃ t,
    ((s.advance (.event (.spawn T c))).run later).state.tasks.lookup T = some t
  /-- At rest every task is finished or waits for an answer from outside. -/
  waits : s.tick = none → ∀ T t, s.state.tasks.lookup T = some t →
    (∃ o, t = .finished o) ∨ ∃ w, t = .waiting w ∧ s.state.WaitsOutside T w
  /-- At rest the cache is loading only if the fetch in flight waits for an answer. -/
  loads : s.tick = none → s.state.cache.isLoading = true →
    ∃ f q, s.state.cache.inflight = some f ∧ (.fetch f, q) ∈ s.state.pending
  /-- With no request pending all is done. -/
  done : s.tick = none → s.state.pending = [] →
    (∀ T t, s.state.tasks.lookup T = some t → ∃ o, t = .finished o)
      ∧ s.state.cache.isLoading = false

/-- Under every interleaving nobody is left hanging. -/
theorem reached_unstranded (client : Client) (inputs : List Input) :
    Unstranded (reached client inputs) := by
  have inv := reached_inv client inputs
  have acc := reached_accounts client inputs
  have hloads (rest : (reached client inputs).tick = none)
      (loading : (reached client inputs).state.cache.isLoading = true) :
      ∃ f q, (reached client inputs).state.cache.inflight = some f
        ∧ (.fetch f, q) ∈ (reached client inputs).state.pending := by
    rcases Option.isSome_iff_exists.mp loading with ⟨f, hf⟩
    have hrunning := inv.flight.running?_eq_some_iff.mp hf
    rcases inv.request_of_running acc (tick_eq_none_iff.mp rest) hrunning with ⟨hinflight, ⟨q, hq⟩, -⟩
    exact ⟨f, q, hinflight, hq⟩
  exact {
    settles := turns_run_out _
    kept := fun T c later => Option.ne_none_iff_exists'.mp (run_used (spawned_used _ T c) later)
    waits := fun rest T t used => inv.finished_or_waitsOutside acc (tick_eq_none_iff.mp rest) used
    loads := hloads
    done := by
      intro rest nothing
      constructor
      · intro T t used
        rcases inv.finished_or_waitsOutside acc (tick_eq_none_iff.mp rest) used with
          finished | ⟨w, -, outside⟩
        · exact finished
        · cases outside with
          | own request _ => simp [nothing] at request
          | shared _ _ _ _ request _ => simp [nothing] at request
      · cases loading : (reached client inputs).state.cache.isLoading with
        | false => rfl
        | true =>
          rcases hloads rest loading with ⟨f, q, -, hq⟩
          simp [nothing] at hq }

/-- The fetch that a fresh caller waits for fails after the task that began it was cancelled: the
caller then waits for the request of the next fetch, and is done when this fails as well. -/
theorem reached_unstranded_after_failures :
    let client : Client := ⟨⟨"http://localhost:3625", .whole 30, 100, by decide⟩, ""⟩
    let lost : Input := .event (.respond 0 (.fault (.network .connecting "lost")))
    let first : List Input := [.event (.spawn "stale" (.revalidate false)), .turn, .turn,
      .event (.spawn "fresh" (.revalidate true)), .turn, .event (.cancel "stale"), .turn, lost]
      ++ List.replicate 6 .turn
    let second := lost :: List.replicate 4 .turn
    Unstranded (reached client first)
      ∧ (reached client first).tick = none
      ∧ (reached client first).state.tasks.lookup "fresh" = some (.waiting (.fetch 1 .outcome))
      ∧ (reached client first).state.pending = [(.fetch 1, .page none 100 0)]
      ∧ (reached client (first ++ second)).tick = none
      ∧ (reached client (first ++ second)).state.pending = [] :=
  ⟨reached_unstranded _ _, rfl, rfl, rfl, rfl, rfl⟩

end Session

end LoginVault
