import LoginVault.Proofs.Session.Order

/-!
# Session.Provenance — where the snapshot comes from

The snapshot is what the latest fetch that succeeded has read, as a whole, and empty until one
has succeeded. The only input that replaces it is the turn in which a fetch reads its last page
(`SnapshotMove`). What a fetch does that comes to fail is noticed by nobody (`State.Unnoticed`).

Main result: `reached_provenance`.
-/

namespace LoginVault

open State

/-- The fetch of a turn. -/
def Turn.fetch? : Turn → Option Nat
  | .task _ => none
  | .open f => some f
  | .page f => some f
  | .settle f => some f
  | .relay f _ => some f

/-- The snapshot, the followers and all that is shown are what they were. Nobody was told of
anything, but queries may have been sent. -/
structure State.Unnoticed (s s' : State) : Prop where
  snapshot : s'.cache.snapshot = s.cache.snapshot
  subscribers : s'.cache.subscribers = s.cache.subscribers
  callbacks : s'.callbacks = s.callbacks
  views : s'.views = s.views
  journal : ∃ queries : List Query, s'.journal = s.journal ++ queries.map .sent

theorem State.Unnoticed.quietly {s s' : State} (snapshot : s'.cache.snapshot = s.cache.snapshot)
    (subscribers : s'.cache.subscribers = s.cache.subscribers)
    (callbacks : s'.callbacks = s.callbacks) (views : s'.views = s.views)
    (journal : s'.journal = s.journal) : Unnoticed s s' :=
  ⟨snapshot, subscribers, callbacks, views, [], by simp [journal]⟩

theorem State.Unnoticed.refl (s : State) : Unnoticed s s := .quietly rfl rfl rfl rfl rfl

/-- Asking for a page is noticed by nobody. -/
theorem State.askPage_unnoticed (s : State) (f : Nat) (p : Paging) : Unnoticed s (s.askPage f p) :=
  ⟨rfl, rfl, rfl, rfl, [p.query s.client.config.pageSize], rfl⟩

namespace Session

variable {s s' : Session}

/-! ## What replaces the snapshot -/

/-- All that a move can do to the snapshot: it stays, and no fetch succeeds; or a fetch succeeds
in reading its last page, and the snapshot is what it has read. -/
inductive SnapshotMove (s s' : Session) : Prop
  | kept (snapshot : s'.state.cache.snapshot = s.state.cache.snapshot)
      (successes : ∀ g rows, s'.state.cache.outcome? g = some (.ok rows) →
        s.state.cache.outcome? g = some (.ok rows))
  | replaced {f : Nat} {rows : List Login} (head : s.queue.head? = some (.page f))
      (running : s.state.cache.isRunning f = true)
      (now : s'.state.cache.outcome? f = some (.ok rows))
      (others : ∀ g, g ≠ f → s'.state.cache.outcome? g = s.state.cache.outcome? g)
      (snapshot : s'.state.cache.snapshot = rows)

theorem Move.snapshot_move (move : Move s s') : SnapshotMove s s' := by
  have hkept (snapshot : s'.state.cache.snapshot = s.state.cache.snapshot)
      (outcomes : ∀ g, s'.state.cache.outcome? g = s.state.cache.outcome? g) :
      SnapshotMove s s' := .kept snapshot fun g rows h => (outcomes g).symm.trans h
  cases move with
  | quiet same => exact hkept same.snapshot same.outcome?
  | spawned _ | overtaken _ | cancelled _ | answered _ _ | unheard _ _ _ | idle _ | told _
  | released _ => exact hkept rfl fun _ => rfl
  | pageAnswered _ asking =>
    exact hkept rfl fun g =>
      Cache.outcome?_setStage g (Cache.isRunning_of_stage asking (by simp)) (by simp)
  | opened begun =>
    exact hkept rfl fun g =>
      Cache.outcome?_setStage g (Cache.isRunning_of_stage begun (by simp)) (by simp)
  | turned read _ =>
    exact hkept rfl fun g =>
      Cache.outcome?_setStage g (Cache.isRunning_of_stage read (by simp)) (by simp)
  | settled => exact hkept (Cache.snapshot_settle _ _) fun g => (Cache.reads_settle _ _ g).2.1
  | task ready turn =>
    cases turn with
    | finished same _ => exact hkept same.snapshot same.outcome?
    | asked same _ => exact hkept same.snapshot same.outcome?
    | early _ _ => exact hkept rfl fun _ => rfl
    | enlisted same _ _ =>
      exact hkept same.snapshot fun g => (Cache.outcome?_addWaiting g _).trans (same.outcome? g)
    | began same _ _ =>
      -- the fetch that begins has no outcome
      exact hkept same.snapshot fun g =>
        ((Cache.outcome?_addWaiting g _).trans (Cache.outcome?_beginFetch g)).trans
          (same.outcome? g)
  | @ended s mid f p a r started q read last spawns =>
    have hlt : f < mid.cache.fetches.length := by
      rw [spawns.fetches]
      exact Cache.lt_of_stage read
    have hothers (g : Nat) (hg : g ≠ f) :
        (mid.cache.setStage f (.finished r)).outcome? g = s.cache.outcome? g := by
      rw [Cache.outcome?_finish g r hlt, if_neg hg]
      exact (Cache.reads_congr spawns.fetches g).2.1
    have hnow : (mid.cache.setStage f (.finished r)).outcome? f = some r := by
      rw [Cache.outcome?_finish f r hlt, if_pos rfl]
    cases r with
    | ok rows =>
      -- callbacks that were told of the rows changed no snapshot
      exact .replaced rfl (Cache.isRunning_of_stage read (by simp)) hnow hothers spawns.snapshot
    | error e =>
      refine .kept spawns.snapshot fun g rows h => ?_
      by_cases hg : g = f
      · subst hg
        rw [hnow] at h
        cases h
      · exact (hothers g hg).symm.trans h

/-- No event changes the snapshot. -/
theorem apply_snapshot (s : Session) (e : Event) :
    (s.apply e).1.state.cache.snapshot = s.state.cache.snapshot := by
  rcases s with ⟨s, q⟩
  have hsame {s' : State} (same : SameWork s s') : s'.cache.snapshot = s.cache.snapshot :=
    same.snapshot
  cases e with
  | spawn T c => exact (s.spawn_spawns T c).snapshot
  | cancel T =>
    simp only [apply, State.apply, State.cancel]
    split <;> rfl
  | respond index a =>
    simp only [apply, State.apply, State.respond]
    split
    · rfl
    · split
      · split <;> rfl
      · split <;> rfl
  | subscribe callback actions => exact hsame (s.subscribe_sameWork _ _)
  | unsubscribe callback actions => exact hsame (s.unsubscribe_sameWork _ _)
  | newView view observer => rfl
  | unmount view => exact hsame (s.unmount_sameWork view)
  | setFilter view filter => exact hsame (s.change_sameWork view _)
  | openForm view => exact hsame (s.changeForm_sameWork view _)
  | closeForm view => exact hsame (s.changeForm_sameWork view _)
  | setOrder view order =>
    simp only [apply, State.apply]
    split
    · exact hsame (s.change_sameWork view _)
    · exact hsame (s.change_sameWork view _)
    · rfl

/-! ## The snapshot of a session -/

/-- What the snapshot of a session is. -/
structure Sourced (s : Session) : Prop where
  /-- The snapshot is empty until a fetch has succeeded. -/
  empty : (∀ f rows, s.state.cache.outcome? f ≠ some (.ok rows)) → s.state.cache.snapshot = []
  /-- It is all that the latest fetch has read that has succeeded. -/
  latest : ∀ f rows, s.state.cache.outcome? f = some (.ok rows) →
    (∀ g more, f < g → s.state.cache.outcome? g ≠ some (.ok more)) →
    s.state.cache.snapshot = rows

theorem Sourced.step (sourced : Sourced s) (inv : Inv s) (move : Move s s') : Sourced s' := by
  have hstays {g : Nat} {rows : List Login} (h : s.state.cache.outcome? g = some (.ok rows)) :
      s'.state.cache.outcome? g = some (.ok rows) := (inv.flight.ledger move).outcome?_kept h
  cases move.snapshot_move with
  | kept snapshot successes =>
    constructor
    · intro none
      rw [snapshot]
      exact sourced.empty fun g rows h => none g rows (hstays h)
    · intro f rows hf hlatest
      rw [snapshot]
      exact sourced.latest f rows (successes f rows hf) fun g more hg h => hlatest g more hg (hstays h)
  | @replaced f rows head running now others snapshot =>
    constructor
    · intro none
      exact absurd now (none f rows)
    · -- the fetch that has just ended is the last of the ledger, so no other is later
      intro g more hg hlatest
      rcases Nat.lt_trichotomy g f with hlt | heq | hgt
      · exact absurd now (hlatest f rows hlt)
      · subst heq
        obtain rfl : rows = more := by simpa using now.symm.trans hg
        exact snapshot
      · rw [others g (Nat.ne_of_gt hgt), Cache.outcome?_eq_some_iff] at hg
        have hlt := Cache.lt_of_stage hg
        have hlast := inv.flight.succ_eq_length running
        omega

theorem reached_sourced (client : Client) (inputs : List Input) :
    Sourced (reached client inputs) := by
  refine (reached_inv client []).run_keeps (fun inv move h => h.step inv move) ?_ inputs
  exact ⟨fun _ => rfl, fun f rows h => nomatch h⟩

/-! ## A fetch that fails -/

/-- Whether the input works on a fetch: it answers a request of the fetch, or is a turn of it. -/
inductive WorksOn (s : Session) (f : Nat) : Input → Prop
  | answer {index : Nat} {a : Answer} {q : Query}
      (request : s.state.pending[index]? = some (.fetch f, q)) :
      WorksOn s f (.event (.respond index a))
  | turn {t : Turn} {rest : List Turn} (queue : s.queue = t :: rest) (ofFetch : t.fetch? = some f) :
      WorksOn s f .turn

/-- Reading a page is noticed by nobody, unless the fetch succeeds. -/
theorem readFetch_unnoticed (s : State) (f : Nat) :
    Unnoticed s (s.readFetch f).1
      ∨ ∃ rows, (s.readFetch f).1.cache.outcome? f = some (.ok rows) := by
  unfold readFetch
  split
  · rename_i p a waiting hf
    cases hadvance : p.advance s.client.config.pageSize a with
    | error e => exact Or.inl (.quietly rfl rfl rfl rfl rfl)
    | ok progress =>
      cases progress with
      | more next => exact Or.inl (s.askPage_unnoticed f next)
      | complete rows =>
        right
        have hspawns : Spawns (s.withSnapshot rows) (s.replaceSnapshot rows).1
            (s.replaceSnapshot rows).2 := tellAll_spawns _ _
        have hlt : f < (s.replaceSnapshot rows).1.cache.fetches.length := by
          rw [hspawns.fetches]
          exact (List.getElem?_eq_some_iff.mp hf).1
        exact ⟨rows, by simp [Cache.outcome?_finish f _ hlt]⟩
  · exact Or.inl (.refl s)

/-- What works on a fetch that has not succeeded is noticed by nobody. -/
theorem WorksOn.unnoticed {f : Nat} {i : Input} (works : s.WorksOn f i)
    (failing : ∀ rows, (s.advance i).state.cache.outcome? f ≠ some (.ok rows)) :
    Unnoticed s.state (s.advance i).state := by
  rcases s with ⟨s, q⟩
  cases works with
  | @answer index a q request =>
    simp only at request
    simp only [advance, apply, State.apply, State.respond, request]
    split <;> exact .quietly rfl rfl rfl rfl rfl
  | @turn t rest queue ofFetch =>
    obtain rfl : q = t :: rest := queue
    rw [advance_turn_cons] at failing ⊢
    cases t with
    | task T => cases ofFetch
    | «open» g =>
      simp only [State.take, State.openFetch]
      split
      · exact s.askPage_unnoticed g _
      · exact .refl s
    | page g =>
      obtain rfl : g = f := by simpa [Turn.fetch?] using ofFetch
      rcases readFetch_unnoticed s g with h | ⟨rows, hrows⟩
      · exact h
      · exact absurd hrows (failing rows)
    | settle g =>
      simp only [State.take, Cache.settle]
      split
      · exact .quietly rfl rfl rfl rfl rfl
      · exact .refl s
    | relay g T =>
      simp only [State.take, State.relay]
      split
      · split
        · exact .quietly rfl rfl rfl rfl rfl
        · exact .refl s
      · split
        · exact .quietly rfl rfl rfl rfl rfl
        · exact .refl s
      · exact .refl s

/-! ## Provenance -/

/-- What can be said of the snapshot of a session, from now on. -/
structure Provenance (s : Session) : Prop extends Sourced s where
  /-- A fetch has ended before the next begins. -/
  inOrder : ∀ f g, f < g → g < s.state.cache.fetches.length →
    ∃ r, s.state.cache.outcome? f = some r
  /-- So the snapshot never goes back: the latest fetch that has succeeded becomes a later one. -/
  forward : ∀ f rows later g more, s.state.cache.outcome? f = some (.ok rows) →
    (s.run later).state.cache.outcome? g = some (.ok more) →
    (∀ h most, g < h → (s.run later).state.cache.outcome? h ≠ some (.ok most)) → f ≤ g
  /-- What works on a fetch that ends in a failure is noticed by nobody. -/
  failing : ∀ f i, s.WorksOn f i → ∀ later e,
    ((s.advance i).run later).state.cache.outcome? f = some (.error e) →
    Unnoticed s.state (s.advance i).state
  /-- The only input that changes the snapshot is a turn in which the fetch that is unfinished
  succeeds. -/
  only : ∀ i, (s.advance i).state.cache.snapshot ≠ s.state.cache.snapshot → i = .turn
    ∧ ∃ f rest, s.queue = .page f :: rest ∧ s.state.cache.isRunning f = true
      ∧ (s.advance i).state.cache.outcome? f = some (.ok (s.advance i).state.cache.snapshot)

/-- The snapshot of every reachable session is what the latest fetch has read that has succeeded,
and nothing else changes it. -/
theorem reached_provenance (client : Client) (inputs : List Input) :
    Provenance (reached client inputs) := by
  have inv := reached_inv client inputs
  exact {
    toSourced := reached_sourced client inputs
    inOrder := by
      intro f g hfg hg
      rcases Cache.isRunning_or_outcome (Nat.lt_trans hfg hg) with hrunning | hended
      · have hlast := inv.flight.succ_eq_length hrunning
        omega
      · exact hended
    forward := by
      intro f rows later g more hf hg hlatest
      rcases Nat.lt_or_ge g f with hlt | hle
      · exact absurd (inv.outcome?_run hf later) (hlatest f rows hlt)
      · exact hle
    failing := by
      intro f i works later e hfailed
      refine works.unnoticed fun rows hrows => ?_
      have hstays := (inv.step (advance_move _ i)).outcome?_run hrows later
      rw [hfailed] at hstays
      cases hstays
    only := by
      intro i hchanged
      cases i with
      | event e => exact absurd (apply_snapshot _ e) hchanged
      | turn =>
        cases ((reached client inputs).advance_move .turn).snapshot_move with
        | kept snapshot _ => exact absurd snapshot hchanged
        | @replaced f rows head running now _ snapshot =>
          rcases List.head?_eq_some_iff.mp head with ⟨rest, hqueue⟩
          exact ⟨rfl, f, rest, hqueue, running, snapshot ▸ now⟩ }

/-- A fetch that fails on its second page leaves the snapshot of the fetch before. -/
theorem reached_provenance_after_failure :
    let client : Client := ⟨⟨"http://localhost:3625", .whole 30, 1, by decide⟩, ""⟩
    let row := "\x7b\"ID\":1,\"URL\":\"u\",\"Username\":\"n\",\"Password\":\"p\"\x7d"
    let page (count : String) : Answer := .response
      ⟨200, ("\x7b\"Data\":[" ++ row ++ "],\"FilteredData\":" ++ count ++ "\x7d").toUTF8.data.toList⟩
    let first : List Input := [.event (.spawn "first" (.revalidate false)), .turn, .turn,
      .event (.respond 0 (page "1"))] ++ List.replicate 4 .turn
    let second : List Input := [.event (.spawn "second" (.revalidate false)), .turn, .turn,
      .event (.respond 0 (page "2")), .turn,
      .event (.respond 0 (.fault (.network .connecting "lost"))), .turn]
    Provenance (reached client (first ++ second))
      ∧ (reached client first).state.cache.snapshot = [⟨.number 1, "u", "n", "p"⟩]
      ∧ ((reached client (first ++ second)).state.cache.outcome? 1).map Except.toOption = some none
      ∧ (reached client (first ++ second)).state.cache.snapshot = [⟨.number 1, "u", "n", "p"⟩] := by
  refine ⟨reached_provenance _ _, ?_, ?_, ?_⟩
  · decide +kernel
  · decide +kernel
  · decide +kernel

end Session

end LoginVault
