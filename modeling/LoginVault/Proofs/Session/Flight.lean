import LoginVault.Proofs.Session.Moves

/-!
# Session.Flight — one fetch at a time

What a move can do to the ledger is one of four things (`LedgerMove`): nothing, letting go of the
fetch in flight, beginning a fetch when none is running, and moving a running fetch to another
stage. Outcomes stay in the ledger for good (`LedgerMove.outcome?_kept`). `Flight` is the
invariant of the cache: the fetch in flight is the last of the ledger, only the fetch in flight
can be running, and the cache lets go of a fetch only after its end.
-/

namespace LoginVault

/-! ## What becomes of the ledger -/

/-- All that a move can do to the ledger and to the fetch in flight. -/
inductive LedgerMove (c c' : Cache) : Prop
  /-- All fetches stand where they stood. -/
  | kept (stage? : ∀ g, c'.stage? g = c.stage? g)
      (length : c'.fetches.length = c.fetches.length) (inflight : c'.inflight = c.inflight)
  /-- The cache lets go of the fetch in flight, which has ended. -/
  | letGo {f : Nat} (was : c.inflight = some f) (ended : c.isRunning f = false)
      (stage? : ∀ g, c'.stage? g = c.stage? g)
      (length : c'.fetches.length = c.fetches.length) (inflight : c'.inflight = none)
  /-- A fetch begins while none is running. -/
  | begun (idle : c.running? = none)
      (stage? : ∀ g, c'.stage? g = if g = c.fetches.length then some .begun else c.stage? g)
      (length : c'.fetches.length = c.fetches.length + 1)
      (inflight : c'.inflight = some c.fetches.length)
  /-- A fetch that is running goes on or ends. -/
  | went {f : Nat} {stage : FetchStage} (running : c.isRunning f = true)
      (stage? : ∀ g, c'.stage? g = if g = f then some stage else c.stage? g)
      (length : c'.fetches.length = c.fetches.length) (inflight : c'.inflight = c.inflight)

namespace LedgerMove

theorem ofFetches {c c' : Cache} (fetches : c'.fetches = c.fetches)
    (inflight : c'.inflight = c.inflight) : LedgerMove c c' :=
  .kept (fun g => (Cache.reads_congr fetches g).1) (by rw [fetches]) inflight

theorem ofSetStage {c c' : Cache} {f : Nat} {before after : FetchStage}
    (stands : c.stage? f = some before) (unfinished : ∀ r, before ≠ .finished r)
    (fetches : c'.fetches = c.fetches) (inflight : c'.inflight = c.inflight) :
    LedgerMove c (c'.setStage f after) := by
  refine @LedgerMove.went c (c'.setStage f after) f after
    (Cache.isRunning_of_stage stands unfinished) ?_ ?_ inflight
  · intro g
    rw [Cache.stage?_setStage, (Cache.reads_congr fetches g).1]
    by_cases hg : g = f
    · simp [hg, stands]
    · simp [hg]
  · rw [Cache.length_setStage, fetches]

/-- Waiting for a fetch changes nothing about where it stands. -/
theorem ofAddWaiting {c c' : Cache} (fetches : c'.fetches = c.fetches)
    (inflight : c'.inflight = c.inflight) (f : Nat) (task : String) :
    LedgerMove c (c'.addWaiting f task) := by
  refine .kept (fun g => ?_) ?_ inflight
  · rw [Cache.stage?_addWaiting, (Cache.reads_congr fetches g).1]
  · rw [Cache.length_addWaiting, fetches]

/-- A caller begins a fetch and waits for it. -/
theorem ofBeginFetch {c c' : Cache} (fetches : c'.fetches = c.fetches)
    (idle : c.running? = none) (task : String) :
    LedgerMove c (c'.beginFetch.addWaiting c'.fetches.length task) := by
  refine .begun idle (fun g => ?_) ?_ ?_
  · rw [Cache.stage?_addWaiting, Cache.stage?_beginFetch, (Cache.reads_congr fetches g).1, fetches]
  · rw [Cache.length_addWaiting, Cache.length_beginFetch, fetches]
  · rw [Cache.inflight_addWaiting, Cache.inflight_beginFetch, fetches]

/-- An outcome stays in the ledger. -/
theorem outcome?_kept {c c' : Cache} (move : LedgerMove c c') {f : Nat}
    {r : Except Failure (List Login)} (h : c.outcome? f = some r) : c'.outcome? f = some r := by
  rw [Cache.outcome?_eq_some_iff] at h ⊢
  cases move with
  | kept stage? _ _ => exact (stage? f).trans h
  | letGo _ _ stage? _ _ => exact (stage? f).trans h
  | begun _ stage? _ _ =>
    have hne : f ≠ c.fetches.length := Nat.ne_of_lt (Cache.lt_of_stage h)
    rw [stage?, if_neg hne]
    exact h
  | @went g stage running stage? _ _ =>
    have hne : f ≠ g := by
      rintro rfl
      rcases Cache.isRunning_iff_stage.mp running with ⟨before, hbefore, unfinished⟩
      rw [h] at hbefore
      exact unfinished r (Option.some.inj hbefore).symm
    rw [stage?, if_neg hne]
    exact h

theorem length_le {c c' : Cache} (move : LedgerMove c c') :
    c.fetches.length ≤ c'.fetches.length := by
  cases move with
  | kept _ length _ => omega
  | letGo _ _ _ length _ => omega
  | begun _ _ length _ => omega
  | went _ _ length _ => omega

end LedgerMove

/-! ## Turns that speak of an end -/

/-- The fetch of whose end a turn speaks. -/
def Turn.endOf? : Turn → Option Nat
  | .settle f => some f
  | .relay f _ => some f
  | _ => none

namespace Session

open State

variable {s s' : Session}

/-- One fetch at a time. -/
structure Flight (s : Session) : Prop where
  /-- The fetch in flight is the last that was begun. -/
  last : ∀ f, s.state.cache.inflight = some f → f + 1 = s.state.cache.fetches.length
  /-- A fetch that is running is the one in flight. -/
  running : ∀ f, s.state.cache.isRunning f = true → s.state.cache.inflight = some f
  /-- Turns speak of the end of a fetch after its end. -/
  ended : ∀ t ∈ s.queue, ∀ f, t.endOf? = some f → ∃ r, s.state.cache.outcome? f = some r

/-- Every move does one of these things to the ledger. -/
theorem Flight.ledger (inv : Flight s) (move : Move s s') :
    LedgerMove s.state.cache s'.state.cache := by
  cases move with
  | quiet same => exact .ofFetches same.fetches same.inflight
  | spawned _ | overtaken _ | cancelled _ | answered _ _ | unheard _ _ _ | idle _ | told _
  | released _ => exact .ofFetches rfl rfl
  | pageAnswered _ asking => exact .ofSetStage asking (by simp) rfl rfl
  | opened begun => exact .ofSetStage begun (by simp) rfl rfl
  | turned read _ => exact .ofSetStage read (by simp) rfl rfl
  | ended read _ spawns => exact .ofSetStage read (by simp) spawns.fetches spawns.inflight
  | @settled s f q =>
    by_cases hf : s.cache.inflight = some f
    · -- the turn stands in the queue, so the fetch has ended
      rcases inv.ended (.settle f) List.mem_cons_self f rfl with ⟨r, hr⟩
      refine .letGo hf (Cache.not_isRunning_of_outcome hr)
        (fun g => (Cache.reads_settle s.cache f g).1) (by simp) ?_
      simp [Cache.inflight_settle, hf]
    · -- a later fetch is in flight, which stays
      have hkept : s.cache.settle f = s.cache := by simp [Cache.settle, hf]
      simp only [hkept]
      exact .ofFetches rfl rfl
  | task ready turn =>
    cases turn with
    | finished same why => exact .ofFetches same.fetches same.inflight
    | asked same why => exact .ofFetches same.fetches same.inflight
    | early why unended => exact .ofFetches rfl rfl
    | enlisted same why running => exact .ofAddWaiting same.fetches same.inflight _ _
    | began same why idle => exact .ofBeginFetch same.fetches (same.running?.symm.trans idle) _

/-- A turn that speaks of the end of a fetch is put into the queue when the fetch ends. -/
theorem Move.endOf? (move : Move s s') {t : Turn} {f : Nat} (ht : t.endOf? = some f)
    (mem : t ∈ s'.queue) : t ∈ s.queue
      ∨ (s.state.cache.isRunning f = true ∧ ∃ r, s'.state.cache.outcome? f = some r) := by
  have hnew {u : Turn} {q : List Turn} (hu : u.endOf? = none) (h : t ∈ q ++ [u]) : t ∈ q := by
    rcases List.mem_append.mp h with hq | hlast
    · exact hq
    · rw [List.mem_singleton.mp hlast, hu] at ht
      cases ht
  cases move with
  | quiet _ | overtaken _ | unheard _ _ _ => exact Or.inl mem
  | spawned _ | cancelled _ | answered _ _ | pageAnswered _ _ => exact Or.inl (hnew rfl mem)
  | idle _ | settled | opened _ | turned _ _ => exact Or.inl (List.mem_cons_of_mem _ mem)
  | told _ | released _ => exact Or.inl (List.mem_cons_of_mem _ (hnew rfl mem))
  | task ready turn =>
    left
    rcases List.mem_append.mp mem with hq | hopen
    · exact List.mem_cons_of_mem _ hq
    · simp only [Option.mem_toList, Option.map_eq_some_iff] at hopen
      rcases hopen with ⟨g, -, rfl⟩
      cases ht
  | @ended s mid g p a r started q read last spawns =>
    rcases List.mem_append.mp mem with hq | hends
    · exact Or.inl (List.mem_cons_of_mem _ hq)
    · -- the turns that are added speak of the end of `g` or of no end
      right
      have hg : t.endOf? = some g ∨ t.endOf? = none := by
        simp only [List.mem_append, List.mem_cons, List.mem_map] at hends
        rcases hends with ⟨T, -, rfl⟩ | rfl | ⟨T, -, rfl⟩
        · exact Or.inr rfl
        · exact Or.inl rfl
        · exact Or.inl rfl
      obtain rfl : g = f := by
        rcases hg with h | h
        · exact Option.some.inj (h.symm.trans ht)
        · rw [h] at ht
          cases ht
      have hlt : g < mid.cache.fetches.length := by
        rw [spawns.fetches]
        exact Cache.lt_of_stage read
      exact ⟨Cache.isRunning_of_stage read (by simp), r, by simp [Cache.outcome?_finish g r hlt]⟩

/-- Every move keeps to one fetch at a time. -/
theorem Flight.step (inv : Flight s) (move : Move s s') : Flight s' where
  last := by
    intro f hf
    cases inv.ledger move with
    | kept _ length inflight =>
      rw [length]
      exact inv.last f (inflight ▸ hf)
    | letGo _ _ _ _ inflight => rw [inflight] at hf; cases hf
    | begun _ _ length inflight =>
      rw [inflight] at hf
      rw [length, Option.some.inj hf]
    | went _ _ length inflight =>
      rw [length]
      exact inv.last f (inflight ▸ hf)
  running := by
    intro g hg
    cases inv.ledger move with
    | kept stage? _ inflight =>
      rw [inflight]
      exact inv.running g (Cache.isRunning_congr g (stage? g) ▸ hg)
    | @letGo f was ended stage? _ _ =>
      -- what is let go of has ended, so it is not what is running
      rw [Cache.isRunning_congr g (stage? g)] at hg
      obtain rfl : f = g := Option.some.inj (was.symm.trans (inv.running g hg))
      rw [ended] at hg
      cases hg
    | begun idle stage? _ inflight =>
      rw [inflight]
      by_cases hlast : g = s.state.cache.fetches.length
      · rw [hlast]
      · -- an older fetch that is running would be in flight, and none would have begun
        have hbefore : s.state.cache.isRunning g = true := by
          rw [← Cache.isRunning_congr g (by rw [stage? g, if_neg hlast])]
          exact hg
        have hsome := Cache.running?_eq_some_iff.mpr ⟨inv.running g hbefore, hbefore⟩
        rw [idle] at hsome
        cases hsome
    | @went f stage running stage? _ inflight =>
      rw [inflight]
      by_cases hgf : g = f
      · rw [hgf]
        exact inv.running f running
      · refine inv.running g ?_
        rw [← Cache.isRunning_congr g (by rw [stage? g, if_neg hgf])]
        exact hg
  ended := by
    intro t mem f ht
    rcases move.endOf? ht mem with hbefore | ⟨-, hended⟩
    · rcases inv.ended t hbefore f ht with ⟨r, hr⟩
      exact ⟨r, (inv.ledger move).outcome?_kept hr⟩
    · exact hended

theorem Flight.start (client : Client) : Flight (start client) where
  last := by intro f hf; cases hf
  running := by intro f hf; cases hf
  ended := by intro t ht; cases ht

/-! ## What follows from the invariant -/

/-- The running fetch is the last of the ledger. -/
theorem Flight.succ_eq_length (inv : Flight s) {f : Nat}
    (h : s.state.cache.isRunning f = true) : f + 1 = s.state.cache.fetches.length :=
  inv.last f (inv.running f h)

theorem Flight.running?_eq_some_iff (inv : Flight s) {f : Nat} :
    s.state.cache.running? = some f ↔ s.state.cache.isRunning f = true := by
  rw [Cache.running?_eq_some_iff]
  exact ⟨And.right, fun h => ⟨inv.running f h, h⟩⟩

theorem Flight.running_unique (inv : Flight s) {f g : Nat}
    (hf : s.state.cache.isRunning f = true) (hg : s.state.cache.isRunning g = true) : f = g := by
  have hlast := inv.succ_eq_length hf
  have hlast' := inv.succ_eq_length hg
  omega

end Session

end LoginVault
