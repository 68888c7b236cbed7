import LoginVault.Session.Cache

/-!
# Session.Ledger — reading the ledger of fetches

A fetch is read by its place: where it stands (`stage?`), how it ended (`outcome?`) and who waits
for its end (`waitingFor`). One lemma for each change of the ledger tells what is read after it.
`joined` is the fetch that a caller gets who does not insist on a fresh one: the fetch that is
running, or else the next to begin.
-/

namespace LoginVault.Cache

/-- Where a fetch stands. -/
def stage? (c : Cache) (fetch : Nat) : Option FetchStage := c.fetches[fetch]?.map Fetch.stage

/-- The outcome of a fetch that has ended. -/
def outcome? (c : Cache) (fetch : Nat) : Option (Except Failure (List Login)) :=
  c.fetches[fetch]?.bind Fetch.outcome?

/-- The tasks that wait for the end of a fetch. -/
def waitingFor (c : Cache) (fetch : Nat) : List String :=
  (c.fetches[fetch]?.map Fetch.waiting).getD []

/-- The fetch that a caller gets: the one that is running, or else the next to begin. -/
def joined (c : Cache) : Nat := c.running?.getD c.fetches.length

/-! ## How a fetch stands -/

theorem outcome?_eq_some_iff {c : Cache} {f : Nat} {r : Except Failure (List Login)} :
    c.outcome? f = some r ↔ c.stage? f = some (.finished r) := by
  unfold outcome? stage?
  cases c.fetches[f]? with
  | none => simp
  | some x => cases h : x.stage <;> simp [Fetch.outcome?, h]

theorem isRunning_iff {c : Cache} {f : Nat} :
    c.isRunning f = true ↔ f < c.fetches.length ∧ c.outcome? f = none := by
  unfold isRunning outcome?
  cases h : c.fetches[f]? with
  | none => simpa using h
  | some x =>
    rcases List.getElem?_eq_some_iff.mp h with ⟨hlt, -⟩
    simp [hlt]

/-- A fetch of the ledger that is not finished is running. -/
theorem isRunning_of_stage {c : Cache} {f : Nat} {stage : FetchStage}
    (h : c.stage? f = some stage) (unfinished : ∀ r, stage ≠ .finished r) :
    c.isRunning f = true := by
  unfold stage? at h
  rcases Option.map_eq_some_iff.mp h with ⟨x, hx, rfl⟩
  unfold isRunning
  rw [hx]
  cases hs : x.stage <;> simp_all [Fetch.outcome?]

/-- A fetch of the ledger that has no outcome is running. -/
theorem isRunning_or_outcome {c : Cache} {f : Nat} (h : f < c.fetches.length) :
    c.isRunning f = true ∨ ∃ r, c.outcome? f = some r := by
  cases hr : c.outcome? f with
  | none => exact Or.inl (isRunning_iff.mpr ⟨h, hr⟩)
  | some r => exact Or.inr ⟨r, rfl⟩

theorem not_isRunning_of_outcome {c : Cache} {f : Nat} {r : Except Failure (List Login)}
    (h : c.outcome? f = some r) : c.isRunning f = false := by
  cases hr : c.isRunning f with
  | false => rfl
  | true => exact absurd (isRunning_iff.mp hr).2 (by simp [h])

theorem lt_of_stage {c : Cache} {f : Nat} {stage : FetchStage} (h : c.stage? f = some stage) :
    f < c.fetches.length := by
  unfold stage? at h
  rcases Option.map_eq_some_iff.mp h with ⟨x, hx, -⟩
  exact (List.getElem?_eq_some_iff.mp hx).1

/-- All that is read of two equal ledgers is equal. -/
theorem reads_congr {c d : Cache} (h : d.fetches = c.fetches) (f : Nat) :
    d.stage? f = c.stage? f ∧ d.outcome? f = c.outcome? f ∧ d.waitingFor f = c.waitingFor f
      ∧ d.isRunning f = c.isRunning f := by
  unfold stage? outcome? waitingFor isRunning
  rw [h]
  exact ⟨rfl, rfl, rfl, rfl⟩

theorem isRunning_iff_stage {c : Cache} {f : Nat} :
    c.isRunning f = true ↔ ∃ stage, c.stage? f = some stage ∧ ∀ r, stage ≠ .finished r := by
  constructor
  · intro h
    rcases isRunning_iff.mp h with ⟨hlt, hnone⟩
    refine ⟨c.fetches[f].stage, by simp [stage?, hlt], ?_⟩
    intro r hr
    have hsome : c.outcome? f = some r := outcome?_eq_some_iff.mpr (by simp [stage?, hlt, hr])
    simp [hnone] at hsome
  · rintro ⟨stage, hstage, unfinished⟩
    exact isRunning_of_stage hstage unfinished

theorem running?_eq_some_iff {c : Cache} {f : Nat} :
    c.running? = some f ↔ c.inflight = some f ∧ c.isRunning f = true :=
  Option.filter_eq_some_iff

/-! ## Changes of the ledger -/

section Changes

variable (c : Cache) (fetch g : Nat)

@[simp] theorem inflight_addWaiting (task : String) :
    (c.addWaiting fetch task).inflight = c.inflight := rfl

@[simp] theorem length_addWaiting (task : String) :
    (c.addWaiting fetch task).fetches.length = c.fetches.length := by
  simp [addWaiting, updateFetch]

@[simp] theorem stage?_addWaiting (task : String) :
    (c.addWaiting fetch task).stage? g = c.stage? g := by
  simp only [stage?, addWaiting, updateFetch, List.getElem?_modify]
  cases c.fetches[g]? with
  | none => rfl
  | some x => by_cases h : fetch = g <;> simp [h]

theorem waitingFor_addWaiting (task : String) (h : fetch < c.fetches.length) :
    (c.addWaiting fetch task).waitingFor g
      = if g = fetch then c.waitingFor g ++ [task] else c.waitingFor g := by
  simp only [waitingFor, addWaiting, updateFetch, List.getElem?_modify]
  by_cases hg : g = fetch
  · subst hg
    simp [List.getElem?_eq_getElem h]
  · cases c.fetches[g]? <;> simp [hg, Ne.symm hg]

@[simp] theorem length_setStage (stage : FetchStage) :
    (c.setStage fetch stage).fetches.length = c.fetches.length := by
  simp [setStage, updateFetch]

@[simp] theorem waitingFor_setStage (stage : FetchStage) :
    (c.setStage fetch stage).waitingFor g = c.waitingFor g := by
  simp only [waitingFor, setStage, updateFetch, List.getElem?_modify]
  cases c.fetches[g]? with
  | none => rfl
  | some x => by_cases h : fetch = g <;> simp [h]

theorem stage?_setStage (stage : FetchStage) :
    (c.setStage fetch stage).stage? g
      = if g = fetch then (c.stage? g).map fun _ => stage else c.stage? g := by
  simp only [stage?, setStage, updateFetch, List.getElem?_modify]
  by_cases hg : g = fetch
  · subst hg
    cases c.fetches[g]? <;> simp
  · cases c.fetches[g]? <;> simp [hg, Ne.symm hg]

@[simp] theorem inflight_beginFetch : c.beginFetch.inflight = some c.fetches.length := rfl

@[simp] theorem length_beginFetch : c.beginFetch.fetches.length = c.fetches.length + 1 := by
  simp [beginFetch]

theorem stage?_beginFetch :
    c.beginFetch.stage? g = if g = c.fetches.length then some .begun else c.stage? g := by
  simp only [stage?, beginFetch, List.getElem?_append]
  by_cases hg : g < c.fetches.length
  · simp [hg, Nat.ne_of_lt hg]
  · by_cases heq : g = c.fetches.length
    · simp [heq]
    · have hout : g - c.fetches.length ≠ 0 := by omega
      simp [hg, heq, hout]

theorem waitingFor_beginFetch : c.beginFetch.waitingFor g = c.waitingFor g := by
  simp only [waitingFor, beginFetch, List.getElem?_append]
  by_cases hg : g < c.fetches.length
  · simp [hg]
  · have hnone : c.fetches[g]? = none := List.getElem?_eq_none (by omega)
    rw [if_neg hg, hnone, List.getElem?_singleton]
    by_cases hout : g - c.fetches.length = 0 <;> simp [hout]

@[simp] theorem fetches_settle : (c.settle fetch).fetches = c.fetches := by
  unfold settle
  split <;> rfl

@[simp] theorem snapshot_settle : (c.settle fetch).snapshot = c.snapshot := by
  unfold settle
  split <;> rfl

theorem reads_settle :
    (c.settle fetch).stage? g = c.stage? g ∧ (c.settle fetch).outcome? g = c.outcome? g
      ∧ (c.settle fetch).waitingFor g = c.waitingFor g
      ∧ (c.settle fetch).isRunning g = c.isRunning g :=
  reads_congr (c.fetches_settle fetch) g

theorem inflight_settle :
    (c.settle fetch).inflight = if c.inflight = some fetch then none else c.inflight := by
  unfold settle
  split <;> rfl

end Changes

/-! ## How a fetch stands after a change -/

section Standing

variable {c : Cache} {fetch : Nat} (g : Nat)

theorem isRunning_congr {d : Cache} (h : d.stage? g = c.stage? g) :
    d.isRunning g = c.isRunning g := by
  rw [Bool.eq_iff_iff, isRunning_iff_stage, isRunning_iff_stage, h]

theorem outcome?_congr {d : Cache} (h : d.stage? g = c.stage? g) :
    d.outcome? g = c.outcome? g := by
  ext r
  rw [outcome?_eq_some_iff, outcome?_eq_some_iff, h]

@[simp] theorem isRunning_addWaiting (task : String) :
    (c.addWaiting fetch task).isRunning g = c.isRunning g :=
  isRunning_congr g (by simp)

@[simp] theorem outcome?_addWaiting (task : String) :
    (c.addWaiting fetch task).outcome? g = c.outcome? g :=
  outcome?_congr g (by simp)

/-- A running fetch that goes on is running. -/
theorem isRunning_setStage {stage : FetchStage} (running : c.isRunning fetch = true)
    (unfinished : ∀ r, stage ≠ .finished r) :
    (c.setStage fetch stage).isRunning g = c.isRunning g := by
  by_cases hg : g = fetch
  · subst hg
    rcases isRunning_iff_stage.mp running with ⟨before, hbefore, -⟩
    rw [running]
    exact isRunning_of_stage (by simp [stage?_setStage, hbefore]) unfinished
  · exact isRunning_congr g (by simp [stage?_setStage, hg])

theorem outcome?_setStage {stage : FetchStage} (running : c.isRunning fetch = true)
    (unfinished : ∀ r, stage ≠ .finished r) :
    (c.setStage fetch stage).outcome? g = c.outcome? g := by
  by_cases hg : g = fetch
  · subst hg
    have hafter := isRunning_setStage g running unfinished
    rw [running] at hafter
    rw [(isRunning_iff.mp running).2, (isRunning_iff.mp hafter).2]
  · exact outcome?_congr g (by simp [stage?_setStage, hg])

/-- A running fetch that ends has this outcome. -/
theorem outcome?_finish (r : Except Failure (List Login)) (h : fetch < c.fetches.length) :
    (c.setStage fetch (.finished r)).outcome? g = if g = fetch then some r else c.outcome? g := by
  by_cases hg : g = fetch
  · subst hg
    rw [if_pos rfl, outcome?_eq_some_iff, stage?_setStage, if_pos rfl]
    simp [stage?, h]
  · rw [if_neg hg]
    exact outcome?_congr g (by simp [stage?_setStage, hg])

theorem isRunning_finish (r : Except Failure (List Login)) (h : fetch < c.fetches.length) :
    (c.setStage fetch (.finished r)).isRunning g = (decide (g ≠ fetch) && c.isRunning g) := by
  by_cases hg : g = fetch
  · subst hg
    have hended : (c.setStage g (.finished r)).outcome? g = some r := by
      simp [outcome?_finish g r h]
    simp [not_isRunning_of_outcome hended]
  · simpa [hg] using isRunning_congr g (by simp [stage?_setStage, hg])

theorem isRunning_beginFetch :
    c.beginFetch.isRunning g = (decide (g = c.fetches.length) || c.isRunning g) := by
  by_cases hg : g = c.fetches.length
  · have hstage : c.beginFetch.stage? c.fetches.length = some .begun := by
      simp [stage?_beginFetch]
    simpa [hg] using isRunning_of_stage hstage (by simp)
  · simpa [hg] using isRunning_congr g (by simp [stage?_beginFetch, hg])

theorem outcome?_beginFetch : c.beginFetch.outcome? g = c.outcome? g := by
  by_cases hg : g = c.fetches.length
  · have hrunning : c.beginFetch.isRunning g = true := by simp [isRunning_beginFetch, hg]
    rw [(isRunning_iff.mp hrunning).2, hg]
    simp [outcome?]
  · exact outcome?_congr g (by simp [stage?_beginFetch, hg])

end Standing

end LoginVault.Cache
