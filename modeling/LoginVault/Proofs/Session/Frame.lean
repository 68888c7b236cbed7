import LoginVault.Proofs.Session.Ledger
import LoginVault.Session.Task

/-!
# Session.Frame — what views and followers leave alone

Views, callbacks, followers and the journal are apart from the work of a session: its fetches,
tasks, requests and snapshot. `SameWork` says that two states agree on the work. Whatever
operates a view or edits the followers keeps it; a callback that is told of a snapshot can only
start tasks besides (`Spawns`).
-/

namespace LoginVault.State

/-! ## States that agree on the work -/

/-- The two states differ in views, callbacks, followers and journal at most. -/
structure SameWork (s s' : State) : Prop where
  client : s'.client = s.client
  inflight : s'.cache.inflight = s.cache.inflight
  fetches : s'.cache.fetches = s.cache.fetches
  snapshot : s'.cache.snapshot = s.cache.snapshot
  tasks : s'.tasks = s.tasks
  pending : s'.pending = s.pending

theorem SameWork.refl (s : State) : SameWork s s := ⟨rfl, rfl, rfl, rfl, rfl, rfl⟩

theorem SameWork.trans {s t u : State} (h : SameWork s t) (k : SameWork t u) : SameWork s u :=
  ⟨k.client.trans h.client, k.inflight.trans h.inflight, k.fetches.trans h.fetches,
    k.snapshot.trans h.snapshot, k.tasks.trans h.tasks, k.pending.trans h.pending⟩

theorem SameWork.stage? {s s' : State} (h : SameWork s s') (f : Nat) :
    s'.cache.stage? f = s.cache.stage? f :=
  (Cache.reads_congr h.fetches f).1

theorem SameWork.outcome? {s s' : State} (h : SameWork s s') (f : Nat) :
    s'.cache.outcome? f = s.cache.outcome? f :=
  (Cache.reads_congr h.fetches f).2.1

theorem SameWork.running? {s s' : State} (h : SameWork s s') :
    s'.cache.running? = s.cache.running? := by
  unfold Cache.running?
  rw [h.inflight]
  congr 1
  funext f
  exact (Cache.reads_congr h.fetches f).2.2.2

/-- Views do not matter to who gets which fetch. -/
theorem SameWork.joined {s s' : State} (h : SameWork s s') :
    s'.cache.joined = s.cache.joined := by
  unfold Cache.joined
  rw [h.running?, h.fetches]

theorem note_sameWork (s : State) (e : Entry) : SameWork s (s.note e) :=
  ⟨rfl, rfl, rfl, rfl, rfl, rfl⟩

theorem updateView_sameWork (s : State) (view : String) (f : View → View) :
    SameWork s (s.updateView view f) :=
  ⟨rfl, rfl, rfl, rfl, rfl, rfl⟩

theorem redraw_sameWork (s : State) (view : String) : SameWork s (s.redraw view).1 := by
  unfold redraw
  split
  · exact .refl s
  · split
    · exact .refl s
    · exact s.note_sameWork _

theorem change_sameWork (s : State) (view : String) (f : View → View) :
    SameWork s (s.change view f).1 :=
  (s.updateView_sameWork view f).trans (redraw_sameWork _ view)

theorem changeForm_sameWork (s : State) (view : String) (f : Form → Form) :
    SameWork s (s.changeForm view f).1 :=
  s.change_sameWork view _

theorem report_sameWork (s : State) (view : String) (e : StoreError) :
    SameWork s (s.report view e).1 :=
  s.change_sameWork view _

theorem subscribed_sameWork (s : State) (x : Subscriber) :
    SameWork s { s with cache := s.cache.subscribe x } := by
  unfold Cache.subscribe
  split
  · exact .refl s
  · exact ⟨rfl, rfl, rfl, rfl, rfl, rfl⟩

theorem unsubscribed_sameWork (s : State) (x : Subscriber) :
    SameWork s { s with cache := s.cache.unsubscribe x } :=
  ⟨rfl, rfl, rfl, rfl, rfl, rfl⟩

theorem mount_sameWork (s : State) (view : String) : SameWork s (s.mount view) := by
  unfold mount
  split
  · exact (s.subscribed_sameWork (.view view)).trans (updateView_sameWork _ view _)
  · exact .refl s

theorem unmount_sameWork (s : State) (view : String) : SameWork s (s.unmount view) := by
  unfold unmount
  split
  · split
    · exact (s.unsubscribed_sameWork (.view view)).trans (updateView_sameWork _ view _)
    · exact .refl s
  · exact .refl s

theorem mention_sameWork (s : State) (callback : String) (actions : List Action) :
    SameWork s (s.mention callback actions) :=
  ⟨rfl, rfl, rfl, rfl, rfl, rfl⟩

theorem subscribe_sameWork (s : State) (callback : String) (actions : List Action) :
    SameWork s (s.subscribe callback actions) :=
  (s.mention_sameWork callback actions).trans (subscribed_sameWork _ _)

theorem unsubscribe_sameWork (s : State) (callback : String) (actions : List Action) :
    SameWork s (s.unsubscribe callback actions) :=
  (s.mention_sameWork callback actions).trans (unsubscribed_sameWork _ _)

/-! ## Reading tasks -/

@[simp] theorem lookup_setTask (s : State) (name other : String) (t : Task) :
    (s.setTask name t).tasks.lookup other
      = if other = name then some t else s.tasks.lookup other :=
  Named.lookup_put name other t s.tasks

@[simp] theorem lookup_finish (s : State) (name other : String) (o : Outcome) :
    (s.finish name o).tasks.lookup other
      = if other = name then some (.finished o) else s.tasks.lookup other :=
  lookup_setTask s name other _

@[simp] theorem lookup_ask (s : State) (name other : String) (e : Errand) :
    (s.ask name e).1.tasks.lookup other
      = if other = name then some (.waiting (.answer e)) else s.tasks.lookup other :=
  lookup_setTask _ name other _

@[simp] theorem lookup_awaitFetch (s : State) (name other : String) (p : Purpose) :
    (s.awaitFetch name p).1.tasks.lookup other
      = if other = name then some (.waiting (.fetch s.cache.joined p))
        else s.tasks.lookup other := by
  unfold awaitFetch Cache.joined
  cases s.cache.running? <;> simp

/-- A caller joins the fetch that is running. -/
theorem awaitFetch_of_running {s : State} {f : Nat} (h : s.cache.running? = some f)
    (task : String) (p : Purpose) :
    s.awaitFetch task p = ({ s with cache := s.cache.addWaiting f task }.setTask task
      (.waiting (.fetch f p)), none) := by
  simp [awaitFetch, h]

/-- A caller begins a fetch if none is running. -/
theorem awaitFetch_of_none {s : State} (h : s.cache.running? = none) (task : String)
    (p : Purpose) :
    s.awaitFetch task p
      = ({ s with cache := s.cache.beginFetch.addWaiting s.cache.fetches.length task }.setTask task
          (.waiting (.fetch s.cache.fetches.length p)), some s.cache.fetches.length) := by
  simp [awaitFetch, h]

/-! ## Starting tasks -/

/-- Besides what `SameWork` allows, the tasks of these names were started. -/
structure Spawns (s s' : State) (names : List String) : Prop where
  client : s'.client = s.client
  inflight : s'.cache.inflight = s.cache.inflight
  fetches : s'.cache.fetches = s.cache.fetches
  snapshot : s'.cache.snapshot = s.cache.snapshot
  pending : s'.pending = s.pending
  started : ∀ T ∈ names, s.tasks.lookup T = none
    ∧ ∃ c, s'.tasks.lookup T = some (.ready (.begin c))
  others : ∀ T, T ∉ names → s'.tasks.lookup T = s.tasks.lookup T

theorem SameWork.spawns {s s' : State} (h : SameWork s s') : Spawns s s' [] where
  client := h.client
  inflight := h.inflight
  fetches := h.fetches
  snapshot := h.snapshot
  pending := h.pending
  started := by simp
  others := by simp [h.tasks]

/-- A task that was started is not started again. -/
theorem Spawns.trans {s t u : State} {first rest : List String} (h : Spawns s t first)
    (k : Spawns t u rest) : Spawns s u (first ++ rest) where
  client := k.client.trans h.client
  inflight := k.inflight.trans h.inflight
  fetches := k.fetches.trans h.fetches
  snapshot := k.snapshot.trans h.snapshot
  pending := k.pending.trans h.pending
  started := by
    intro T hT
    by_cases hfirst : T ∈ first
    · -- its name is in use by then, so `rest` does not start it again
      rcases h.started T hfirst with ⟨hnone, c, hc⟩
      have hlater : T ∉ rest := fun hrest => by simpa [hc] using (k.started T hrest).1
      exact ⟨hnone, c, (k.others T hlater).trans hc⟩
    · have hrest : T ∈ rest := (List.mem_append.mp hT).resolve_left hfirst
      rcases k.started T hrest with ⟨hnone, c, hc⟩
      exact ⟨(h.others T hfirst).symm.trans hnone, c, hc⟩
  others := by
    intro T hT
    rw [List.mem_append, not_or] at hT
    exact (k.others T hT.2).trans (h.others T hT.1)

theorem SameWork.trans_spawns {s t u : State} {names : List String} (h : SameWork s t)
    (k : Spawns t u names) : Spawns s u names := by
  simpa using h.spawns.trans k

/-- A name that is in use starts nothing. -/
theorem spawn_spawns (s : State) (task : String) (c : Call) :
    Spawns s (s.spawn task c).1 (if (s.spawn task c).2 then [task] else []) := by
  unfold spawn
  cases h : s.tasks.lookup task with
  | some t => exact (SameWork.refl s).spawns
  | none =>
    refine ⟨rfl, rfl, rfl, rfl, rfl, ?_, ?_⟩
    · intro T hT
      obtain rfl : T = task := by simpa using hT
      exact ⟨h, c, by simp⟩
    · intro T hT
      have hne : T ≠ task := by simpa using hT
      simp [hne]

/-- The actions of a callback start tasks at most. -/
theorem act_spawns (s : State) (actions : List Action) :
    Spawns s (s.act actions).1 (s.act actions).2 := by
  fun_induction act s actions with
  | case1 s => exact (SameWork.refl s).spawns
  | case2 s rest => exact (SameWork.refl s).spawns
  | case3 s x rest ih => exact (s.subscribe_sameWork x []).trans_spawns ih
  | case4 s x rest ih => exact (s.unsubscribe_sameWork x []).trans_spawns ih
  | case5 s task fresh rest next started hspawn after tasks hact ih =>
    have hfirst := s.spawn_spawns task (.revalidate fresh)
    rw [hspawn] at hfirst
    rw [hact] at ih
    cases started with
    | true => exact hfirst.trans ih
    | false => simpa using hfirst.trans ih

theorem tell_spawns (s : State) (x : Subscriber) : Spawns s (s.tell x).1 (s.tell x).2 := by
  cases x with
  | view view => exact (s.change_sameWork view _).spawns
  | callback name => exact (s.note_sameWork _).trans_spawns (act_spawns _ _)

theorem tellAll_spawns (s : State) (xs : List Subscriber) :
    Spawns s (s.tellAll xs).1 (s.tellAll xs).2 := by
  induction xs generalizing s with
  | nil => exact (SameWork.refl s).spawns
  | cons x rest ih => exact (s.tell_spawns x).trans (ih (s.tell x).1)

end LoginVault.State
