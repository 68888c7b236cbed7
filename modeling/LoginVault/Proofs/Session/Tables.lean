import LoginVault.Proofs.Session.Frame

/-!
# Session.Tables — what leaves the tables of views alone

Of a view only its table and whether it is mounted matter to what it shows (`State.shown?`), and
of the followers of the cache only how often the view is among them (`State.follows`). Most of
what a session does leaves both alone, for all views (`State.SameTables`): tasks that ask, wait
and end, forms and failures that are shown, and callbacks whatever they do.
-/

namespace LoginVault

namespace State

/-- How often a view follows the cache. -/
def follows (s : State) (view : String) : Nat := s.cache.subscribers.count (.view view)

/-- Whether a view is mounted, and its table. -/
def shown? (s : State) (view : String) : Option (Bool × Table) :=
  (s.views.lookup view).map fun v => (v.mounted, v.table)

/-! ## How often somebody follows -/

/-- Who follows the cache is not added again. -/
theorem count_subscribe (c : Cache) (x y : Subscriber) :
    (c.subscribe x).subscribers.count y
      = if y = x then max (c.subscribers.count y) 1 else c.subscribers.count y := by
  unfold Cache.subscribe
  split
  · rename_i hmem
    have hpos := List.count_pos_iff.mpr (List.contains_iff_mem.mp hmem)
    by_cases hy : y = x
    · subst hy
      rw [if_pos rfl]
      omega
    · rw [if_neg hy]
  · rename_i hmem
    rw [List.contains_iff_mem] at hmem
    have hzero := List.count_eq_zero.mpr hmem
    by_cases hy : y = x
    · subst hy
      simp [List.count_append, hzero]
    · simp [List.count_append, hy, Ne.symm hy]

theorem count_unsubscribe (c : Cache) (x y : Subscriber) :
    (c.unsubscribe x).subscribers.count y
      = if y = x then c.subscribers.count y - 1 else c.subscribers.count y := by
  unfold Cache.unsubscribe
  by_cases hy : y = x
  · subst hy
    simp
  · rw [if_neg hy]
    exact List.count_erase_of_ne hy

/-! ## States that agree on all tables -/

/-- The two states agree on the snapshot, on which views follow it and on their tables. -/
structure SameTables (s s' : State) : Prop where
  snapshot : s'.cache.snapshot = s.cache.snapshot
  follows : ∀ view, s'.follows view = s.follows view
  shown : ∀ view, s'.shown? view = s.shown? view

theorem SameTables.refl (s : State) : SameTables s s := ⟨rfl, fun _ => rfl, fun _ => rfl⟩

theorem SameTables.trans {s t u : State} (h : SameTables s t) (k : SameTables t u) :
    SameTables s u :=
  ⟨k.snapshot.trans h.snapshot, fun view => (k.follows view).trans (h.follows view),
    fun view => (k.shown view).trans (h.shown view)⟩

/-- Whatever stays away from followers and views stays away from the tables. -/
theorem SameTables.apart {s s' : State} (snapshot : s'.cache.snapshot = s.cache.snapshot)
    (subscribers : s'.cache.subscribers = s.cache.subscribers) (views : s'.views = s.views) :
    SameTables s s' where
  snapshot := snapshot
  follows view := by simp only [State.follows, subscribers]
  shown view := by simp only [State.shown?, views]

section Frame

variable (s : State) (task view : String)

theorem redraw_sameTables : SameTables s (s.redraw view).1 := by
  unfold redraw
  split
  · exact .refl s
  · split
    · exact .refl s
    · exact .apart rfl rfl rfl

/-- What a change of one view does to all tables. -/
theorem shown_updateView {f : View → View} {g : Bool × Table → Bool × Table}
    (h : ∀ v, ((f v).mounted, (f v).table) = g (v.mounted, v.table)) (w : String) :
    (s.updateView view f).shown? w
      = if w = view then (s.shown? w).map g else s.shown? w := by
  simp only [shown?, updateView, Named.lookup_update]
  by_cases hw : w = view
  · simp [hw, Function.comp_def, h]
  · simp [hw]

/-- A change of a view that is neither to its table nor to whether it is mounted. -/
theorem change_sameTables {f : View → View}
    (h : ∀ v, ((f v).mounted, (f v).table) = (v.mounted, v.table)) :
    SameTables s (s.change view f).1 := by
  have hupdate : SameTables s (s.updateView view f) := by
    refine ⟨rfl, fun _ => rfl, fun w => ?_⟩
    rw [s.shown_updateView view (g := id) h w]
    simp
  exact hupdate.trans (redraw_sameTables _ view)

theorem changeForm_sameTables (f : Form → Form) : SameTables s (s.changeForm view f).1 :=
  s.change_sameTables view fun _ => rfl

theorem report_sameTables (e : StoreError) : SameTables s (s.report view e).1 :=
  s.change_sameTables view fun _ => rfl

theorem finish_sameTables (o : Outcome) : SameTables s (s.finish task o) := .apart rfl rfl rfl

theorem ask_sameTables (e : Errand) : SameTables s (s.ask task e).1 := .apart rfl rfl rfl

theorem awaitFetch_sameTables (p : Purpose) : SameTables s (s.awaitFetch task p).1 := by
  unfold awaitFetch
  split
  · exact .apart rfl rfl rfl
  · exact .apart rfl rfl rfl

theorem revalidate_sameTables (fresh : Bool) (p : Purpose) :
    SameTables s (s.revalidate task fresh p).1 := by
  unfold revalidate
  split
  · exact .apart rfl rfl rfl
  · exact s.awaitFetch_sameTables task p

theorem conclude_sameTables (v : Value) {x : State × Option Failure} (same : SameTables s x.1) :
    SameTables s (conclude task v x).1 := by
  rcases x with ⟨mid, fault⟩
  cases fault with
  | none => exact same.trans (mid.finish_sameTables task _)
  | some f => exact same.trans (mid.finish_sameTables task _)

theorem readPage_sameTables (p : Paging) (a : Answer) (next : Paging → Errand)
    (finished : Except Failure (List Login) → Outcome) :
    SameTables s (s.readPage task p a next finished).1 := by
  unfold readPage
  split
  · exact s.ask_sameTables task _
  · exact s.finish_sameTables task _
  · exact s.finish_sameTables task _

theorem beginSubmit_sameTables (record : NewLogin) :
    SameTables s (s.beginSubmit task view record).1 := by
  unfold beginSubmit
  split
  · exact s.conclude_sameTables task _ (s.changeForm_sameTables view _)
  · have hsame := s.changeForm_sameTables view ({ · with submitting := true, error := "" })
    split
    · rename_i mid heq
      rw [heq] at hsame
      exact hsame.trans (mid.ask_sameTables task _)
    · rename_i mid f heq
      rw [heq] at hsame
      exact hsame.trans (mid.finish_sameTables task _)

theorem answered_sameTables (e : Errand) (a : Answer) :
    SameTables s (s.answered task e a).1 := by
  unfold answered
  split
  · exact s.readPage_sameTables task _ _ _ _
  · exact s.readPage_sameTables task _ _ _ _
  · split
    · exact s.finish_sameTables task _
    · exact s.finish_sameTables task _
  · rename_i view record
    split
    · have hsame := s.changeForm_sameTables view fun _ => .closed
      split
      · rename_i mid heq
        rw [heq] at hsame
        exact hsame.trans (mid.revalidate_sameTables task _ _)
      · rename_i mid f heq
        rw [heq] at hsame
        exact hsame.trans (mid.finish_sameTables task _)
    · exact s.conclude_sameTables task _ (s.changeForm_sameTables view _)
    · exact s.finish_sameTables task _

theorem spawn_sameTables (c : Call) : SameTables s (s.spawn task c).1 := by
  unfold spawn
  split
  · exact .refl s
  · exact .apart rfl rfl rfl

/-- Callbacks that begin to follow the cache are no views. -/
theorem subscribe_sameTables (callback : String) (actions : List Action) :
    SameTables s (s.subscribe callback actions) := by
  refine ⟨(s.subscribe_sameWork callback actions).snapshot, fun w => ?_, fun _ => rfl⟩
  exact (count_subscribe s.cache (.callback callback) (.view w)).trans (if_neg (by simp))

theorem unsubscribe_sameTables (callback : String) (actions : List Action) :
    SameTables s (s.unsubscribe callback actions) := by
  refine ⟨rfl, fun w => ?_, fun _ => rfl⟩
  exact (count_unsubscribe s.cache (.callback callback) (.view w)).trans (if_neg (by simp))

/-- Callbacks leave the tables alone, whatever they do. -/
theorem act_sameTables (actions : List Action) : SameTables s (s.act actions).1 := by
  fun_induction act s actions with
  | case1 s => exact .refl s
  | case2 s rest => exact .refl s
  | case3 s x rest ih => exact (s.subscribe_sameTables x []).trans ih
  | case4 s x rest ih => exact (s.unsubscribe_sameTables x []).trans ih
  | case5 s task fresh rest next started hspawn after tasks hact ih =>
    have hfirst := s.spawn_sameTables task (.revalidate fresh)
    rw [hspawn] at hfirst
    rw [hact] at ih
    exact hfirst.trans ih

theorem askPage_sameTables (f : Nat) (p : Paging) : SameTables s (s.askPage f p) :=
  .apart rfl rfl rfl

end Frame

end State

end LoginVault
