import LoginVault.Proofs.Session.Schedule
import LoginVault.Proofs.Session.Tables

/-!
# Session.ViewMoves — what an input can do to one view

An input edits the filter or the order of a view (`State.Edited`), or makes the view, mounts or
unmounts it, tells all followers of another snapshot, or leaves the view alone
(`State.ViewMove`). Statements on what a view shows are proved along these.
-/

namespace LoginVault

namespace State

/-- All that can be done to a view besides editing it. -/
inductive ViewMove (s s' : State) (view : String) : Prop
  | kept (snapshot : s'.cache.snapshot = s.cache.snapshot)
      (follows : s'.follows view = s.follows view) (shown : s'.shown? view = s.shown? view)
  | made (snapshot : s'.cache.snapshot = s.cache.snapshot)
      (follows : s'.follows view = s.follows view) (new : s.shown? view = none)
      (now : s'.shown? view = some (false, .empty))
  | mounted {m : Bool} {t : Table} (snapshot : s'.cache.snapshot = s.cache.snapshot)
      (follows : s'.follows view = max (s.follows view) 1) (before : s.shown? view = some (m, t))
      (now : s'.shown? view = some (true, t.setSnapshot s.cache.snapshot))
  | unmounted {t : Table} (snapshot : s'.cache.snapshot = s.cache.snapshot)
      (follows : s'.follows view = s.follows view - 1) (before : s.shown? view = some (true, t))
      (now : s'.shown? view = some (false, t))
  | told {rows : List Login} (snapshot : s'.cache.snapshot = rows)
      (follows : s'.follows view = s.follows view)
      (now : s'.shown? view = if 0 < s.follows view
        then (s.shown? view).map fun x => (x.1, x.2.setSnapshot rows) else s.shown? view)

/-- The view has got another filter or another order, and its rows were derived anew. -/
structure Edited (s s' : State) (view : String) : Prop where
  snapshot : s'.cache.snapshot = s.cache.snapshot
  follows : s'.follows view = s.follows view
  shown : ∃ edit : Table → Table,
    (∀ t, edit t = { t with filter := (edit t).filter, order := (edit t).order }.derive)
      ∧ s'.shown? view = (s.shown? view).map fun x => (x.1, edit x.2)

variable {s t u : State} {view : String}

theorem SameTables.viewMove (same : SameTables s t) (view : String) : ViewMove s t view :=
  .kept same.snapshot (same.follows view) (same.shown view)

theorem ViewMove.apart (snapshot : t.cache.snapshot = s.cache.snapshot)
    (subscribers : t.cache.subscribers = s.cache.subscribers) (views : t.views = s.views) :
    ViewMove s t view :=
  (SameTables.apart snapshot subscribers views).viewMove view

/-- What was done before that left all tables alone does not matter. -/
theorem SameTables.before (same : SameTables s t) (move : ViewMove t u view) :
    ViewMove s u view := by
  have hsnapshot := same.snapshot
  have hfollows := same.follows view
  have hshown := same.shown view
  cases move with
  | kept snapshot follows shown =>
    exact .kept (snapshot.trans hsnapshot) (follows.trans hfollows) (shown.trans hshown)
  | made snapshot follows new now =>
    exact .made (snapshot.trans hsnapshot) (follows.trans hfollows) (hshown.symm.trans new) now
  | mounted snapshot follows before now =>
    rw [hfollows] at follows
    rw [hsnapshot] at now
    exact .mounted (snapshot.trans hsnapshot) follows (hshown.symm.trans before) now
  | unmounted snapshot follows before now =>
    rw [hfollows] at follows
    exact .unmounted (snapshot.trans hsnapshot) follows (hshown.symm.trans before) now
  | told snapshot follows now =>
    rw [hfollows, hshown] at now
    exact .told snapshot (follows.trans hfollows) now

/-- What is done afterwards that leaves all tables alone does not matter. -/
theorem ViewMove.followed (move : ViewMove s t view) (same : SameTables t u) :
    ViewMove s u view := by
  have hsnapshot := same.snapshot
  have hfollows := same.follows view
  have hshown := same.shown view
  cases move with
  | kept snapshot follows shown =>
    exact .kept (hsnapshot.trans snapshot) (hfollows.trans follows) (hshown.trans shown)
  | made snapshot follows new now =>
    exact .made (hsnapshot.trans snapshot) (hfollows.trans follows) new (hshown.trans now)
  | mounted snapshot follows before now =>
    exact .mounted (hsnapshot.trans snapshot) (hfollows.trans follows) before (hshown.trans now)
  | unmounted snapshot follows before now =>
    exact .unmounted (hsnapshot.trans snapshot) (hfollows.trans follows) before (hshown.trans now)
  | told snapshot follows now =>
    exact .told (hsnapshot.trans snapshot) (hfollows.trans follows) (hshown.trans now)

/-! ## Mounting and unmounting -/

variable (s) (task : String)

theorem isMounted_eq (view : String) : s.isMounted view = ((s.shown? view).map (·.1)).getD false := by
  unfold isMounted shown?
  cases s.views.lookup view with
  | none => rfl
  | some v => rfl

theorem mount_viewMove (view w : String) : ViewMove s (s.mount view) w := by
  cases hv : s.views.lookup view with
  | none =>
    -- there is no such view
    have hmount : s.mount view = s := by simp [mount, hv]
    rw [hmount]
    exact (SameTables.refl s).viewMove w
  | some v =>
    have hsnapshot := (s.mount_sameWork view).snapshot
    have hfollows := count_subscribe s.cache (.view view) (.view w)
    have hshown := shown_updateView { s with cache := s.cache.subscribe (.view view) } view
      (f := fun v => { v with mounted := true, table := v.table.setSnapshot s.cache.snapshot })
      (g := fun x => (true, x.2.setSnapshot s.cache.snapshot)) (fun _ => rfl) w
    simp only [mount, hv] at hsnapshot ⊢
    by_cases hw : w = view
    · subst hw
      rw [if_pos rfl] at hfollows hshown
      have hbefore : s.shown? w = some (v.mounted, v.table) := by simp [shown?, hv]
      refine .mounted hsnapshot hfollows hbefore (hshown.trans ?_)
      show (s.shown? w).map _ = _
      rw [hbefore]
      rfl
    · rw [if_neg (by simpa using hw)] at hfollows
      rw [if_neg hw] at hshown
      exact .kept hsnapshot hfollows hshown

theorem unmount_viewMove (view w : String) : ViewMove s (s.unmount view) w := by
  by_cases hmounted : s.isMounted view = true
  · obtain ⟨v, hv, hm⟩ : ∃ v, s.views.lookup view = some v ∧ v.mounted = true := by
      unfold isMounted at hmounted
      split at hmounted
      · rename_i v hv
        exact ⟨v, hv, hmounted⟩
      · cases hmounted
    have hsnapshot := (s.unmount_sameWork view).snapshot
    have hfollows := count_unsubscribe s.cache (.view view) (.view w)
    have hshown := shown_updateView { s with cache := s.cache.unsubscribe (.view view) } view
      (f := fun v => { v with mounted := false }) (g := fun x => (false, x.2)) (fun _ => rfl) w
    simp only [unmount, hv, hm, if_true] at hsnapshot ⊢
    by_cases hw : w = view
    · subst hw
      rw [if_pos rfl] at hfollows hshown
      have hbefore : s.shown? w = some (true, v.table) := by simp [shown?, hv, hm]
      refine .unmounted hsnapshot hfollows hbefore (hshown.trans ?_)
      show (s.shown? w).map _ = _
      rw [hbefore]
      rfl
    · rw [if_neg (by simpa using hw)] at hfollows
      rw [if_neg hw] at hshown
      exact .kept hsnapshot hfollows hshown
  · -- a view that is not mounted is left as it is
    have hunmount : s.unmount view = s := by
      unfold isMounted at hmounted
      unfold unmount
      split <;> simp_all
    rw [hunmount]
    exact (SameTables.refl s).viewMove w

/-! ## Turns of a task -/

theorem afterFetch_viewMove (p : Purpose) (w : String) :
    ViewMove s (s.afterFetch task p).1 w := by
  cases p with
  | visiting view fails =>
    exact (s.unmount_viewMove view w).followed (finish_sameTables _ task _)
  | outcome => exact (s.finish_sameTables task _).viewMove w
  | mounting view => exact (s.finish_sameTables task _).viewMove w
  | saved view login => exact (s.finish_sameTables task _).viewMove w

theorem fetchEnded_viewMove (p : Purpose) (r : Except Failure (List Login)) (w : String) :
    ViewMove s (s.fetchEnded task p r).1 w := by
  unfold fetchEnded
  split
  · exact (s.finish_sameTables task _).viewMove w
  · exact s.afterFetch_viewMove task p w
  · rename_i e view hview
    have hsame := s.report_sameTables view e
    split
    · rename_i mid heq
      rw [heq] at hsame
      exact hsame.before (mid.afterFetch_viewMove task p w)
    · rename_i mid f heq
      rw [heq] at hsame
      exact (hsame.trans (mid.finish_sameTables task _)).viewMove w
  · exact (s.finish_sameTables task _).viewMove w

theorem beginMount_viewMove (view : String) (p : Purpose) (w : String) :
    ViewMove s (s.beginMount task view p).1 w := by
  unfold beginMount
  split
  · exact s.afterFetch_viewMove task p w
  · exact (s.mount_viewMove view w).followed (revalidate_sameTables _ task false p)

theorem begin_viewMove (c : Call) (w : String) : ViewMove s (s.begin task c).1 w := by
  cases c with
  | mount view => exact s.beginMount_viewMove task view _ w
  | visit view fails => exact s.beginMount_viewMove task view _ w
  | revalidate fresh => exact (s.revalidate_sameTables task fresh _).viewMove w
  | refresh view => exact (s.revalidate_sameTables task false _).viewMove w
  | list search => exact (s.ask_sameTables task _).viewMove w
  | create record =>
    cases record with
    | ok record => exact (s.ask_sameTables task _).viewMove w
    | error why => exact (s.finish_sameTables task _).viewMove w
  | submit view record =>
    cases record with
    | ok record => exact (s.beginSubmit_sameTables task view record).viewMove w
    | error why => exact (s.finish_sameTables task _).viewMove w
  | lookup address =>
    simp only [begin]
    split
    · exact (s.finish_sameTables task _).viewMove w
    · split
      · exact (s.finish_sameTables task _).viewMove w
      · exact (s.ask_sameTables task _).viewMove w

/-- Only where a task begins, or goes on after its fetch, it mounts or unmounts a view. -/
theorem resume_viewMove (w : String) : ViewMove s (s.resume task).1 w := by
  unfold resume
  split
  · rename_i r hready
    cases r with
    | begin c => exact s.begin_viewMove task c w
    | answered e a => exact (s.answered_sameTables task e a).viewMove w
    | supersededEnded p => exact (s.awaitFetch_sameTables task p).viewMove w
    | cancelled => exact (s.finish_sameTables task _).viewMove w
    | fetchEnded f p =>
      simp only
      split
      · exact s.fetchEnded_viewMove task p _ w
      · exact (SameTables.refl s).viewMove w
  · exact (SameTables.refl s).viewMove w

/-! ## Telling the followers -/

/-- Each view among these followers shows the snapshot, and no other view has changed. -/
structure Told (s s' : State) (xs : List Subscriber) : Prop where
  snapshot : s'.cache.snapshot = s.cache.snapshot
  follows : ∀ view, s'.follows view = s.follows view
  shown : ∀ view, s'.shown? view = if .view view ∈ xs
    then (s.shown? view).map fun x => (x.1, x.2.setSnapshot s.cache.snapshot) else s.shown? view

/-- A view that is told twice shows the snapshot all the same. -/
theorem Told.trans {s t u : State} {xs ys : List Subscriber} (h : Told s t xs) (k : Told t u ys) :
    Told s u (xs ++ ys) where
  snapshot := k.snapshot.trans h.snapshot
  follows view := (k.follows view).trans (h.follows view)
  shown view := by
    have hx := h.shown view
    have hy := k.shown view
    rw [h.snapshot] at hy
    rw [hy, hx]
    simp only [List.mem_append]
    by_cases hxs : Subscriber.view view ∈ xs
    · by_cases hys : Subscriber.view view ∈ ys
      · simp [hxs, hys, Function.comp_def, Table.setSnapshot, Table.derive]
      · simp [hxs, hys]
    · by_cases hys : Subscriber.view view ∈ ys
      · simp [hxs, hys]
      · simp [hxs, hys]

/-- A follower whose observer fails, or that does something, is told like any other. -/
theorem tell_told (x : Subscriber) : Told s (s.tell x).1 [x] := by
  cases x with
  | callback name =>
    have hnote : SameTables s (s.note (.notified name s.cache.snapshot)) := .apart rfl rfl rfl
    have hsame := hnote.trans (act_sameTables _ ((s.callbacks.lookup name).getD []))
    exact ⟨hsame.snapshot, hsame.follows, fun view => by rw [if_neg (by simp)]; exact hsame.shown view⟩
  | view name =>
    have hshown := shown_updateView s name
      (f := fun v => { v with lastError := none, table := v.table.setSnapshot s.cache.snapshot })
      (g := fun x => (x.1, x.2.setSnapshot s.cache.snapshot)) (fun _ => rfl)
    have hredraw := redraw_sameTables (s.updateView name fun v =>
      { v with lastError := none, table := v.table.setSnapshot s.cache.snapshot }) name
    refine ⟨hredraw.snapshot, hredraw.follows, fun view => (hredraw.shown view).trans ?_⟩
    simpa using hshown view

theorem tellAll_told (xs : List Subscriber) : Told s (s.tellAll xs).1 xs := by
  induction xs generalizing s with
  | nil => exact ⟨rfl, fun _ => rfl, fun _ => rfl⟩
  | cons x rest ih => exact (s.tell_told x).trans (ih (s.tell x).1)

/-- Another snapshot is shown by the views that follow the cache at this moment. -/
theorem replaceSnapshot_viewMove (rows : List Login) (w : String) :
    ViewMove s (s.replaceSnapshot rows).1 w := by
  have htold := tellAll_told { s with cache := { s.cache with snapshot := rows } } s.cache.subscribers
  refine .told htold.snapshot (htold.follows w) ((htold.shown w).trans ?_)
  have hmem : Subscriber.view w ∈ s.cache.subscribers ↔ 0 < s.follows w := List.count_pos_iff.symm
  simp only [hmem]
  rfl

theorem readFetch_viewMove (f : Nat) (w : String) : ViewMove s (s.readFetch f).1 w := by
  unfold readFetch
  split
  · rename_i p a waiting hf
    cases p.advance s.client.config.pageSize a with
    | error e => exact .apart rfl rfl rfl
    | ok progress =>
      cases progress with
      | more next => exact (s.askPage_sameTables f next).viewMove w
      | complete rows => exact (s.replaceSnapshot_viewMove rows w).followed (.apart rfl rfl rfl)
  · exact (SameTables.refl s).viewMove w

theorem take_viewMove (t : Turn) (w : String) : ViewMove s (s.take t).1 w := by
  cases t with
  | task T => exact s.resume_viewMove T w
  | page f => exact s.readFetch_viewMove f w
  | «open» f =>
    simp only [take, openFetch]
    split
    · exact (s.askPage_sameTables f _).viewMove w
    · exact (SameTables.refl s).viewMove w
  | settle f =>
    simp only [take, Cache.settle]
    split
    · exact .apart rfl rfl rfl
    · exact (SameTables.refl s).viewMove w
  | relay f T =>
    simp only [take, relay]
    split
    · split
      · exact .apart rfl rfl rfl
      · exact (SameTables.refl s).viewMove w
    · split
      · exact .apart rfl rfl rfl
      · exact (SameTables.refl s).viewMove w
    · exact (SameTables.refl s).viewMove w

/-! ## Events -/

theorem cancel_viewMove (w : String) : ViewMove s (s.cancel task).1 w := by
  unfold cancel
  split
  · exact .apart rfl rfl rfl
  · exact .apart rfl rfl rfl
  · exact .apart rfl rfl rfl

theorem respond_viewMove (index : Nat) (a : Answer) (w : String) :
    ViewMove s (s.respond index a).1 w := by
  unfold respond
  split
  · exact .apart rfl rfl rfl
  · rename_i owner query hrequest
    cases owner with
    | task T =>
      simp only
      split
      · exact .apart rfl rfl rfl
      · exact .apart rfl rfl rfl
    | fetch f =>
      simp only
      split
      · exact .apart rfl rfl rfl
      · exact .apart rfl rfl rfl

/-- A name that is in use keeps its view. -/
theorem newView_viewMove (view : String) (observer : Observer) (w : String) :
    ViewMove s { s with views := s.views.putNew view (.fresh observer) } w := by
  have hshown : State.shown? { s with views := s.views.putNew view (.fresh observer) } w
      = if w = view then some ((s.shown? view).getD (false, .empty)) else s.shown? w := by
    simp only [shown?, Named.lookup_putNew]
    by_cases hw : w = view
    · cases s.views.lookup view <;> simp [hw, View.fresh]
    · simp [hw]
  by_cases hw : w = view
  · subst hw
    rw [if_pos rfl] at hshown
    cases hbefore : s.shown? w with
    | none => exact .made rfl rfl hbefore (by rw [hshown, hbefore]; rfl)
    | some x => exact .kept rfl rfl (by rw [hshown, hbefore]; rfl)
  · rw [if_neg hw] at hshown
    exact .kept rfl rfl hshown

/-- A change of filter or order edits the view it is for, and no other. -/
theorem edit_viewMove (view : String) (edit : Table → Table)
    (derives : ∀ t, edit t = { t with filter := (edit t).filter, order := (edit t).order }.derive)
    (w : String) :
    let s' := (s.change view fun v => { v with table := edit v.table }).1
    (w = view ∧ Edited s s' w) ∨ ViewMove s s' w := by
  have hshown := s.shown_updateView view (f := fun v => { v with table := edit v.table })
    (g := fun x => (x.1, edit x.2)) (fun _ => rfl) w
  have hredraw := redraw_sameTables
    (s.updateView view fun v => { v with table := edit v.table }) view
  by_cases hw : w = view
  · rw [if_pos hw] at hshown
    exact Or.inl ⟨hw, hredraw.snapshot, hredraw.follows w, edit, derives,
      (hredraw.shown w).trans hshown⟩
  · rw [if_neg hw] at hshown
    exact Or.inr (.kept hredraw.snapshot (hredraw.follows w) ((hredraw.shown w).trans hshown))

end State

/-! ## Every input -/

/-- Whether an input gives the view another filter or another order. -/
inductive Input.Edits (view : String) : Input → Prop
  | filter {text : String} : Edits view (.event (.setFilter view text))
  | order {name : Option String} : Edits view (.event (.setOrder view name))

namespace Session

open State

/-- Every event edits a view, and says which, or does one of the other things to it. -/
theorem apply_viewMove (s : Session) (e : Event) (w : String) :
    ((Input.event e).Edits w ∧ Edited s.state (s.apply e).1.state w)
      ∨ ViewMove s.state (s.apply e).1.state w := by
  have hedit {view : String} {s' : State} (edits : (Input.event e).Edits view)
      (h : (w = view ∧ Edited s.state s' w) ∨ ViewMove s.state s' w) :
      ((Input.event e).Edits w ∧ Edited s.state s' w) ∨ ViewMove s.state s' w := by
    rcases h with ⟨rfl, h⟩ | h
    · exact Or.inl ⟨edits, h⟩
    · exact Or.inr h
  cases e with
  | spawn T c => exact Or.inr ((s.state.spawn_sameTables T c).viewMove w)
  | cancel T => exact Or.inr (s.state.cancel_viewMove T w)
  | respond index a => exact Or.inr (s.state.respond_viewMove index a w)
  | subscribe callback actions => exact Or.inr ((s.state.subscribe_sameTables _ _).viewMove w)
  | unsubscribe callback actions => exact Or.inr ((s.state.unsubscribe_sameTables _ _).viewMove w)
  | newView view observer => exact Or.inr (s.state.newView_viewMove view observer w)
  | unmount view => exact Or.inr (s.state.unmount_viewMove view w)
  | openForm view => exact Or.inr ((s.state.changeForm_sameTables view _).viewMove w)
  | closeForm view => exact Or.inr ((s.state.changeForm_sameTables view _).viewMove w)
  | setFilter view text =>
    exact hedit .filter (s.state.edit_viewMove view (·.setFilter text) (fun _ => rfl) w)
  | setOrder view name =>
    simp only [apply, State.apply]
    split
    · exact hedit .order (s.state.edit_viewMove view (·.setOrder none) (fun _ => rfl) w)
    · rename_i order _
      exact hedit .order (s.state.edit_viewMove view (·.setOrder (some order)) (fun _ => rfl) w)
    · exact Or.inr (.apart rfl rfl rfl)

/-- Every input edits a view, and says which, or does one of the other things to it. -/
theorem advance_viewMove (s : Session) (i : Input) (w : String) :
    (i.Edits w ∧ Edited s.state (s.advance i).state w) ∨ ViewMove s.state (s.advance i).state w := by
  rcases s with ⟨s, q⟩
  cases i with
  | event e => exact apply_viewMove ⟨s, q⟩ e w
  | turn =>
    cases q with
    | nil => exact Or.inr (.apart rfl rfl rfl)
    | cons t rest => exact Or.inr (s.take_viewMove t w)

end Session

end LoginVault
