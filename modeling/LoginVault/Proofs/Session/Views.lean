import LoginVault.Proofs.Session.ViewMoves

/-!
# Session.Views — views stay bound to the cache

A view follows the cache once while it is mounted, and not at all otherwise. While it is mounted
it shows the snapshot of the cache under its filter and its order; afterwards, until it is
mounted again, it keeps the snapshot that it showed last.

Main result: `reached_viewsBound`.
-/

namespace LoginVault

/-- The rows of a table are derived from the snapshot that it shows. -/
def Table.Derived (t : Table) : Prop := t.rows = project t.filter t.order t.snapshot

namespace Session

open State

variable {s : Session} {view : String}

/-! ## What every view keeps to -/

/-- A view that is mounted follows the cache once and shows its snapshot; no other view follows
the cache. -/
inductive Bound (s : State) (view : String) : Prop
  | absent (shown : s.shown? view = none) (follows : s.follows view = 0)
  | hidden {t : Table} (shown : s.shown? view = some (false, t)) (follows : s.follows view = 0)
      (derived : t.Derived)
  | mounted {t : Table} (shown : s.shown? view = some (true, t)) (follows : s.follows view = 1)
      (derived : t.Derived) (current : t.snapshot = s.cache.snapshot)

theorem Bound.edited {s s' : State} (bound : Bound s view) (move : Edited s s' view) :
    Bound s' view := by
  rcases move with ⟨hsnapshot, hfollows, edit, derives, hshown⟩
  have hderived (t : Table) : (edit t).Derived := by
    rw [derives t]
    rfl
  have hkept (t : Table) : (edit t).snapshot = t.snapshot := by
    rw [derives t]
    rfl
  cases bound with
  | absent shown follows =>
    rw [shown] at hshown
    exact .absent hshown (hfollows.trans follows)
  | hidden shown follows _ =>
    rw [shown] at hshown
    exact .hidden hshown (hfollows.trans follows) (hderived _)
  | mounted shown follows _ current =>
    rw [shown] at hshown
    exact .mounted hshown (hfollows.trans follows) (hderived _)
      ((hkept _).trans (current.trans hsnapshot.symm))

theorem Bound.moved {s s' : State} (bound : Bound s view) (move : ViewMove s s' view) :
    Bound s' view := by
  cases move with
  | kept snapshot follows shown =>
    cases bound with
    | absent shown' follows' => exact .absent (shown.trans shown') (follows.trans follows')
    | hidden shown' follows' derived =>
      exact .hidden (shown.trans shown') (follows.trans follows') derived
    | mounted shown' follows' derived current =>
      exact .mounted (shown.trans shown') (follows.trans follows') derived
        (current.trans snapshot.symm)
  | made _ follows new now =>
    cases bound with
    | absent _ follows' => exact .hidden now (follows.trans follows') rfl
    | hidden shown' _ _ => cases new.symm.trans shown'
    | mounted shown' _ _ _ => cases new.symm.trans shown'
  | mounted snapshot follows before now =>
    -- who follows already is not added again, so it does not matter where the view stood
    have hfollows : s'.follows view = 1 := by
      cases bound with
      | absent _ follows' | hidden _ follows' _ | mounted _ follows' _ _ =>
        rw [follows, follows']
        rfl
    exact .mounted now hfollows rfl snapshot.symm
  | @unmounted t _ follows before now =>
    cases bound with
    | absent shown' _ => cases before.symm.trans shown'
    | hidden shown' _ _ => cases before.symm.trans shown'
    | mounted shown' follows' derived _ =>
      cases before.symm.trans shown'
      exact .hidden now (by rw [follows, follows']) derived
  | told snapshot follows now =>
    -- those and only those views are told that follow, that is, those that are mounted
    cases bound with
    | absent shown' follows' =>
      rw [if_neg (by omega), shown'] at now
      exact .absent now (follows.trans follows')
    | hidden shown' follows' derived =>
      rw [if_neg (by omega), shown'] at now
      exact .hidden now (follows.trans follows') derived
    | mounted shown' follows' _ _ =>
      rw [if_pos (by omega), shown'] at now
      exact .mounted now (follows.trans follows') rfl snapshot.symm

/-- Every input keeps every view bound. -/
theorem Bound.advance (bound : Bound s.state view) (i : Input) :
    Bound (s.advance i).state view := by
  rcases s.advance_viewMove i view with ⟨-, edited⟩ | move
  · exact bound.edited edited
  · exact bound.moved move

theorem Bound.run (bound : Bound s.state view) (inputs : List Input) :
    Bound (s.run inputs).state view :=
  run_keeps (P := fun s => Bound s.state view) (fun _ i bound => bound.advance i) bound inputs

theorem reached_bound (client : Client) (inputs : List Input) (view : String) :
    Bound (reached client inputs).state view :=
  Bound.run (s := start client) (.absent rfl rfl) inputs

/-! ## A view that is not mounted -/

/-- A view that is not mounted keeps the snapshot that it showed last, and its whole table unless
it is edited. -/
theorem Bound.hidden_kept (bound : Bound s.state view) {t : Table}
    (shown : s.state.shown? view = some (false, t)) (i : Input)
    (hidden : (s.advance i).state.isMounted view = false) :
    ∃ t', (s.advance i).state.shown? view = some (false, t') ∧ t'.snapshot = t.snapshot
      ∧ (¬ i.Edits view → t' = t) := by
  rcases s.advance_viewMove i view with ⟨edits, -, -, edit, derives, now⟩ | move
  · rw [shown] at now
    refine ⟨edit t, now, ?_, fun h => absurd edits h⟩
    rw [derives t]
    rfl
  · refine ⟨t, ?_, rfl, fun _ => rfl⟩
    cases move with
    | kept _ _ now => exact now.trans shown
    | made _ _ new _ => cases new.symm.trans shown
    | mounted _ _ _ now => simp [isMounted_eq, now] at hidden
    | unmounted _ _ before _ => cases before.symm.trans shown
    | told _ _ now =>
      -- it is told of no snapshot, because it does not follow the cache
      cases bound with
      | absent shown' _ => cases shown.symm.trans shown'
      | mounted shown' _ _ _ => cases shown.symm.trans shown'
      | hidden _ follows _ =>
        rw [if_neg (by omega)] at now
        exact now.trans shown

/-- So it does as long as it is not mounted again. -/
theorem Bound.hidden_run (bound : Bound s.state view) {t : Table}
    (shown : s.state.shown? view = some (false, t)) (later : List Input)
    (hidden : ∀ before, before <+: later → (s.run before).state.isMounted view = false) :
    ∃ t', (s.run later).state.shown? view = some (false, t') ∧ t'.snapshot = t.snapshot
      ∧ ((∀ i ∈ later, ¬ i.Edits view) → t' = t) := by
  induction later generalizing s t with
  | nil => exact ⟨t, shown, rfl, fun _ => rfl⟩
  | cons i rest ih =>
    have hfirst : (s.advance i).state.isMounted view = false :=
      hidden [i] (List.cons_prefix_cons.mpr ⟨rfl, List.nil_prefix⟩)
    rcases bound.hidden_kept shown i hfirst with ⟨t₁, hshown, hsnapshot, hkept⟩
    have hrest (before : List Input) (h : before <+: rest) :
        ((s.advance i).run before).state.isMounted view = false :=
      hidden (i :: before) (List.cons_prefix_cons.mpr ⟨rfl, h⟩)
    rcases ih (bound.advance i) hshown hrest with ⟨t₂, hshown₂, hsnapshot₂, hkept₂⟩
    refine ⟨t₂, hshown₂, hsnapshot₂.trans hsnapshot, fun h => ?_⟩
    have hunedited : ∀ j ∈ rest, ¬ j.Edits view := fun j hj => h j (List.mem_cons_of_mem i hj)
    exact (hkept₂ hunedited).trans (hkept (h i List.mem_cons_self))

/-! ## Views stay bound -/

/-- What can be said of the views of a session. -/
structure ViewsBound (s : Session) : Prop where
  /-- A view follows the cache once while it is mounted, and not at all otherwise. -/
  follows : ∀ view,
    s.state.cache.subscribers.count (.view view) = if s.state.isMounted view then 1 else 0
  /-- A view that is mounted shows the snapshot of the cache under its filter and its order. -/
  shows : ∀ view v, s.state.views.lookup view = some v → v.mounted = true →
    v.table.rows = project v.table.filter v.table.order s.state.cache.snapshot
  /-- As long as a view is not mounted, it goes on to show the snapshot that it showed last, and
  nothing but another filter or another order changes its table. -/
  keeps : ∀ view v later, s.state.views.lookup view = some v →
    (∀ before, before <+: later → (s.run before).state.isMounted view = false) →
    ∃ v', (s.run later).state.views.lookup view = some v'
      ∧ v'.table.rows = project v'.table.filter v'.table.order v.table.snapshot
      ∧ ((∀ i ∈ later, ¬ i.Edits view) → v'.table = v.table)

/-- Under every interleaving all views stay bound to the cache. -/
theorem reached_viewsBound (client : Client) (inputs : List Input) :
    ViewsBound (reached client inputs) := by
  have hshown {s : State} {view : String} {m : Bool} {t : Table} (h : s.shown? view = some (m, t)) :
      ∃ v, s.views.lookup view = some v ∧ v.mounted = m ∧ v.table = t := by
    rcases Option.map_eq_some_iff.mp h with ⟨v, hv, heq⟩
    obtain ⟨rfl, rfl⟩ : v.mounted = m ∧ v.table = t := by simpa using heq
    exact ⟨v, hv, rfl, rfl⟩
  constructor
  · intro view
    show (reached client inputs).state.follows view = _
    rw [isMounted_eq]
    cases reached_bound client inputs view with
    | absent shown follows => simpa [shown] using follows
    | hidden shown follows _ => simpa [shown] using follows
    | mounted shown follows _ _ => simpa [shown] using follows
  · intro view v hv hmounted
    have hv' : (reached client inputs).state.shown? view = some (true, v.table) := by
      simp [shown?, hv, hmounted]
    cases reached_bound client inputs view with
    | absent shown _ => cases hv'.symm.trans shown
    | hidden shown _ _ => cases hv'.symm.trans shown
    | mounted shown _ derived current =>
      cases hv'.symm.trans shown
      exact current ▸ derived
  · intro view v later hv hidden
    have bound := reached_bound client inputs view
    have hmounted := hidden [] List.nil_prefix
    have hv' : (reached client inputs).state.shown? view = some (false, v.table) := by
      have : v.mounted = false := by simpa [isMounted, hv] using hmounted
      simp [shown?, hv, this]
    rcases bound.hidden_run hv' later hidden with ⟨t, ht, hsnapshot, hkept⟩
    rcases hshown ht with ⟨v', hlookup, -, rfl⟩
    refine ⟨v', hlookup, ?_, hkept⟩
    rw [← hsnapshot]
    cases bound.run later with
    | absent shown _ => cases ht.symm.trans shown
    | mounted shown _ _ _ => cases ht.symm.trans shown
    | hidden shown _ derived =>
      cases ht.symm.trans shown
      exact derived

/-- Two views are mounted, one of which fails whenever it is redrawn. The other is unmounted
before the second fetch and shows the rows of the first until it is mounted again. -/
theorem reached_viewsBound_after_unmount :
    let client : Client := ⟨⟨"http://localhost:3625", .whole 30, 100, by decide⟩, ""⟩
    let page (id : String) : Answer := .response ⟨200, ("\x7b\"Data\":[\x7b\"ID\":" ++ id
      ++ ",\"URL\":\"u\",\"Username\":\"n\",\"Password\":\"p\"\x7d]\x7d").toUTF8.data.toList⟩
    let login (id : Nat) : Login := ⟨.number id, "u", "n", "p"⟩
    let first : List Input := [.event (.newView "a" .fails), .event (.newView "b" .grid),
      .event (.spawn "t" (.mount "a")), .event (.spawn "u" (.mount "b"))] ++ List.replicate 3 .turn
      ++ [.event (.respond 0 (page "1"))] ++ List.replicate 6 .turn
    let second : List Input := [.event (.unmount "b"), .event (.spawn "v" (.revalidate false)),
      .turn, .turn, .event (.respond 0 (page "2"))] ++ List.replicate 4 .turn
    let third : List Input := [.event (.spawn "w" (.mount "b")), .turn]
    let rows (inputs : List Input) (view : String) :=
      ((reached client inputs).state.views.lookup view).map (·.table.rows)
    ViewsBound (reached client (first ++ second ++ third))
      ∧ rows first "a" = some [login 1] ∧ rows first "b" = some [login 1]
      ∧ rows (first ++ second) "a" = some [login 2] ∧ rows (first ++ second) "b" = some [login 1]
      ∧ rows (first ++ second ++ third) "b" = some [login 2] := by
  refine ⟨reached_viewsBound _ _, ?_, ?_, ?_, ?_, ?_⟩
  · decide +kernel
  · decide +kernel
  · decide +kernel
  · decide +kernel
  · decide +kernel

end Session

end LoginVault
