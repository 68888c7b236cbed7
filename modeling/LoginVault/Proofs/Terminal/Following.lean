import LoginVault.Proofs.Session.Journal
import LoginVault.Terminal.Run

/-!
# Terminal.Following — what the terminal makes of the journal

The terminal follows the journal of its session entry by entry. What it reads there leaves it
attending to every task but the one that has ended, and changes its status bar only into one that
tells of the view as it is now (`Terminal.Follows`). If a task that it attends to has failed, it
crashes or draws the status bar anew (`taskEnded_raised`).
-/

namespace LoginVault.Terminal

open State

/-! ## What is shown -/

/-- Whether the terminal waits for the end of this task. -/
def Attends (t : Terminal) (T : String) : Prop :=
  (∃ loader, t.loader = some (loader, T)) ∨ ∃ d ∈ t.dialogs, d.save = some T

/-- The status bar tells how many logins are shown, and of how many, and has a reason if it tells
that they are being loaded. -/
structure Current (t : Terminal) : Prop where
  shown : t.bar.shown = t.view.table.rows.length
  total : t.bar.total = t.session.cache.snapshot.length
  loading : t.bar.loading = true → t.session.MayShowLoading

/-- What `t` becomes, when it reads of the end of this task or of none. -/
structure Follows (t t' : Terminal) (ended? : Option (String × Outcome)) : Prop where
  session : t'.session = t.session
  started : t'.started = t.started
  attends : ∀ T, t.Attends T → t'.Attends T ∨ ∃ o, ended? = some (T, o)
  crash : t.crash ≠ none → t'.crash ≠ none
  bar : t'.bar = t.bar ∨ t'.Current

variable {t u v : Terminal}

theorem view_congr (session : u.session = t.session) : u.view = t.view := by
  simp only [view, session]

theorem Current.congr (current : t.Current) (session : u.session = t.session)
    (bar : u.bar = t.bar) : u.Current := by
  have hview := view_congr session
  exact ⟨bar ▸ hview ▸ current.shown, bar ▸ session ▸ current.total,
    bar ▸ session ▸ current.loading⟩

theorem Follows.refl (t : Terminal) (ended? : Option (String × Outcome)) : Follows t t ended? :=
  ⟨rfl, rfl, fun _ h => Or.inl h, id, Or.inl rfl⟩

theorem Follows.trans {ended? : Option (String × Outcome)} (h : Follows t u none)
    (k : Follows u v ended?) : Follows t v ended? where
  session := k.session.trans h.session
  started := k.started.trans h.started
  attends T attended := by
    rcases h.attends T attended with kept | ⟨o, ended⟩
    · exact k.attends T kept
    · cases ended
  crash := k.crash ∘ h.crash
  bar := by
    rcases k.bar with same | current
    · exact h.bar.imp same.trans fun current => current.congr k.session same
    · exact Or.inr current

/-! ## Redrawing -/

theorem view_eq_of_lookup {x : View} (h : t.session.views.lookup viewName = some x) :
    t.view = x := by
  simp [view, h]

/-- What can be seen of the view is current. -/
theorem current_ofSeen {seen : Seen} (shows : t.session.Shows viewName seen)
    (bar : t.bar = .ofSeen seen) : t.Current := by
  obtain ⟨x, hlookup, hrows⟩ := Option.map_eq_some_iff.mp shows.rows
  refine ⟨?_, ?_, ?_⟩
  · rw [bar, view_eq_of_lookup hlookup, hrows]
    rfl
  · rw [bar, ← shows.total]
    rfl
  · rw [bar]
    exact shows.loading

theorem redraw_current {seen : Seen} (shows : t.session.Shows viewName seen)
    (filled : Observer.grid.fault? seen.rows = none) : (t.redraw seen).Current := by
  simp only [redraw, filled]
  exact current_ofSeen shows rfl

theorem redraw_follows {seen : Seen} (shows : t.session.Shows viewName seen) :
    Follows t (t.redraw seen) none := by
  have hattends : (t.redraw seen).session = t.session ∧ (t.redraw seen).started = t.started
      ∧ (t.redraw seen).loader = t.loader ∧ (t.redraw seen).dialogs = t.dialogs
      ∧ (t.redraw seen).crash = t.crash := by
    unfold redraw
    split <;> exact ⟨rfl, rfl, rfl, rfl, rfl⟩
  obtain ⟨session, started, loader, dialogs, crash⟩ := hattends
  refine ⟨session, started, fun T h => Or.inl ?_, fun h => crash ▸ h, ?_⟩
  · simpa only [Attends, loader, dialogs] using h
  · cases filled : Observer.grid.fault? seen.rows with
    | none => exact Or.inr (redraw_current shows filled)
    | some f => exact Or.inl (by simp only [redraw, filled, fill])

/-- What is to be seen now can be drawn. -/
theorem shows_seen {x : View} (h : t.session.views.lookup viewName = some x) :
    t.session.Shows viewName (t.session.seen t.view) := by
  rw [view_eq_of_lookup h]
  exact ⟨by simp [h, State.seen], rfl, fun h => .loads h⟩

/-! ## The end of a task -/

theorem crashed_ne_none (t : Terminal) (c : Crash) : (t.crashed c).crash ≠ none := by
  unfold crashed
  cases t.crash <;> simp

theorem crashed_follows (t : Terminal) (c : Crash) (ended? : Option (String × Outcome)) :
    Follows t (t.crashed c) ended? :=
  ⟨rfl, rfl, fun _ h => Or.inl h, fun _ => crashed_ne_none t c, Or.inl rfl⟩

theorem notify_follows (t : Terminal) (n : Notification) (ended? : Option (String × Outcome)) :
    Follows t (t.notify n) ended? :=
  ⟨rfl, rfl, fun _ h => Or.inl h, id, Or.inl rfl⟩

/-- After a refresh failed, the view is drawn anew. -/
theorem refreshFailed {x : View} (h : t.session.views.lookup viewName = some x) (e : StoreError) :
    Follows t (t.loadEnded .refresh (.raised (.store e))) none
      ∧ ((t.loadEnded .refresh (.raised (.store e))).crash ≠ none
        ∨ (t.loadEnded .refresh (.raised (.store e))).Current) := by
  let u := t.notify ⟨.error, some 10, s!"Refresh failed: {e.message}"⟩
  let v := u.redraw (u.session.seen u.view)
  have hshows : u.session.Shows viewName (u.session.seen u.view) := shows_seen h
  have hdrawn : Follows t v none := (notify_follows t _ none).trans (redraw_follows hshows)
  -- the session is the same as before the view was drawn, so the rows are
  have hview : v.view = u.view := view_congr hdrawn.session
  cases filled : Observer.grid.fault? u.view.table.rows with
  | some f =>
    have hfilled : Observer.grid.fault? v.view.table.rows = some f := hview ▸ filled
    have hended : t.loadEnded .refresh (.raised (.store e)) = v.crashed (.task f) := by
      simp only [loadEnded]
      rw [hfilled]
    rw [hended]
    exact ⟨hdrawn.trans (crashed_follows v _ none), Or.inl (crashed_ne_none v _)⟩
  | none =>
    have hfilled : Observer.grid.fault? v.view.table.rows = none := hview ▸ filled
    have hended : t.loadEnded .refresh (.raised (.store e)) = v := by
      simp only [loadEnded]
      rw [hfilled]
    rw [hended]
    exact ⟨hdrawn, Or.inr (redraw_current hshows filled)⟩

theorem loadEnded_follows {x : View} (h : t.session.views.lookup viewName = some x)
    (loader : Loader) (o : Outcome) : Follows t (t.loadEnded loader o) none := by
  unfold loadEnded
  split
  · split
    · exact notify_follows t _ none
    · exact .refl t none
  · exact (refreshFailed h _).1
  · exact crashed_follows t _ none
  · exact .refl t none

theorem loadEnded_raised {x : View} (h : t.session.views.lookup viewName = some x)
    (loader : Loader) (f : Failure) : (t.loadEnded loader (.raised f)).crash ≠ none
      ∨ (t.loadEnded loader (.raised f)).Current := by
  cases loader with
  | start => exact Or.inl (crashed_ne_none t _)
  | refresh =>
    cases f with
    | store e => exact (refreshFailed h e).2
    | _ => exact Or.inl (crashed_ne_none t _)

/-- A dialog that does not wait for the task that has ended is left as it is. -/
theorem mem_releaseDialog {T : String} {f : Dialog → Dialog} {dialogs : List Dialog} {d : Dialog}
    (mem : d ∈ dialogs) (other : d.save ≠ some T) : d ∈ releaseDialog T f dialogs :=
  List.mem_map.mpr ⟨d, mem, if_neg other⟩

theorem saveEnded_follows (t : Terminal) (T : String) (o : Outcome) :
    Follows t (t.saveEnded T o) (some (T, o)) := by
  have hreleased (f : Dialog → Dialog) :
      Follows t { t with dialogs := releaseDialog T f t.dialogs } (some (T, o)) := by
    refine ⟨rfl, rfl, fun U attended => ?_, id, Or.inl rfl⟩
    by_cases hU : U = T
    · exact Or.inr ⟨o, by rw [hU]⟩
    · refine Or.inl (attended.imp_right fun ⟨d, mem, save⟩ => ⟨d, ?_, save⟩)
      exact mem_releaseDialog mem (by simpa [save] using hU)
  unfold saveEnded
  split
  · split
    · -- the dialog that closes itself is the topmost
      rename_i l top
      refine ⟨rfl, rfl, fun U attended => ?_, id, Or.inl rfl⟩
      rcases attended with loads | ⟨d, mem, save⟩
      · exact Or.inl (Or.inl loads)
      · cases hdialogs : t.dialogs with
        | nil => simp [hdialogs] at mem
        | cons first rest =>
          rw [hdialogs] at mem top
          rcases List.mem_cons.mp mem with rfl | mem
          · obtain rfl : U = T := by simpa [save] using top
            exact Or.inr ⟨_, rfl⟩
          · exact Or.inl (Or.inr ⟨d, mem, save⟩)
    · exact hreleased id
  · exact hreleased _
  · exact ⟨rfl, rfl, (hreleased id).attends, fun _ => crashed_ne_none _ _, Or.inl rfl⟩
  · exact hreleased id

theorem taskEnded_follows {x : View} (h : t.session.views.lookup viewName = some x) (T : String)
    (o : Outcome) : Follows t (t.taskEnded T o) (some (T, o)) := by
  have hsave : Follows t (if t.dialogs.any (·.save = some T) then t.saveEnded T o else t)
      (some (T, o)) := by
    split
    · exact saveEnded_follows t T o
    · exact .refl t _
  unfold taskEnded
  split
  · rename_i loader name hloader
    split
    · rename_i hname
      subst hname
      -- the terminal gives up its loader before it reads how the task ended
      have hended := loadEnded_follows (t := { t with loader := none }) h loader o
      refine ⟨hended.session, hended.started, fun U attended => ?_, hended.crash, hended.bar⟩
      rcases attended with ⟨loader', h'⟩ | saves
      · obtain rfl : name = U := by simpa [hloader] using congrArg (Option.map Prod.snd) h'
        exact Or.inr ⟨o, rfl⟩
      · exact (hended.attends U (Or.inr saves)).imp_right fun ⟨_, h⟩ => nomatch h
    · exact hsave
  · exact hsave

/-- A task that fails is not overheard by a terminal that attends to it. -/
theorem taskEnded_raised {x : View} (h : t.session.views.lookup viewName = some x) {T : String}
    (attends : t.Attends T) (f : Failure) : (t.taskEnded T (.raised f)).crash ≠ none
      ∨ (t.taskEnded T (.raised f)).Current := by
  have hsave (waits : ∃ d ∈ t.dialogs, d.save = some T) :
      (if t.dialogs.any (·.save = some T) then t.saveEnded T (.raised f) else t).crash ≠ none := by
    have hany : t.dialogs.any (·.save = some T) = true := by simpa using waits
    rw [if_pos hany]
    exact crashed_ne_none _ _
  unfold taskEnded
  split
  · rename_i loader name hloader
    split
    · exact loadEnded_raised (t := { t with loader := none }) h loader f
    · rename_i hname
      refine Or.inl (hsave (attends.resolve_left ?_))
      rintro ⟨loader', h'⟩
      exact hname (by simpa [hloader] using congrArg (Option.map Prod.snd) h')
  · rename_i hloader
    exact Or.inl (hsave (attends.resolve_left (by simp [hloader])))

/-! ## The journal -/

/-- What the terminal draws that has seen this of the view, or nothing. -/
def drawn (t : Terminal) : Option Seen → Terminal
  | some seen => t.redraw seen
  | none => t

/-- What the terminal becomes that reads of the end of a task, or of none. -/
def informed (t : Terminal) : Option (String × Outcome) → Terminal
  | some (T, o) => t.taskEnded T o
  | none => t

/-- What is asked of the store is not for the terminal. -/
theorem foldl_sent (queries : List Query) (t : Terminal) :
    (queries.map Entry.sent).foldl follow t = t := by
  induction queries with
  | nil => rfl
  | cons q rest ih => exact ih

/-- A session that has written nothing is followed without a trace. -/
theorem absorb_silent {s : State} (journal : s.journal = t.session.journal) :
    t.absorb s = { t with session := s } := by
  rw [absorb, journal, List.drop_length]
  rfl

theorem absorb_notes {s : State} {n : Notes} (noted : Noted t.session s viewName n) :
    t.absorb s = (drawn { t with session := s } n.seen?).informed n.ended? := by
  have hentries (u : Terminal) :
      (n.entries viewName).foldl follow u = (u.drawn n.seen?).informed n.ended? := by
    rw [Notes.entries, List.foldl_append, List.foldl_append, foldl_sent]
    cases n.seen? <;> cases n.ended? <;> rfl
  rw [absorb, noted.journal, List.drop_left, hentries]

/-- What becomes of a terminal that has followed a session for its view. -/
structure Absorbs (t t' : Terminal) (s : State) (n : Notes) : Prop where
  follows : Follows { t with session := s } t' n.ended?
  seen : ∀ seen, n.seen? = some seen → Observer.grid.fault? seen.rows = none → t'.Current
  failed : ∀ T f, n.ended? = some (T, .raised f) → t.Attends T → t'.crash ≠ none ∨ t'.Current

theorem absorb_absorbs {s : State} {n : Notes} (noted : Noted t.session s viewName n) :
    Absorbs t (t.absorb s) s n := by
  obtain ⟨x, hlookup, -⟩ := noted.serving.view
  let u := drawn { t with session := s } n.seen?
  have hdrawn : Follows { t with session := s } u none := by
    cases hseen : n.seen? with
    | none => simp only [u, hseen, drawn]; exact .refl _ none
    | some seen => simp only [u, hseen, drawn]; exact redraw_follows (noted.seen seen hseen)
  have hu : u.session.views.lookup viewName = some x := by rw [hdrawn.session]; exact hlookup
  have hinformed : Follows u (u.informed n.ended?) n.ended? := by
    cases n.ended? with
    | none => exact .refl u none
    | some ended => exact taskEnded_follows hu ended.1 ended.2
  rw [absorb_notes noted]
  refine ⟨hdrawn.trans hinformed, fun seen hseen filled => ?_, fun T f ended attends => ?_⟩
  · have hcurrent : u.Current := by
      simp only [u, hseen, drawn]
      exact redraw_current (noted.seen seen hseen) filled
    exact hinformed.bar.elim (hcurrent.congr hinformed.session) id
  · have hattends : u.Attends T := by
      rcases hdrawn.attends T attends with kept | ⟨o, h⟩
      · exact kept
      · cases h
    rw [ended]
    exact taskEnded_raised hu hattends f

/-! ## Turn by turn -/

/-- What every turn keeps that the terminal follows, it keeps until no turn is left. -/
theorem settled_keeps {P : Terminal → List Turn → Prop}
    (turn : ∀ t x rest, P t (x :: rest) →
      (t.absorb (t.session.take x).1).session = (t.session.take x).1
        ∧ P (t.absorb (t.session.take x).1) (rest ++ (t.session.take x).2))
    {t : Terminal} {q : List Turn} (h : P t q) :
    P (Session.settleWith (fun t _ s => t.absorb s) t t.session q).1 [] := by
  suffices hsettle : ∀ s, s = t.session →
      P (Session.settleWith (fun (t : Terminal) _ s => t.absorb s) t s q).1 [] from hsettle _ rfl
  -- along the turns, the session that is settled is the one that the terminal holds
  intro s hs
  fun_induction Session.settleWith (fun (t : Terminal) _ s => t.absorb s) t s q with
  | case1 t s => exact h
  | case2 t s x rest r ih =>
    subst hs
    obtain ⟨session, kept⟩ := turn t x rest h
    exact ih kept session.symm

/-- The terminal once no turn is left, if that takes at most so many turns. -/
def settledIn : Nat → Terminal → State → List Turn → Option Terminal
  | _, t, _, [] => some t
  | 0, _, _, _ :: _ => none
  | n + 1, t, s, x :: rest =>
    settledIn n (t.absorb (s.take x).1) (s.take x).1 (rest ++ (s.take x).2)

theorem settleWith_of_settledIn {n : Nat} {t u : Terminal} {s : State} {q : List Turn}
    (h : settledIn n t s q = some u) :
    (Session.settleWith (fun (t : Terminal) _ s => t.absorb s) t s q).1 = u := by
  induction n generalizing t s q with
  | zero =>
    cases q with
    | nil => simpa [Session.settleWith, settledIn] using h
    | cons x rest => cases h
  | succ n ih =>
    cases q with
    | nil => simpa [Session.settleWith, settledIn] using h
    | cons x rest =>
      rw [Session.settleWith]
      exact ih h

/-- What events do that are settled in so many turns. -/
def performIn (n : Nat) (t : Terminal) (events : List Event) : Option Terminal :=
  settledIn n (t.applyAll events).1 (t.applyAll events).1.session (t.applyAll events).2

theorem perform_eq_getD {n : Nat} {t : Terminal} {events : List Event}
    (settles : (performIn n t events).isSome = true) :
    t.perform events = (performIn n t events).getD t := by
  obtain ⟨u, h⟩ := Option.isSome_iff_exists.mp settles
  rw [h, Option.getD_some]
  exact settleWith_of_settledIn h

end LoginVault.Terminal
