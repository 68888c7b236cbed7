import LoginVault.Proofs.Session.Deeds
import LoginVault.Proofs.Session.Rest
import LoginVault.Proofs.Terminal.StatusBar
import Mathlib.Data.List.Nodup

/-!
# Terminal.Dialogs — the tasks that a terminal waits for

A terminal waits for the task that loads and for the saves of its dialogs, each of them another
task, and each unfinished: a task that has ended is written into the journal, which the terminal
follows, and there it gives the task up. The button of a dialog is disabled exactly as long as the
dialog waits for a save (`Terminal.Guarded`).

`Guarded.handle` says that this outlives every input.
-/

namespace LoginVault

namespace State

/-- Whether a task of this name was started and has not come to its end. -/
def UnderWay (s : State) (T : String) : Prop :=
  ∃ x, s.tasks.lookup T = some x ∧ ∀ o, x ≠ .finished o

section UnderWay

variable {s s' : State} {T : String}

theorem UnderWay.congr (under : s.UnderWay T) (same : s'.tasks.lookup T = s.tasks.lookup T) :
    s'.UnderWay T := by
  obtain ⟨x, now, unfinished⟩ := under
  exact ⟨x, same.trans now, unfinished⟩

/-- An event ends no task. -/
theorem UnderWay.apply (under : s.UnderWay T) (e : Event) : (s.apply e).state.UnderWay T := by
  rcases (Session.apply_move s [] e).own_or_ready T with own | same | ⟨r, ready⟩
  · cases own
  · exact under.congr same
  · exact ⟨_, ready, by simp⟩

/-- A task that comes to its end in a turn is written down. -/
theorem UnderWay.take (under : s.UnderWay T) (t : Turn) :
    (s.take t).1.UnderWay T ∨ ∃ o, Adds s (s.take t).1 [.finished T o] := by
  obtain ⟨x, before, unfinished⟩ := under
  have move := (Session.take_move s [] t).task_move T
  have ended (o : Outcome) := take_ended (s := s) (t := t) (T := T) (o := o)
  -- what the turn is does not matter any more
  generalize s.take t = after at move ended
  cases move with
  | kept same => exact Or.inl ⟨x, same.trans before, unfinished⟩
  | started new _ _ => simp [before] at new
  | overtaken _ now _ | cancelled _ now _ | answered _ now _ | told _ _ now _
  | released _ _ now _ _ | asked _ _ now _ | joined _ _ now _ _ | superseded _ _ _ now _ _ =>
    exact Or.inl ⟨_, now, by simp⟩
  | @finished r o ready why now =>
    refine Or.inr ⟨o, (ended o now).resolve_left fun finished => ?_⟩
    exact unfinished o (by simpa [before] using finished)

end UnderWay

end State

namespace Terminal

open State

/-- The tasks that the terminal waits for: the one that loads, and the saves of its dialogs. -/
def watched (t : Terminal) : List String :=
  (t.loader.map (·.2)).toList ++ t.dialogs.filterMap (·.save)

/-- What holds of the tasks that a terminal waits for. -/
structure Guarded (t : Terminal) : Prop where
  button : ∀ d ∈ t.dialogs, d.saveDisabled = d.save.isSome
  distinct : t.watched.Nodup
  underWay : ∀ T ∈ t.watched, t.session.UnderWay T

section Guarded

variable {t u : Terminal}

/-! ## Following the journal -/

/-- What is drawn or shown leaves the session, the loader and the dialogs as they are. -/
structure SameDialogs (t u : Terminal) : Prop where
  session : u.session = t.session
  loader : u.loader = t.loader
  dialogs : u.dialogs = t.dialogs

theorem SameDialogs.refl (t : Terminal) : SameDialogs t t := ⟨rfl, rfl, rfl⟩

theorem SameDialogs.watched (same : SameDialogs t u) : u.watched = t.watched := by
  simp only [Terminal.watched, same.loader, same.dialogs]

theorem SameDialogs.guarded (same : SameDialogs t u) (guarded : t.Guarded) : u.Guarded where
  button := same.dialogs ▸ guarded.button
  distinct := same.watched ▸ guarded.distinct
  underWay := by
    rw [same.watched, same.session]
    exact guarded.underWay

theorem redraw_sameDialogs (t : Terminal) (seen : Seen) : SameDialogs t (t.redraw seen) := by
  unfold redraw
  split <;> exact ⟨rfl, rfl, rfl⟩

theorem loadEnded_sameDialogs (t : Terminal) (loader : Loader) (o : Outcome) :
    SameDialogs t (t.loadEnded loader o) := by
  unfold loadEnded
  split
  · split <;> exact ⟨rfl, rfl, rfl⟩
  · rename_i e
    let u := t.notify ⟨.error, some 10, s!"Refresh failed: {e.message}"⟩
    obtain ⟨session, loader, dialogs⟩ := redraw_sameDialogs u (u.session.seen u.view)
    have hdrawn : SameDialogs t (u.redraw (u.session.seen u.view)) := ⟨session, loader, dialogs⟩
    simp only
    split
    · exact ⟨hdrawn.session, hdrawn.loader, hdrawn.dialogs⟩
    · exact hdrawn
  · exact ⟨rfl, rfl, rfl⟩
  · exact .refl t

/-- Dialogs that are told that a task is over no longer wait for it. -/
theorem filterMap_release {T : String} {f : Dialog → Dialog} (kept : ∀ d, (f d).save = d.save)
    (dialogs : List Dialog) : (releaseDialog T f dialogs).filterMap (·.save)
      = (dialogs.filterMap (·.save)).filter (· ≠ T) := by
  induction dialogs with
  | nil => rfl
  | cons d rest ih =>
    rw [releaseDialog] at ih ⊢
    rw [List.map_cons, List.filterMap_cons, ih, List.filterMap_cons]
    cases hsave : d.save with
    | none => simp [hsave]
    | some U =>
      by_cases hU : U = T
      · simp [hU, kept]
      · simp [hU, hsave]

/-- What the end of a task leaves the terminal waiting for: nothing new, and not this task. -/
structure GivesUp (t u : Terminal) (T : String) : Prop where
  session : u.session = t.session
  sublist : u.watched.Sublist t.watched
  gone : t.watched.Nodup → T ∉ u.watched
  button : (∀ d ∈ t.dialogs, d.saveDisabled = d.save.isSome) →
    ∀ d ∈ u.dialogs, d.saveDisabled = d.save.isSome

/-- Dialogs that are told that a task is over are given back their buttons. -/
theorem released_givesUp {T : String} {f : Dialog → Dialog} (kept : ∀ d, (f d).save = d.save)
    (enabled : ∀ d, (f d).saveDisabled = d.saveDisabled) (session : u.session = t.session)
    (loader : u.loader = t.loader) (other : ∀ l, t.loader ≠ some (l, T))
    (dialogs : u.dialogs = releaseDialog T f t.dialogs) : GivesUp t u T := by
  have hwatched : u.watched = (t.loader.map (·.2)).toList
      ++ (t.dialogs.filterMap (·.save)).filter (· ≠ T) := by
    rw [watched, loader, dialogs, filterMap_release kept]
  refine ⟨session, ?_, fun _ mem => ?_, fun button d mem => ?_⟩
  · rw [hwatched]
    exact (List.Sublist.refl _).append List.filter_sublist
  · rw [hwatched] at mem
    rcases List.mem_append.mp mem with loads | saves
    · obtain ⟨⟨l, name⟩, hloader, rfl⟩ : ∃ p, t.loader = some p ∧ p.2 = T := by simpa using loads
      exact other l hloader
    · simp at saves
  · rw [dialogs, releaseDialog] at mem
    obtain ⟨before, hbefore, rfl⟩ := List.mem_map.mp mem
    split
    · simp [kept, enabled]
    · exact button before hbefore

/-- The topmost dialog closes itself when its save is over. -/
theorem closed_givesUp {T : String} {d : Dialog} {rest : List Dialog}
    (dialogs : t.dialogs = d :: rest) (save : d.save = some T) (session : u.session = t.session)
    (loader : u.loader = t.loader) (dialogs' : u.dialogs = rest) : GivesUp t u T := by
  have hwatched : t.watched = (t.loader.map (·.2)).toList ++ T :: rest.filterMap (·.save) := by
    rw [watched, dialogs, List.filterMap_cons, save]
  have hwatched' : u.watched = (t.loader.map (·.2)).toList ++ rest.filterMap (·.save) := by
    rw [watched, loader, dialogs']
  refine ⟨session, ?_, fun nodup mem => ?_, fun button e mem => ?_⟩
  · rw [hwatched, hwatched']
    exact (List.Sublist.refl _).append (List.sublist_cons_self T _)
  · rw [hwatched] at nodup
    rw [hwatched'] at mem
    exact (List.nodup_middle.mp nodup).notMem mem
  · exact button e (by rw [dialogs]; exact List.mem_cons_of_mem d (dialogs' ▸ mem))

theorem saveEnded_givesUp {T : String} (o : Outcome) (other : ∀ l, t.loader ≠ some (l, T)) :
    GivesUp t (t.saveEnded T o) T := by
  unfold saveEnded
  split
  · split
    · rename_i l top
      cases hdialogs : t.dialogs with
      | nil => simp [hdialogs] at top
      | cons d rest =>
        have hsave : d.save = some T := by simpa [hdialogs] using top
        exact closed_givesUp hdialogs hsave rfl rfl rfl
    · exact released_givesUp (f := id) (fun _ => rfl) (fun _ => rfl) rfl rfl other rfl
  · exact released_givesUp (f := ({ · with status := Dialog.refusal t.view.form })) (fun _ => rfl)
      (fun _ => rfl) rfl rfl other rfl
  · exact released_givesUp (f := id) (fun _ => rfl) (fun _ => rfl) rfl rfl other rfl
  · exact released_givesUp (f := id) (fun _ => rfl) (fun _ => rfl) rfl rfl other rfl

theorem taskEnded_givesUp (t : Terminal) (T : String) (o : Outcome) :
    GivesUp t (t.taskEnded T o) T := by
  have hsave (other : ∀ l, t.loader ≠ some (l, T)) :
      GivesUp t (if t.dialogs.any (·.save = some T) then t.saveEnded T o else t) T := by
    split
    · exact saveEnded_givesUp o other
    · rename_i nobody
      refine ⟨rfl, .refl _, fun _ mem => ?_, id⟩
      rcases List.mem_append.mp mem with loads | saves
      · obtain ⟨⟨l, name⟩, hloader, rfl⟩ : ∃ p, t.loader = some p ∧ p.2 = T := by
          simpa using loads
        exact other l hloader
      · obtain ⟨d, hd, save⟩ := List.mem_filterMap.mp saves
        exact nobody (List.any_eq_true.mpr ⟨d, hd, by simpa using save⟩)
  unfold taskEnded
  split
  · rename_i loader name hloader
    split
    · rename_i hname
      subst hname
      -- the terminal gives up its loader, and what it draws or shows then gives up no more
      have hsame := loadEnded_sameDialogs { t with loader := none } loader o
      have hwatched : t.watched
          = name :: Terminal.watched { t with loader := none } := by
        simp [watched, hloader]
      refine ⟨hsame.session, ?_, fun nodup => ?_, fun button d mem =>
        button d (hsame.dialogs ▸ mem)⟩
      · rw [hsame.watched, hwatched]
        exact List.sublist_cons_self name _
      · rw [hwatched] at nodup
        rw [hsame.watched]
        exact (List.nodup_cons.mp nodup).1
    · rename_i hname
      refine hsave fun l h => hname ?_
      simpa [hloader] using congrArg (Option.map Prod.snd) h
  · rename_i hloader
    exact hsave (by simp [hloader])

/-- What becomes of a terminal that reads these entries: it waits for nothing new, and for no task
whose end is written there. -/
structure Heeds (t u : Terminal) (entries : List Entry) : Prop where
  session : u.session = t.session
  sublist : u.watched.Sublist t.watched
  gone : t.watched.Nodup → ∀ T o, .finished T o ∈ entries → T ∉ u.watched
  button : (∀ d ∈ t.dialogs, d.saveDisabled = d.save.isSome) →
    ∀ d ∈ u.dialogs, d.saveDisabled = d.save.isSome

theorem SameDialogs.heeds (same : SameDialogs t u) {e : Entry}
    (unended : ∀ T o, e ≠ .finished T o) : Heeds t u [e] where
  session := same.session
  sublist := same.watched ▸ .refl _
  gone _ T o mem := absurd (List.mem_singleton.mp mem).symm (unended T o)
  button h := same.dialogs ▸ h

theorem follow_heeds (t : Terminal) (e : Entry) : Heeds t (t.follow e) [e] := by
  cases e with
  | sent q => exact (SameDialogs.refl t).heeds (by simp)
  | notified name rows => exact (SameDialogs.refl t).heeds (by simp)
  | redrawn view seen => exact (redraw_sameDialogs t seen).heeds (by simp)
  | finished T o =>
    have hended := taskEnded_givesUp t T o
    refine ⟨hended.session, hended.sublist, fun nodup U o' mem => ?_, hended.button⟩
    obtain ⟨rfl, -⟩ : U = T ∧ o' = o := by simpa using mem
    exact hended.gone nodup

theorem foldl_heeds (entries : List Entry) (t : Terminal) :
    Heeds t (entries.foldl follow t) entries := by
  induction entries generalizing t with
  | nil => exact ⟨rfl, .refl _, fun _ _ _ h => (List.not_mem_nil h).elim, id⟩
  | cons e rest ih =>
    have hfirst := follow_heeds t e
    have hrest := ih (t.follow e)
    refine ⟨hrest.session.trans hfirst.session, hrest.sublist.trans hfirst.sublist,
      fun nodup T o mem => ?_, fun h => hrest.button (hfirst.button h)⟩
    rcases List.mem_cons.mp mem with rfl | later
    · -- what was given up is not waited for again
      have hgone := hfirst.gone nodup T o List.mem_cons_self
      exact fun again => hgone (hrest.sublist.subset again)
    · exact hrest.gone (nodup.sublist hfirst.sublist) T o later

/-- The terminal follows the session, whatever that has written. -/
@[simp] theorem absorb_session (t : Terminal) (s : State) : (t.absorb s).session = s :=
  (foldl_heeds _ _).session

theorem Guarded.absorb (guarded : t.Guarded) {s : State} {news : List Entry}
    (adds : Adds t.session s news) (under : ∀ T, t.session.UnderWay T →
      s.UnderWay T ∨ ∃ o, Adds t.session s [.finished T o]) : (t.absorb s).Guarded := by
  obtain ⟨entries, journal, -⟩ := adds
  have hdrop : s.journal.drop t.session.journal.length = entries := by
    rw [journal, List.drop_left]
  have hheeds := foldl_heeds entries { t with session := s }
  have habsorb : t.absorb s = entries.foldl follow { t with session := s } := by
    rw [Terminal.absorb, hdrop]
  rw [habsorb]
  refine ⟨hheeds.button guarded.button, guarded.distinct.sublist hheeds.sublist, fun T mem => ?_⟩
  rw [hheeds.session]
  refine (under T (guarded.underWay T (hheeds.sublist.subset mem))).resolve_right ?_
  rintro ⟨o, more, journal', ended⟩
  -- a task whose end is written there is not waited for any more
  obtain rfl : entries = more := List.append_cancel_left (journal.symm.trans journal')
  have hwritten : Entry.finished T o ∈ entries.filter (!·.isCall) := by simp [ended]
  exact hheeds.gone guarded.distinct T o (List.mem_filter.mp hwritten).1 mem

/-! ## Turns and events -/

theorem Guarded.turn (guarded : t.Guarded) (x : Turn) :
    (t.absorb (t.session.take x).1).Guarded := by
  obtain ⟨news, adds⟩ : ∃ news, Adds t.session (t.session.take x).1 news := by
    cases t.session.take_deed x with
    | ofFetch asked adds _ => exact ⟨_, adds⟩
    | ofTask _ _ deed =>
      cases deed with
      | waits adds _ | ended adds _ | asked adds _ _ => exact ⟨_, adds⟩
  exact guarded.absorb adds fun T under => under.take x

theorem Guarded.event (guarded : t.Guarded) (e : Event) :
    (t.absorb (t.session.apply e).state).Guarded :=
  guarded.absorb (t.session.apply_adds e) fun _ under => Or.inl (under.apply e)

/-- When no turn is left, the books are still right. -/
theorem Guarded.settled (guarded : t.Guarded) (q : List Turn) :
    (Session.settleWith (fun t _ s => t.absorb s) t t.session q).1.Guarded :=
  settled_keeps (P := fun t _ => t.Guarded)
    (fun t x _ guarded => ⟨absorb_session t _, guarded.turn x⟩) guarded

theorem crashed_sameDialogs (t : Terminal) (c : Crash) : SameDialogs t (t.crashed c) :=
  ⟨rfl, rfl, rfl⟩

theorem Guarded.applyAll (guarded : t.Guarded) (events : List Event) :
    (t.applyAll events).1.Guarded := by
  induction events generalizing t with
  | nil => exact guarded
  | cons e rest ih =>
    have hevent := guarded.event e
    simp only [Terminal.applyAll]
    split
    · exact (crashed_sameDialogs _ _).guarded hevent
    · exact ih hevent

theorem Guarded.perform (guarded : t.Guarded) (events : List Event) :
    (t.perform events).Guarded :=
  (guarded.applyAll events).settled _

/-! ## New tasks -/

theorem underWay_giveUp {s : State} {T : String} (under : s.UnderWay T) (old : Option String) :
    (giveUp s old).1.UnderWay T := by
  cases old with
  | none => exact under
  | some U => exact under.apply (.cancel U)

theorem Guarded.nextTask_new (guarded : t.Guarded) (sound : Sound t []) :
    t.nextTask ∉ t.watched := by
  intro mem
  obtain ⟨x, used, -⟩ := guarded.underWay _ mem
  simp [sound.nextTask_unused] at used

/-- A terminal that gives up one task for another waits for no task that is not there. -/
theorem Guarded.replaced (guarded : t.Guarded) (sound : Sound t []) (c : Call)
    (old : Option String) (session : u.session = t.session)
    (button : ∀ d ∈ u.dialogs, d.saveDisabled = d.save.isSome) (distinct : u.watched.Nodup)
    (known : ∀ T ∈ u.watched, T = t.nextTask ∨ T ∈ t.watched) :
    (u.perform (old.toList.map Event.cancel ++ [.spawn t.nextTask c])).Guarded := by
  have happly := sound.applyAll_replaced c old session
  simp only [Terminal.perform, happly]
  apply Guarded.settled
  refine ⟨button, distinct, fun T mem => ?_⟩
  by_cases hT : T = t.nextTask
  · exact ⟨.ready (.begin c), by simp [hT], by simp⟩
  · have under := underWay_giveUp (guarded.underWay T ((known T mem).resolve_left hT)) old
    exact under.congr (by simp [hT])

/-! ## Inputs -/

theorem Guarded.refresh (guarded : t.Guarded) (sound : Sound t []) : t.refresh.Guarded := by
  have hearlier : (t.loader.toList.map fun p => Event.cancel p.2)
      = (t.loader.map (·.2)).toList.map Event.cancel := by
    cases t.loader <;> rfl
  have hsaves : (t.dialogs.filterMap (·.save)).Sublist t.watched :=
    List.sublist_append_right _ _
  simp only [Terminal.refresh, load, hearlier]
  refine guarded.replaced sound _ _ rfl guarded.button ?_ fun T mem => ?_
  · have hnew : t.nextTask ∉ t.dialogs.filterMap (·.save) := fun mem =>
      guarded.nextTask_new sound (hsaves.subset mem)
    exact List.nodup_cons.mpr ⟨hnew, guarded.distinct.sublist hsaves⟩
  · rcases List.mem_append.mp mem with loads | saves
    · exact Or.inl (List.mem_singleton.mp loads)
    · exact Or.inr (hsaves.subset saves)

theorem Guarded.submit (guarded : t.Guarded) (sound : Sound t []) : t.submit.Guarded := by
  unfold Terminal.submit
  split
  · exact guarded
  · rename_i d rest hdialogs
    have hbutton : ∀ e ∈ rest, e.saveDisabled = e.save.isSome := fun e mem =>
      guarded.button e (hdialogs ▸ List.mem_cons_of_mem d mem)
    have hwatched : t.watched = (t.loader.map (·.2)).toList
        ++ (d.save.toList ++ rest.filterMap (·.save)) := by
      rw [watched, hdialogs, List.filterMap_cons]
      cases d.save <;> rfl
    simp only
    split
    · -- a login that is refused leaves the dialog as it is, but for what it tells
      refine ⟨?_, ?_, ?_⟩
      · intro e mem
        rcases List.mem_cons.mp mem with rfl | mem
        · exact guarded.button d (by simp [hdialogs])
        · exact hbutton e mem
      · have hdistinct := guarded.distinct
        rw [watched, hdialogs] at hdistinct
        exact hdistinct
      · intro T mem
        refine guarded.underWay T ?_
        rw [watched, hdialogs]
        exact mem
    · -- the save that is new takes the place of the one that is given up
      have hothers :
          ((t.loader.map (·.2)).toList ++ rest.filterMap (·.save)).Sublist t.watched := by
        rw [hwatched]
        exact (List.Sublist.refl _).append (List.sublist_append_right _ _)
      refine guarded.replaced sound _ d.save rfl ?_ ?_ fun T mem => ?_
      · intro e mem
        rcases List.mem_cons.mp mem with rfl | mem
        · rfl
        · exact hbutton e mem
      · refine List.nodup_middle.mpr (List.nodup_cons.mpr ⟨fun mem => ?_, ?_⟩)
        · exact guarded.nextTask_new sound (hothers.subset mem)
        · exact guarded.distinct.sublist hothers
      · rcases List.mem_append.mp mem with loads | saves
        · exact Or.inr (hothers.subset (List.mem_append_left _ loads))
        · rcases List.mem_cons.mp saves with rfl | saves
          · exact Or.inl rfl
          · exact Or.inr (hothers.subset (List.mem_append_right _ saves))

theorem Guarded.dismiss (guarded : t.Guarded) (sound : Sound t []) : t.dismiss.Guarded := by
  unfold Terminal.dismiss
  split
  · exact guarded
  · rename_i d rest hdialogs
    have hclosed := guarded.perform [.closeForm viewName]
    have hkept : (t.perform [.closeForm viewName]).dialogs = d :: rest := by
      rw [perform_change_dialogs sound.serving (closeForm_changes t), hdialogs]
    simp only
    generalize t.perform [.closeForm viewName] = u at hclosed hkept
    have hothers : (Terminal.watched { u with dialogs := rest }).Sublist u.watched := by
      simp only [watched, hkept]
      exact (List.Sublist.refl _).append ((List.sublist_cons_self d rest).filterMap _)
    apply Guarded.perform
    refine ⟨fun e mem => ?_, hclosed.distinct.sublist hothers, fun T mem => ?_⟩
    · exact hclosed.button e (hkept ▸ List.mem_cons_of_mem d mem)
    · exact hclosed.underWay T (hothers.subset mem)

/-- Every input keeps the books of a terminal right. -/
theorem Guarded.handle (guarded : t.Guarded) (sound : Sound t []) (i : Terminal.Input) :
    (t.handle i).Guarded := by
  have hsame {u : Terminal} (same : SameDialogs t u) : u.Guarded := same.guarded guarded
  cases i with
  | answer index a => exact guarded.perform [.respond index a]
  | search text =>
    simp only [Terminal.handle]
    split
    · exact guarded
    · exact (hsame (u := { t with search := text }) ⟨rfl, rfl, rfl⟩).perform _
  | refresh => exact guarded.refresh sound
  | newLogin =>
    have hopened := guarded.perform [.openForm viewName]
    refine ⟨fun d mem => ?_, hopened.distinct, hopened.underWay⟩
    rcases List.mem_cons.mp mem with rfl | mem
    · rfl
    · exact hopened.button d mem
  | cycleOrder =>
    exact guarded.perform [.setOrder viewName ((nextOrder t.view.table.order).map (·.name))]
  | togglePasswords =>
    simp only [Terminal.handle, Terminal.togglePasswords]
    split <;> exact hsame ⟨rfl, rfl, rfl⟩
  | fill url username password =>
    simp only [Terminal.handle]
    split
    · exact guarded
    · rename_i d rest hdialogs
      have hwatched : Terminal.watched
          { t with dialogs := d.fill url username password :: rest } = t.watched := by
        simp only [watched, hdialogs, List.filterMap_cons, Dialog.fill]
      refine ⟨fun e mem => ?_, hwatched ▸ guarded.distinct, fun T mem => ?_⟩
      · rcases List.mem_cons.mp mem with rfl | mem
        · exact guarded.button d (by simp [hdialogs])
        · exact guarded.button e (by simp [hdialogs, mem])
      · exact guarded.underWay T (hwatched ▸ mem)
  | enter => exact guarded.submit sound
  | save =>
    simp only [Terminal.handle]
    split
    · exact guarded
    · exact guarded.submit sound
  | dismiss => exact guarded.dismiss sound

end Guarded

theorem start_guarded (client : Client) : (start client).Guarded := by
  rw [start_eq]
  refine ⟨nofun, List.nodup_singleton _, fun T mem => ?_⟩
  obtain rfl : T = s!"task {0}" := List.mem_singleton.mp mem
  exact ⟨_, rfl, by simp⟩

/-- Whatever a user does, the books of the terminal are right. -/
theorem reached_guarded (client : Client) (inputs : List Input) :
    (reached client inputs).Guarded := by
  have hrun {t : Terminal} (sound : Sound t []) (guarded : t.Guarded) :
      (inputs.foldl handle t).Guarded := by
    induction inputs generalizing t with
    | nil => exact guarded
    | cons i rest ih => exact ih (sound.handle i) (guarded.handle sound i)
  exact hrun (start_sound client) (start_guarded client)

end Terminal

end LoginVault
