import LoginVault.Proofs.Session.Turns
import LoginVault.Proofs.Session.ViewMoves

/-!
# Session.Sights — who is called, and from where

Callbacks and observers of views are called from few places. An event calls the observer of the
view that it operates; a task calls one in its turn when it changes a form or reports a failure;
and a fetch that succeeds has all followers called. All else is out of sight (`State.SameSight`):
it calls nobody and leaves views, callbacks, followers and snapshot as they were.

`resume_viewTurn` and `take_sight` say which of this happens in a turn, and `apply_sight` what
happens in an event. Statements on followers, forms, mounting and redrawing are proved along
these.
-/

namespace LoginVault

/-- Whether the entry is a call of a callback, or of the observer of a view. -/
def Entry.isCall : Entry → Bool
  | .notified _ _ | .redrawn _ _ => true
  | _ => false

/-- The view that a task may mount or unmount in a turn that finds this. -/
def Resumption.scope? : Resumption → Option String
  | .begin (.mount view) | .begin (.visit view _) | .fetchEnded _ (.visiting view _) => some view
  | _ => none

/-- Whether a task begins that wants a view mounted. -/
inductive Resumption.Mounts (view : String) : Resumption → Prop
  | mount : Mounts view (.begin (.mount view))
  | visit {fails : Bool} : Mounts view (.begin (.visit view fails))

/-- What becomes of the form of a view in a turn of a task that finds this. -/
inductive FormTurn : Resumption → String → (Form → Form) → Prop
  | refused {view : String} {record : NewLogin} {problem : FormProblem}
      (why : record.problem? = some problem) :
      FormTurn (.begin (.submit view (.ok record))) view ({ · with error := problem.message })
  | submitted {view : String} {record : NewLogin} (why : record.problem? = none) :
      FormTurn (.begin (.submit view (.ok record))) view
        ({ · with submitting := true, error := "" })
  | saved {view : String} {record : NewLogin} {a : Answer} {login : Login}
      (read : a.result (.create record) Response.created = .ok login) :
      FormTurn (.answered (.submit view record) a) view fun _ => .closed
  | failed {view : String} {record : NewLogin} {a : Answer} {e : StoreError}
      (read : a.result (.create record) Response.created = .error (.store e)) :
      FormTurn (.answered (.submit view record) a) view
        ({ · with submitting := false, error := e.message })

namespace State

/-- The calls of callbacks and observers so far, in order. -/
def called (s : State) : List Entry := s.journal.filter Entry.isCall

/-- The two states agree on the snapshot, the followers, the callbacks and the views, and nobody
was called in between. -/
structure SameSight (s s' : State) : Prop where
  snapshot : s'.cache.snapshot = s.cache.snapshot
  subscribers : s'.cache.subscribers = s.cache.subscribers
  callbacks : s'.callbacks = s.callbacks
  views : s'.views = s.views
  called : s'.called = s.called

theorem SameSight.refl (s : State) : SameSight s s := ⟨rfl, rfl, rfl, rfl, rfl⟩

theorem SameSight.isMounted {s s' : State} (h : SameSight s s') (view : String) :
    s'.isMounted view = s.isMounted view := by
  simp only [State.isMounted, h.views]

/-! ## What is out of sight -/

section Frame

variable (s : State) (task : String)

/-- Entries that are no calls are not among the calls. -/
theorem called_note {e : Entry} (h : e.isCall = false) : (s.note e).called = s.called := by
  simp [called, note, h]

theorem finish_sameSight (o : Outcome) : SameSight s (s.finish task o) :=
  ⟨rfl, rfl, rfl, rfl, called_note _ rfl⟩

theorem ask_sameSight (e : Errand) : SameSight s (s.ask task e).1 :=
  ⟨rfl, rfl, rfl, rfl, called_note _ rfl⟩

theorem askPage_sameSight (f : Nat) (p : Paging) : SameSight s (s.askPage f p) :=
  ⟨rfl, rfl, rfl, rfl, called_note _ rfl⟩

theorem awaitFetch_sameSight (p : Purpose) : SameSight s (s.awaitFetch task p).1 := by
  unfold awaitFetch
  split
  · exact ⟨rfl, rfl, rfl, rfl, rfl⟩
  · exact ⟨rfl, rfl, rfl, rfl, rfl⟩

theorem revalidate_sameSight (fresh : Bool) (p : Purpose) :
    SameSight s (s.revalidate task fresh p).1 := by
  unfold revalidate
  split
  · exact ⟨rfl, rfl, rfl, rfl, rfl⟩
  · exact s.awaitFetch_sameSight task p

theorem conclude_sameSight (v : Value) (x : State × Option Failure) :
    SameSight x.1 (conclude task v x).1 := by
  rcases x with ⟨mid, fault⟩
  cases fault with
  | none => exact mid.finish_sameSight task _
  | some f => exact mid.finish_sameSight task _

theorem readPage_sameSight (p : Paging) (a : Answer) (next : Paging → Errand)
    (finished : Except Failure (List Login) → Outcome) :
    SameSight s (s.readPage task p a next finished).1 := by
  unfold readPage
  split
  · exact s.ask_sameSight task _
  · exact s.finish_sameSight task _
  · exact s.finish_sameSight task _

theorem spawn_sameSight (c : Call) : SameSight s (s.spawn task c).1 := by
  unfold spawn
  split
  · exact .refl s
  · exact ⟨rfl, rfl, rfl, rfl, rfl⟩

theorem cancel_sameSight : SameSight s (s.cancel task).1 := by
  unfold cancel
  split
  · exact ⟨rfl, rfl, rfl, rfl, rfl⟩
  · exact ⟨rfl, rfl, rfl, rfl, rfl⟩
  · exact .refl s

theorem respond_sameSight (index : Nat) (a : Answer) : SameSight s (s.respond index a).1 := by
  unfold respond
  split
  · exact .refl s
  · rename_i owner query _
    cases owner with
    | task name =>
      simp only
      split <;> exact ⟨rfl, rfl, rfl, rfl, rfl⟩
    | fetch f =>
      simp only
      split <;> exact ⟨rfl, rfl, rfl, rfl, rfl⟩

end Frame

/-! ## Who is called -/

section Called

variable (s : State)

/-- What the observer of a view sees if it is called now. -/
def redrawing? (view : String) : Option Seen :=
  match s.views.lookup view with
  | none => none
  | some v => if v.observer = .absent then none else some (s.seen v)

theorem redrawing?_congr {s t : State} {view : String}
    (views : t.views.lookup view = s.views.lookup view)
    (snapshot : t.cache.snapshot = s.cache.snapshot)
    (loading : t.cache.isLoading = s.cache.isLoading) : t.redrawing? view = s.redrawing? view := by
  simp only [redrawing?, seen, views, snapshot, loading]

/-- Redrawing a view calls its observer, and does nothing else. -/
theorem redraw_called (view : String) :
    (s.redraw view).1.called = s.called ++ ((s.redrawing? view).map (.redrawn view)).toList
      ∧ (s.redraw view).1.views = s.views := by
  unfold redraw redrawing?
  cases s.views.lookup view with
  | none => simp
  | some v =>
    by_cases hv : v.observer = .absent
    · simp [hv]
    · simp [hv, called, note, Entry.isCall]

theorem change_called (view : String) (f : View → View) :
    (s.change view f).1.called
      = s.called ++ (((s.updateView view f).redrawing? view).map (.redrawn view)).toList :=
  ((s.updateView view f).redraw_called view).1

theorem change_views (view : String) (f : View → View) :
    (s.change view f).1.views = s.views.update view f :=
  ((s.updateView view f).redraw_called view).2

theorem lookup_change (view : String) (f : View → View) (w : String) :
    (s.change view f).1.views.lookup w
      = if w = view then (s.views.lookup w).map f else s.views.lookup w := by
  rw [change_views, Named.lookup_update]

theorem mount_called (view : String) : (s.mount view).called = s.called := by
  unfold mount
  split
  · rfl
  · rfl

theorem unmount_called (view : String) : (s.unmount view).called = s.called := by
  unfold unmount
  split
  · split
    · rfl
    · rfl
  · rfl

end Called

/-! ## What a task does to views -/

/-- All that a task can do to views in a turn that finds `r`. -/
inductive ViewTurn (s : State) (r : Resumption) : State → Prop
  | apart : ViewTurn s r s
  | mounted {view : String} (wanted : r.Mounts view) (hidden : s.isMounted view = false) :
      ViewTurn s r (s.mount view)
  | unmounted {view : String} (scope : r.scope? = some view) : ViewTurn s r (s.unmount view)
  | formed {view : String} {f : Form → Form} (turn : FormTurn r view f) :
      ViewTurn s r (s.changeForm view f).1
  | reported {view : String} {e : StoreError} : ViewTurn s r (s.report view e).1
  | left {view : String} {e : StoreError} (scope : r.scope? = some view) :
      ViewTurn s r ((s.report view e).1.unmount view)

section Turns

variable (s : State) (task : String)

/-- A turn that does nothing to views is out of sight. -/
theorem SameSight.viewTurn {s s' : State} (same : SameSight s s') (r : Resumption) :
    ∃ mid, ViewTurn s r mid ∧ SameSight mid s' :=
  ⟨s, .apart, same⟩

/-- A task that goes on after its fetch leaves the view that it visits, if it visits one. -/
theorem afterFetch_sight (p : Purpose) :
    SameSight s (s.afterFetch task p).1
      ∨ ∃ view fails, p = .visiting view fails ∧ SameSight (s.unmount view) (s.afterFetch task p).1 := by
  cases p with
  | visiting view fails => exact Or.inr ⟨view, fails, rfl, finish_sameSight _ task _⟩
  | outcome => exact Or.inl (s.finish_sameSight task _)
  | mounting view => exact Or.inl (s.finish_sameSight task _)
  | saved view login => exact Or.inl (s.finish_sameSight task _)

theorem fetchEnded_viewTurn (f : Nat) (p : Purpose) (outcome : Except Failure (List Login)) :
    ∃ mid, ViewTurn s (.fetchEnded f p) mid ∧ SameSight mid (s.fetchEnded task p outcome).1 := by
  unfold fetchEnded
  split
  · exact (s.finish_sameSight task _).viewTurn _
  · rcases s.afterFetch_sight task p with same | ⟨view, fails, rfl, same⟩
    · exact same.viewTurn _
    · exact ⟨_, .unmounted rfl, same⟩
  · rename_i e view hview
    split
    · rename_i mid heq
      have hmid : (s.report view e).1 = mid := by rw [heq]
      subst hmid
      rcases afterFetch_sight _ task p with same | ⟨other, fails, rfl, same⟩
      · exact ⟨_, .reported, same⟩
      · -- a visitor is told of a failure in the view that it visits
        obtain rfl : other = view := by simpa [Purpose.view?] using hview
        exact ⟨_, .left rfl, same⟩
    · rename_i mid fault heq
      have hmid : (s.report view e).1 = mid := by rw [heq]
      subst hmid
      exact ⟨_, .reported, finish_sameSight _ task _⟩
  · exact (s.finish_sameSight task _).viewTurn _

theorem beginMount_viewTurn {r : Resumption} {view : String} {p : Purpose}
    (wanted : r.Mounts view) (leaves : ∀ w fails, p = .visiting w fails → r.scope? = some w) :
    ∃ mid, ViewTurn s r mid ∧ SameSight mid (s.beginMount task view p).1 := by
  unfold beginMount
  split
  · rcases s.afterFetch_sight task p with same | ⟨w, fails, rfl, same⟩
    · exact same.viewTurn _
    · exact ⟨_, .unmounted (leaves w fails rfl), same⟩
  · rename_i hhidden
    exact ⟨_, .mounted wanted (by simpa using hhidden), revalidate_sameSight _ task _ _⟩

theorem beginSubmit_viewTurn (view : String) (record : NewLogin) :
    ∃ mid, ViewTurn s (.begin (.submit view (.ok record))) mid
      ∧ SameSight mid (s.beginSubmit task view record).1 := by
  unfold beginSubmit
  split
  · rename_i problem hproblem
    exact ⟨_, .formed (.refused hproblem), conclude_sameSight task _ _⟩
  · rename_i hproblem
    refine ⟨_, .formed (.submitted hproblem), ?_⟩
    split
    · rename_i mid heq
      rw [heq]
      exact mid.ask_sameSight task _
    · rename_i mid f heq
      rw [heq]
      exact mid.finish_sameSight task _

theorem begin_viewTurn (c : Call) :
    ∃ mid, ViewTurn s (.begin c) mid ∧ SameSight mid (s.begin task c).1 := by
  cases c with
  | mount view => exact s.beginMount_viewTurn task .mount (by simp)
  | visit view fails =>
    refine s.beginMount_viewTurn task .visit fun w fails h => ?_
    obtain ⟨rfl, -⟩ : view = w ∧ _ := by simpa using h
    rfl
  | revalidate fresh => exact (s.revalidate_sameSight task fresh _).viewTurn _
  | refresh view => exact (s.revalidate_sameSight task false _).viewTurn _
  | list search => exact (s.ask_sameSight task _).viewTurn _
  | create record =>
    cases record with
    | ok record => exact (s.ask_sameSight task _).viewTurn _
    | error why => exact (s.finish_sameSight task _).viewTurn _
  | submit view record =>
    cases record with
    | ok record => exact s.beginSubmit_viewTurn task view record
    | error why => exact (s.finish_sameSight task _).viewTurn _
  | lookup address =>
    simp only [begin]
    split
    · exact (s.finish_sameSight task _).viewTurn _
    · split
      · exact (s.finish_sameSight task _).viewTurn _
      · exact (s.ask_sameSight task _).viewTurn _

theorem answered_viewTurn (e : Errand) (a : Answer) :
    ∃ mid, ViewTurn s (.answered e a) mid ∧ SameSight mid (s.answered task e a).1 := by
  cases e with
  | list p => exact (s.readPage_sameSight task _ _ _ _).viewTurn _
  | lookup key p => exact (s.readPage_sameSight task _ _ _ _).viewTurn _
  | create record =>
    simp only [answered]
    split
    · exact (s.finish_sameSight task _).viewTurn _
    · exact (s.finish_sameSight task _).viewTurn _
  | submit view record =>
    simp only [answered]
    split
    · rename_i login hread
      refine ⟨_, .formed (.saved hread), ?_⟩
      split
      · rename_i mid heq
        rw [heq]
        exact mid.revalidate_sameSight task _ _
      · rename_i mid f heq
        rw [heq]
        exact mid.finish_sameSight task _
    · rename_i e hread
      exact ⟨_, .formed (.failed hread), conclude_sameSight task _ _⟩
    · exact (s.finish_sameSight task _).viewTurn _

variable {s task}

/-- What a task does to views in its turn, and that all else is out of sight. -/
theorem resume_viewTurn {r : Resumption} (ready : s.tasks.lookup task = some (.ready r)) :
    ∃ mid, ViewTurn s r mid ∧ SameSight mid (s.resume task).1 := by
  unfold resume
  rw [ready]
  cases r with
  | begin c => exact s.begin_viewTurn task c
  | answered e a => exact s.answered_viewTurn task e a
  | supersededEnded p => exact (s.awaitFetch_sameSight task p).viewTurn _
  | cancelled => exact (s.finish_sameSight task _).viewTurn _
  | fetchEnded f p =>
    simp only
    split
    · rename_i outcome _
      exact s.fetchEnded_viewTurn task f p outcome
    · exact (SameSight.refl s).viewTurn _

end Turns

/-! ## Every turn -/

/-- What a fetch has read as a whole that succeeds in this turn. -/
def fetched? (s : State) : Turn → Option (List Login)
  | .page f =>
    match s.cache.stage? f with
    | some (.answered p a) =>
      match p.advance s.client.config.pageSize a with
      | .ok (.complete rows) => some rows
      | _ => none
    | _ => none
  | _ => none

/-- All that a turn can do in sight of anybody. -/
inductive TurnSight (s : State) (t : Turn) (s' : State) : Prop
  | aside (same : SameSight s s') (unfetched : s.fetched? t = none)
      (idle : ∀ T r, t = .task T → s.tasks.lookup T ≠ some (.ready r))
  | resumed {T : String} {r : Resumption} {mid : State} (turn : t = .task T)
      (ready : s.tasks.lookup T = some (.ready r)) (work : ViewTurn s r mid)
      (after : SameSight mid s')
  | told {f : Nat} {rows : List Login} (turn : t = .page f) (fetched : s.fetched? t = some rows)
      (after : s' = { (s.replaceSnapshot rows).1 with
        cache := (s.replaceSnapshot rows).1.cache.setStage f (.finished (.ok rows)) })

theorem readFetch_sight (s : State) (f : Nat) : TurnSight s (.page f) (s.readFetch f).1 := by
  have haside (same : SameSight s (s.readFetch f).1) (unfetched : s.fetched? (.page f) = none) :
      TurnSight s (.page f) (s.readFetch f).1 := .aside same unfetched (by simp)
  cases hf : s.cache.fetches[f]? with
  | none =>
    have hread : s.readFetch f = (s, [], none) := by simp [readFetch, hf]
    exact haside (by rw [hread]; exact .refl s) (by simp [fetched?, Cache.stage?, hf])
  | some fetch =>
    rcases fetch with ⟨stage, waiting⟩
    cases stage with
    | answered p a =>
      cases hadvance : p.advance s.client.config.pageSize a with
      | error e =>
        refine haside ?_ (by simp [fetched?, Cache.stage?, hf, hadvance])
        simp only [readFetch, hf, hadvance]
        exact ⟨rfl, rfl, rfl, rfl, rfl⟩
      | ok progress =>
        cases progress with
        | more next =>
          refine haside ?_ (by simp [fetched?, Cache.stage?, hf, hadvance])
          simp only [readFetch, hf, hadvance]
          exact s.askPage_sameSight f next
        | complete rows =>
          have hfetched : s.fetched? (.page f) = some rows := by
            simp [fetched?, Cache.stage?, hf, hadvance]
          refine .told rfl hfetched ?_
          simp only [readFetch, hf, hadvance]
    | _ =>
      have hread : s.readFetch f = (s, [], none) := by simp [readFetch, hf]
      exact haside (by rw [hread]; exact .refl s) (by simp [fetched?, Cache.stage?, hf])

/-- Every turn does one of these things. -/
theorem take_sight (s : State) (t : Turn) : TurnSight s t (s.take t).1 := by
  cases t with
  | page f => exact s.readFetch_sight f
  | task T =>
    by_cases h : ∃ r, s.tasks.lookup T = some (.ready r)
    · rcases h with ⟨r, ready⟩
      rcases resume_viewTurn ready with ⟨mid, work, after⟩
      exact .resumed rfl ready work after
    · have hidle : ∀ r, s.tasks.lookup T ≠ some (.ready r) := fun r hr => h ⟨r, hr⟩
      refine .aside ?_ rfl fun T' r hT => by cases hT; exact hidle r
      simp only [take, resume_idle hidle]
      exact .refl s
  | «open» f =>
    refine .aside ?_ rfl (by simp)
    simp only [take, openFetch]
    split
    · exact s.askPage_sameSight f _
    · exact .refl s
  | settle f =>
    refine .aside ?_ rfl (by simp)
    simp only [take, Cache.settle]
    split
    · exact ⟨rfl, rfl, rfl, rfl, rfl⟩
    · exact .refl s
  | relay f T =>
    refine .aside ?_ rfl (by simp)
    simp only [take, relay]
    split
    · split
      · exact ⟨rfl, rfl, rfl, rfl, rfl⟩
      · exact .refl s
    · split
      · exact ⟨rfl, rfl, rfl, rfl, rfl⟩
      · exact .refl s
    · exact .refl s

/-! ## Every event -/

/-- All that an event can do in sight of anybody: a callback begins or ends to follow the cache, a
view is made or unmounted, its table is edited, or its form is opened or closed. -/
inductive EventSight (s : State) : State → Prop
  | aside {s' : State} (same : SameSight s s') : EventSight s s'
  | subscribed {name : String} {actions : List Action} : EventSight s (s.subscribe name actions)
  | unsubscribed {name : String} {actions : List Action} : EventSight s (s.unsubscribe name actions)
  | made {view : String} {observer : Observer} :
      EventSight s { s with views := s.views.putNew view (.fresh observer) }
  | unmounted {view : String} : EventSight s (s.unmount view)
  | edited (view : String) (edit : Table → Table) :
      EventSight s (s.change view fun v => { v with table := edit v.table }).1
  | formed {view : String} {form : Form} (unmarked : form.submitting = false) :
      EventSight s (s.changeForm view fun _ => form).1

/-- Every event does one of these things. -/
theorem apply_sight (s : State) (e : Event) : EventSight s (s.apply e).state := by
  cases e with
  | spawn T c => exact .aside (s.spawn_sameSight T c)
  | cancel T => exact .aside (s.cancel_sameSight T)
  | respond index a => exact .aside (s.respond_sameSight index a)
  | subscribe name actions => exact .subscribed
  | unsubscribe name actions => exact .unsubscribed
  | newView view observer => exact .made
  | unmount view => exact .unmounted
  | setFilter view text => exact .edited view (·.setFilter text)
  | openForm view => exact .formed rfl
  | closeForm view => exact .formed rfl
  | setOrder view name =>
    simp only [apply]
    split
    · exact .edited view (·.setOrder none)
    · rename_i order _
      exact .edited view (·.setOrder (some order))
    · exact .aside (.refl s)

end State

end LoginVault
