import LoginVault.Proofs.Session.Notices
import LoginVault.Proofs.Session.Waiters

/-!
# Session.Serving — sessions for one view

A session serves a view if only this view follows its cache and every task is there for this
view: to have it mounted, to refresh it, or to submit its form. A turn of such a task does little
(`ServedTurn`): it may change the form of the view or the failure that is kept on it, and then it
finishes, asks for a login to be created, or waits for a fetch.

An event that starts, cancels or answers a task, and every turn of a fetch that does not succeed
in it, is not noticed in such a session.
-/

namespace LoginVault

/-! ## Tasks for one view -/

/-- What a task for the view `w` wants of a fetch. -/
inductive Purpose.Serves (w : String) : Purpose → Prop
  | outcome : Serves w .outcome
  | mounting : Serves w (.mounting w)
  | saved {l : Login} : Serves w (.saved w l)

/-- What a task for the view `w` finds when its turn comes. -/
inductive Resumption.Serves (w : String) : Resumption → Prop
  | refresh {view : String} : Serves w (.begin (.refresh view))
  | submit {record : NewLogin} : Serves w (.begin (.submit w (.ok record)))
  | answered {record : NewLogin} {a : Answer} : Serves w (.answered (.submit w record) a)
  | released {p : Purpose} (purpose : p.Serves w) : Serves w (.supersededEnded p)
  | told {f : Nat} {p : Purpose} (purpose : p.Serves w) : Serves w (.fetchEnded f p)
  | cancelled : Serves w .cancelled

/-- What a task for the view `w` waits for. -/
inductive Wait.Serves (w : String) : Wait → Prop
  | answer {record : NewLogin} : Serves w (.answer (.submit w record))
  | superseded {f : Nat} {p : Purpose} (purpose : p.Serves w) : Serves w (.superseded f p)
  | fetch {f : Nat} {p : Purpose} (purpose : p.Serves w) : Serves w (.fetch f p)

/-- A task for the view `w`. -/
inductive Task.Serves (w : String) : Task → Prop
  | ready {r : Resumption} (found : r.Serves w) : Serves w (.ready r)
  | waiting {wait : Wait} (waits : wait.Serves w) : Serves w (.waiting wait)
  | finished {o : Outcome} : Serves w (.finished o)

/-- Whether this change of a view leaves its observer as it is. -/
def KeepsObserver (f : View → View) : Prop := ∀ v, (f v).observer = v.observer

namespace State

/-! ## The turn of a task -/

/-- What a turn of a task for the view `w` does. -/
inductive ServedTurn (w : String) (s : State) (T : String) (r : Resumption) :
    State × Option Nat → Prop
  | finished {o : Outcome} (fails : ∀ f p e, r = .fetchEnded f p →
      s.cache.outcome? f = some (.error e) → ∃ g, o = .raised g) :
      ServedTurn w s T r (s.finish T o, none)
  | changed {f : View → View} {mid : State} {fault : Option Failure} {o : Outcome}
      (kept : KeepsObserver f) (change : s.change w f = (mid, fault))
      (fails : ∀ g, fault = some g → o = .raised g) : ServedTurn w s T r (mid.finish T o, none)
  | asked {f : View → View} {mid : State} {record : NewLogin} (kept : KeepsObserver f)
      (change : s.change w f = (mid, none)) : ServedTurn w s T r (mid.ask T (.submit w record))
  | saved {f : View → View} {mid : State} {l : Login} (kept : KeepsObserver f)
      (change : s.change w f = (mid, none)) :
      ServedTurn w s T r (mid.revalidate T true (.saved w l))
  | joined {p : Purpose} (purpose : p.Serves w) : ServedTurn w s T r (s.awaitFetch T p)
  | early : ServedTurn w s T r (s, none)

section Turn

variable {w T : String} {s : State}

theorem form_keepsObserver (g : Form → Form) :
    KeepsObserver fun v => { v with form := g v.form } := fun _ => rfl

theorem conclude_served {r : Resumption} (v : Value) (g : Form → Form) :
    ServedTurn w s T r (conclude T v (s.changeForm w g)) := by
  cases h : s.changeForm w g with
  | mk mid fault =>
    cases fault with
    | none => exact .changed (form_keepsObserver g) h (by simp)
    | some f => exact .changed (form_keepsObserver g) h (by simp)

theorem beginSubmit_served {r : Resumption} (record : NewLogin) :
    ServedTurn w s T r (s.beginSubmit T w record) := by
  unfold beginSubmit
  split
  · exact conclude_served .nothing _
  · split
    · rename_i mid h
      exact .asked (form_keepsObserver ({ · with submitting := true, error := "" })) h
    · rename_i mid f h
      exact .changed (form_keepsObserver ({ · with submitting := true, error := "" })) h (by simp)

theorem answered_served {r : Resumption} (record : NewLogin) (a : Answer)
    (own : ∀ f p, r ≠ .fetchEnded f p) :
    ServedTurn w s T r (s.answered T (.submit w record) a) := by
  simp only [answered]
  split
  · split
    · rename_i mid h
      exact .saved (form_keepsObserver fun _ => .closed) h
    · rename_i mid f h
      exact .changed (form_keepsObserver fun _ => .closed) h (by simp)
  · exact conclude_served .nothing _
  · exact .finished fun f p _ h => absurd h (own f p)

/-- A failure of the store is kept on the view if the task is there for its rows. -/
theorem storeFailed_served {f : Nat} {p : Purpose} {e : StoreError} {o : Outcome}
    (view : Purpose.view? p = some w)
    (goesOn : ∀ s : State, s.afterFetch T p = (s.finish T o, none)) :
    ServedTurn w s T (.fetchEnded f p) (s.fetchEnded T p (.error (.store e))) := by
  have hkept : KeepsObserver fun v => { v with lastError := some e } := fun _ => rfl
  simp only [State.fetchEnded, view, goesOn]
  split
  · rename_i mid h
    exact .changed hkept h (by simp)
  · rename_i mid g h
    exact .changed hkept h (by simp)

theorem fetchEnded_served {f : Nat} {p : Purpose} (serves : p.Serves w)
    {outcome : Except Failure (List Login)} (ended : s.cache.outcome? f = some outcome) :
    ServedTurn w s T (.fetchEnded f p) (s.fetchEnded T p outcome) := by
  cases outcome with
  | ok logins =>
    have hread : ∀ g q e, Resumption.fetchEnded f p = .fetchEnded g q →
        s.cache.outcome? g ≠ some (.error e) := by
      rintro g q e ⟨⟩
      simp [ended]
    cases serves with
    | outcome => exact .finished fun g q e h h' => absurd h' (hread g q e h)
    | mounting => exact .finished fun g q e h h' => absurd h' (hread g q e h)
    | saved => exact .finished fun g q e h h' => absurd h' (hread g q e h)
  | error e =>
    have hraised : ServedTurn w s T (.fetchEnded f p) (s.finish T (.raised e), none) :=
      .finished fun _ _ _ _ _ => ⟨e, rfl⟩
    cases serves with
    | outcome => cases e <;> exact hraised
    | mounting => cases e <;> first | exact storeFailed_served rfl fun _ => rfl | exact hraised
    | saved => cases e <;> first | exact storeFailed_served rfl fun _ => rfl | exact hraised

/-- Every turn of a task for the view does one of these things. -/
theorem resume_served {r : Resumption} (ready : s.tasks.lookup T = some (.ready r))
    (serves : r.Serves w) : ServedTurn w s T r (s.resume T) := by
  unfold resume
  rw [ready]
  cases serves with
  | refresh => exact .joined .outcome
  | submit => exact beginSubmit_served _
  | answered => exact answered_served _ _ (by simp)
  | released purpose => exact .joined purpose
  | cancelled => exact .finished (by simp)
  | @told f p purpose =>
    have hread : s.cache.fetches[f]?.bind Fetch.outcome? = s.cache.outcome? f := rfl
    simp only [hread]
    cases ended : s.cache.outcome? f with
    | none => exact .early
    | some outcome => exact fetchEnded_served purpose ended

end Turn

/-! ## Sessions for one view -/

/-- Whether the session is there for the view of this name: the view fills a grid, it alone
follows the cache, and all tasks are there for it. -/
structure Serving (s : State) (w : String) : Prop where
  view : ∃ v, s.views.lookup w = some v ∧ v.observer = .grid
  subscribers : s.cache.subscribers = [.view w]
  tasks : ∀ T x, s.tasks.lookup T = some x → x.Serves w

/-- Whether this is what can be seen of the view. -/
structure Shows (s : State) (w : String) (seen : Seen) : Prop where
  rows : (s.views.lookup w).map (·.table.rows) = some seen.rows
  total : seen.total = s.cache.snapshot.length
  loading : seen.loading = true → s.MayShowLoading

section Serving

variable {w : String} {s s' : State}

theorem Serving.congr (serving : s.Serving w) (views : s'.views = s.views)
    (subscribers : s'.cache.subscribers = s.cache.subscribers)
    (tasks : ∀ T x, s'.tasks.lookup T = some x → s.tasks.lookup T = some x ∨ x.Serves w) :
    s'.Serving w where
  view := views ▸ serving.view
  subscribers := subscribers.trans serving.subscribers
  tasks T x h := (tasks T x h).elim (serving.tasks T x) id

theorem Shows.congr {seen : Seen} (shows : s.Shows w seen) (views : s'.views = s.views)
    (snapshot : s'.cache.snapshot = s.cache.snapshot)
    (loading : seen.loading = true → s'.MayShowLoading) : s'.Shows w seen :=
  ⟨views ▸ shows.rows, snapshot ▸ shows.total, loading⟩

/-- Between `s` and `s'` the view was changed and its observer called, which saw this. -/
structure Seeing (s s' : State) (w : String) (fault : Option Failure) (seen : Seen) : Prop where
  serving : s'.Serving w
  cache : s'.cache = s.cache
  tasks : s'.tasks = s.tasks
  shows : s'.Shows w seen
  loading : seen.loading = s.cache.isLoading
  fault : fault = Observer.grid.fault? seen.rows
  journal : s'.journal = s.journal ++ [.redrawn w seen]

/-- A change of the view is written into the journal as it is seen. -/
theorem Serving.change (serving : s.Serving w) {f : View → View} (kept : KeepsObserver f)
    {fault : Option Failure} (change : s.change w f = (s', fault)) :
    ∃ seen, Seeing s s' w fault seen := by
  obtain ⟨v, hview, hgrid⟩ := serving.view
  have hlookup : (s.updateView w f).views.lookup w = some (f v) := by
    simp [updateView, Named.lookup_update, hview]
  have hobserver : (f v).observer = .grid := (kept v).trans hgrid
  have hchange : s.change w f
      = ((s.updateView w f).note (.redrawn w ((s.updateView w f).seen (f v))),
        Observer.grid.fault? (f v).table.rows) := by
    simp [State.change, redraw, hlookup, hobserver]
  obtain ⟨rfl, rfl⟩ : _ = s' ∧ _ = fault := by simpa using hchange.symm.trans change
  exact ⟨_, ⟨⟨f v, hlookup, hobserver⟩, serving.subscribers, serving.tasks⟩, rfl, rfl,
    ⟨congrArg (Option.map _) hlookup, rfl, fun h => .loads h⟩, rfl, rfl, rfl⟩

/-- A task for the view leaves the session to it. -/
theorem Serving.set (serving : s.Serving w) (same : SameSight s s') {T : String} {x : Task}
    (serves : x.Serves w)
    (tasks : ∀ U, s'.tasks.lookup U = if U = T then some x else s.tasks.lookup U) :
    s'.Serving w := by
  refine serving.congr same.views same.subscribers fun U y h => ?_
  rw [tasks U] at h
  split at h
  · obtain rfl : x = y := by simpa using h
    exact Or.inr serves
  · exact Or.inl h

/-- A task for the view begins to wait for a fetch, and the cache is loading. -/
structure BeginsToWait (s s' : State) (w T : String) : Prop where
  same : SameSight s s'
  journal : s'.journal = s.journal
  loads : s'.cache.isLoading = true
  tasks : ∃ wait : Wait, wait.Serves w
    ∧ ∀ U, s'.tasks.lookup U = if U = T then some (.waiting wait) else s.tasks.lookup U

theorem isLoading_addWaiting {c : Cache} {f : Nat} (inflight : c.inflight = some f)
    (running : c.isRunning f = true) (T : String) : (c.addWaiting f T).isLoading = true :=
  Option.isSome_iff_exists.mpr ⟨f, Cache.running?_eq_some_iff.mpr
    ⟨inflight, (Cache.isRunning_addWaiting f T).trans running⟩⟩

theorem awaitFetch_waits (T : String) {p : Purpose} (serves : p.Serves w) :
    BeginsToWait s (s.awaitFetch T p).1 w T := by
  refine ⟨s.awaitFetch_sameSight T p, ?_, ?_, _, .fetch serves,
    fun U => s.lookup_awaitFetch T U p⟩
  · unfold awaitFetch
    split <;> rfl
  · unfold awaitFetch
    split
    · rename_i f running
      obtain ⟨inflight, running⟩ := Cache.running?_eq_some_iff.mp running
      exact isLoading_addWaiting inflight running T
    · exact isLoading_addWaiting rfl (by simp [Cache.isRunning_beginFetch]) T

theorem revalidate_waits (T : String) {p : Purpose} (serves : p.Serves w) :
    BeginsToWait s (s.revalidate T true p).1 w T := by
  cases running : s.cache.running? with
  | none =>
    have hawait : s.revalidate T true p = s.awaitFetch T p := by simp [revalidate, running]
    exact hawait ▸ awaitFetch_waits T serves
  | some f =>
    obtain ⟨inflight, hrunning⟩ := Cache.running?_eq_some_iff.mp running
    have hwait : s.revalidate T true p = ({ s with cache := s.cache.addWaiting f T }.setTask T
        (.waiting (.superseded f p)), none) := by simp [revalidate, running]
    rw [hwait]
    exact ⟨⟨rfl, rfl, rfl, rfl, rfl⟩, rfl, isLoading_addWaiting inflight hrunning T,
      _, .superseded serves, fun U => lookup_setTask _ T U _⟩

end Serving

/-! ## What is not noticed -/

section Quiet

variable {w : String} {s s' : State}

/-- Every task stands as before, or has a turn coming and is there for the view. -/
def Readies (s s' : State) (w : String) : Prop :=
  ∀ T, s'.tasks.lookup T = s.tasks.lookup T
    ∨ ∃ r, s'.tasks.lookup T = some (.ready r) ∧ r.Serves w

/-- Every task stands as before, or waited, has a turn coming now, and is there for the view. -/
def Wakes (s s' : State) (w : String) : Prop :=
  ∀ T, s'.tasks.lookup T = s.tasks.lookup T
    ∨ ∃ wait r, s.tasks.lookup T = some (.waiting wait)
      ∧ s'.tasks.lookup T = some (.ready r) ∧ r.Serves w

theorem Wakes.refl (s : State) (w : String) : Wakes s s w := fun _ => Or.inl rfl

theorem Wakes.readies (wakes : Wakes s s' w) : Readies s s' w := fun T =>
  (wakes T).imp_right fun ⟨_, r, _, now, found⟩ => ⟨r, now, found⟩

theorem readies_setTask {r : Resumption} (found : r.Serves w) (U : String)
    (tasks : s'.tasks = s.tasks.put U (.ready r)) : Readies s s' w := by
  intro T
  rw [tasks, Named.lookup_put]
  split
  · exact Or.inr ⟨r, rfl, found⟩
  · exact Or.inl rfl

theorem wakes_setTask {U : String} {wait : Wait} {r : Resumption}
    (waiting : s.tasks.lookup U = some (.waiting wait)) (found : r.Serves w)
    (tasks : s'.tasks = s.tasks.put U (.ready r)) : Wakes s s' w := by
  intro T
  rw [tasks, Named.lookup_put]
  split
  · rename_i hT
    exact Or.inr ⟨wait, r, hT ▸ waiting, rfl, found⟩
  · exact Or.inl rfl

theorem spawn_quiet (T : String) {c : Call} (found : (Resumption.begin c).Serves w) :
    Unnoticed s (s.spawn T c).1 ∧ Readies s (s.spawn T c).1 w := by
  unfold spawn
  split
  · exact ⟨.refl s, (Wakes.refl s w).readies⟩
  · exact ⟨.quietly rfl rfl rfl rfl rfl, readies_setTask found T rfl⟩

theorem cancel_quiet (T : String) : Unnoticed s (s.cancel T).1 ∧ Readies s (s.cancel T).1 w := by
  unfold cancel
  split
  · exact ⟨.quietly rfl rfl rfl rfl rfl, readies_setTask .cancelled T rfl⟩
  · exact ⟨.quietly rfl rfl rfl rfl rfl, readies_setTask .cancelled T rfl⟩
  · exact ⟨.refl s, (Wakes.refl s w).readies⟩

theorem Serving.respond_quiet (serving : s.Serving w) (index : Nat) (a : Answer) :
    Unnoticed s (s.respond index a).1 ∧ Wakes s (s.respond index a).1 w := by
  unfold respond
  split
  · exact ⟨.refl s, .refl s w⟩
  · simp only
    split
    · split
      · rename_i e waiting
        have hfound : (Resumption.answered e a).Serves w := by
          cases serving.tasks _ _ waiting with
          | waiting waits => cases waits with
            | answer => exact .answered
        exact ⟨.quietly rfl rfl rfl rfl rfl, wakes_setTask waiting hfound rfl⟩
      · exact ⟨.quietly rfl rfl rfl rfl rfl, fun _ => Or.inl rfl⟩
    · split
      · exact ⟨.quietly rfl rfl rfl rfl rfl, fun _ => Or.inl rfl⟩
      · exact ⟨.quietly rfl rfl rfl rfl rfl, fun _ => Or.inl rfl⟩

/-- In a turn of a fetch no task does more than to be told of its end. -/
theorem Serving.fetch_wakes (serving : s.Serving w) {t : Turn} {f : Nat}
    (ofFetch : t.fetch? = some f) : Wakes s (s.take t).1 w := by
  have hsame (tasks : (s.take t).1.tasks = s.tasks) : Wakes s (s.take t).1 w :=
    fun _ => Or.inl (by rw [tasks])
  cases t with
  | task U => cases ofFetch
  | settle g => exact hsame rfl
  | «open» g =>
    apply hsame
    simp only [take, openFetch]
    split <;> rfl
  | page g =>
    apply hsame
    simp only [take, readFetch]
    split
    · split
      · rfl
      · simp only [replaceSnapshot, serving.subscribers, tellAll, tell]
        rw [(change_sameWork _ w _).tasks]
      · rfl
    · rfl
  | relay g U =>
    simp only [take, relay]
    split
    · rename_i g' p waiting
      split
      · cases serving.tasks U _ waiting with
        | waiting waits => cases waits with
          | fetch purpose => exact wakes_setTask waiting (.told purpose) rfl
      · exact .refl s w
    · rename_i g' p waiting
      split
      · cases serving.tasks U _ waiting with
        | waiting waits => cases waits with
          | superseded purpose => exact wakes_setTask waiting (.released purpose) rfl
      · exact .refl s w
    · exact .refl s w

/-- In a turn a task that waits may be woken; no other task moves but the one whose turn it is. -/
theorem Serving.take_wakes (serving : s.Serving w) (t : Turn) :
    Wakes s (s.take t).1 w ∨ ∃ T r, t = .task T ∧ s.tasks.lookup T = some (.ready r)
      ∧ ∀ U, U ≠ T → (s.take t).1.tasks.lookup U = s.tasks.lookup U := by
  cases t with
  | «open» f | page f | settle f | relay f T => exact Or.inl (serving.fetch_wakes rfl)
  | task T =>
    by_cases h : ∃ r, s.tasks.lookup T = some (.ready r)
    · obtain ⟨r, ready⟩ := h
      exact Or.inr ⟨T, r, rfl, ready, fun U => (resume_turn ready).others⟩
    · have hidle : (s.take (.task T)).1 = s :=
        congrArg Prod.fst (resume_idle fun r hr => h ⟨r, hr⟩)
      rw [hidle]
      exact Or.inl (.refl s w)

/-- No turn starts a task. -/
theorem Serving.take_unused (serving : s.Serving w) (t : Turn) {T : String}
    (unused : s.tasks.lookup T = none) : (s.take t).1.tasks.lookup T = none := by
  rcases serving.take_wakes t with wakes | ⟨U, r, -, ready, others⟩
  · rcases wakes T with same | ⟨wait, r, waiting, -, -⟩
    · exact same.trans unused
    · simp [unused] at waiting
  · have hT : T ≠ U := by
      rintro rfl
      simp [unused] at ready
    exact (others T hT).trans unused

/-- A task keeps its turn until it takes it. -/
theorem Serving.take_ready (serving : s.Serving w) (t : Turn) {T : String} {r : Resumption}
    (ready : s.tasks.lookup T = some (.ready r)) (other : t ≠ .task T) :
    (s.take t).1.tasks.lookup T = some (.ready r) := by
  rcases serving.take_wakes t with wakes | ⟨U, r', turn, -, others⟩
  · rcases wakes T with same | ⟨wait, r', waiting, -, -⟩
    · exact same.trans ready
    · simp [ready] at waiting
  · have hT : T ≠ U := by
      rintro rfl
      exact other turn
    exact (others T hT).trans ready

/-- A turn of a fetch that does not succeed in it is not noticed. -/
theorem take_unnoticed {t : Turn} {f : Nat} (ofFetch : t.fetch? = some f)
    (unfetched : s.fetched? t = none) : Unnoticed s (s.take t).1 := by
  cases t with
  | task U => cases ofFetch
  | «open» g =>
    simp only [take, openFetch]
    split
    · exact s.askPage_unnoticed g _
    · exact .refl s
  | page g =>
    simp only [take, readFetch]
    split
    · rename_i p a waiting hf
      split
      · exact s.askPage_unnoticed g _
      · rename_i rows hadvance
        simp [fetched?, Cache.stage?, hf, hadvance] at unfetched
      · exact .quietly rfl rfl rfl rfl rfl
    · exact .refl s
  | settle g =>
    simp only [take, Cache.settle]
    split
    · exact .quietly rfl rfl rfl rfl rfl
    · exact .refl s
  | relay g U =>
    simp only [take, relay]
    split
    · split
      · exact .quietly rfl rfl rfl rfl rfl
      · exact .refl s
    · split
      · exact .quietly rfl rfl rfl rfl rfl
      · exact .refl s
    · exact .refl s

end Quiet

end State

end LoginVault
