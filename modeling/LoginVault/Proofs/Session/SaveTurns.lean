import LoginVault.Proofs.Session.Callers
import LoginVault.Proofs.Session.Creations

/-!
# Session.SaveTurns — the turns of a task that saves the login of a form

A task that submits the form of a view takes up to four turns: one in which it gives the record up
or posts it, one in which it reads the answer, and up to two in which it is told of fetches. Each is
described as a whole (`GivesUp`, `Posts`, `Accepts`, `Reloads`): what it does to the form, that it
leaves all else alone that is shown, what it asks for, and where it leaves the task. The observer of
the view is taken not to fail in it.
-/

namespace LoginVault

namespace State

variable {s mid s' : State} {T view : String} {record : NewLogin}

/-! ## What is shown -/

/-- Going on from `s` to `s'` changes the form of this view so and leaves all else alone that is
shown: tables, last failures, the other views, the snapshot, those who follow the cache, and the
callbacks. -/
structure FormOnly (s s' : State) (view : String) (g : Form → Form) : Prop where
  views : s'.views = s.views.update view fun v => { v with form := g v.form }
  snapshot : s'.cache.snapshot = s.cache.snapshot
  subscribers : s'.cache.subscribers = s.cache.subscribers
  callbacks : s'.callbacks = s.callbacks

theorem FormOnly.trans {g : Form → Form} (form : FormOnly s mid view g) (same : SameSight mid s') :
    FormOnly s s' view g where
  views := same.views.trans form.views
  snapshot := same.snapshot.trans form.snapshot
  subscribers := same.subscribers.trans form.subscribers
  callbacks := same.callbacks.trans form.callbacks

/-- Calling the observer of a view leaves the cache and the callbacks alone. -/
theorem redraw_apart (s : State) (view : String) :
    (s.redraw view).1.cache = s.cache ∧ (s.redraw view).1.callbacks = s.callbacks := by
  unfold redraw
  split
  · exact ⟨rfl, rfl⟩
  · split <;> exact ⟨rfl, rfl⟩

theorem change_apart (s : State) (view : String) (f : View → View) :
    (s.change view f).1.cache = s.cache ∧ (s.change view f).1.callbacks = s.callbacks :=
  (s.updateView view f).redraw_apart view

theorem changeForm_formOnly (s : State) (view : String) (g : Form → Form) :
    FormOnly s (s.changeForm view g).1 view g where
  views := s.change_views view _
  snapshot := congrArg Cache.snapshot (s.change_apart view _).1
  subscribers := congrArg Cache.subscribers (s.change_apart view _).1
  callbacks := (s.change_apart view _).2

/-- A change of the form has the observer called, which does not fail if it would not fail now. -/
theorem changeForm_eq (draws : s.fault? view = none) (g : Form → Form) :
    s.changeForm view g = ((s.changeForm view g).1, none) :=
  Prod.ext rfl ((s.changeForm_fault view g).trans draws)

/-- A failure that is kept on a view has the observer called, which sees the same rows. -/
theorem report_eq (draws : s.fault? view = none) (e : StoreError) :
    s.report view e = ((s.report view e).1, none) := by
  refine Prod.ext rfl (Eq.trans ?_ draws)
  exact s.change_fault view fun _ => ⟨rfl, rfl⟩

/-! ## The turns -/

/-- In its turn the task gives its record up: it returns nothing, asks for nothing, and changes the
form of the view so. -/
structure GivesUp (s s' : State) (T view : String) (g : Form → Form) : Prop where
  form : FormOnly s s' view g
  cache : s'.cache = s.cache
  pending : s'.pending = s.pending
  deeds : Adds s s' [.finished T (.returned .nothing)]
  now : s'.tasks.lookup T = some (.finished (.returned .nothing))

/-- In its turn the task posts its record, and marks the form of the view. -/
structure Posts (s s' : State) (T view : String) (record : NewLogin) : Prop where
  form : FormOnly s s' view ({ · with submitting := true, error := "" })
  cache : s'.cache = s.cache
  pending : s'.pending = s.pending ++ [(.task T, .create record)]
  deeds : Adds s s' [.sent (.create record)]
  now : s'.tasks.lookup T = some (.waiting (.answer (.submit view record)))

/-- In its turn the task learns that its login was created: it closes the form of the view, calls
for a fresh snapshot and for nothing else, and goes on to wait for the next fetch to begin. -/
structure Accepts (s s' : State) (T view : String) (login : Login) : Prop where
  form : FormOnly s s' view fun _ => .closed
  calls : s.Calls T true (.saved view login)
  pending : s'.pending = s.pending
  deeds : Adds s s' []
  waits : ∃ w, s'.tasks.lookup T = some (.waiting w)
  pursues : s'.Pursues T s.cache.fetches.length (.saved view login)

/-- In its turn the task learns how the fetch ended that it had called for: it returns its login in
any case, and keeps a failure on the view. Nothing else is shown in another way. -/
structure Reloads (s s' : State) (T view : String) (login : Login)
    (r : Except Failure (List Login)) : Prop where
  read : ∀ rows, r = .ok rows → s'.views = s.views
  failed : ∀ f, r = .error f → ∃ e, f = .store e
    ∧ s'.views = s.views.update view fun v => { v with lastError := some e }
  cache : s'.cache = s.cache
  callbacks : s'.callbacks = s.callbacks
  pending : s'.pending = s.pending
  deeds : Adds s s' [.finished T (.returned (.login login))]
  now : s'.tasks.lookup T = some (.finished (.returned (.login login)))

/-- A task that calls for a snapshot sends nothing. -/
theorem revalidate_pending (s : State) (T : String) (fresh : Bool) (p : Purpose) :
    (s.revalidate T fresh p).1.pending = s.pending := by
  unfold revalidate awaitFetch
  split
  · rfl
  · split <;> rfl

theorem conclude_givesUp (draws : s.fault? view = none) (g : Form → Form) :
    GivesUp s (conclude T .nothing (s.changeForm view g)).1 T view g := by
  rw [changeForm_eq draws g]
  have hadds : Adds s (s.changeForm view g).1 [] := s.change_adds view _
  exact {
    form := (s.changeForm_formOnly view _).trans (finish_sameSight _ T _)
    cache := (s.change_apart view _).1
    pending := (s.changeForm_sameWork view g).pending
    deeds := hadds.trans (finish_adds _ T _)
    now := by simp [conclude] }

/-- The first turn of a task whose record has a problem. -/
theorem resume_blank {problem : FormProblem}
    (ready : s.tasks.lookup T = some (.ready (.begin (.submit view (.ok record)))))
    (why : record.problem? = some problem) (draws : s.fault? view = none) :
    GivesUp s (s.resume T).1 T view ({ · with error := problem.message }) := by
  have hresume : s.resume T
      = conclude T .nothing (s.changeForm view ({ · with error := problem.message })) := by
    simp only [resume, ready, begin, beginSubmit, why]
  rw [hresume]
  exact conclude_givesUp draws _

/-- The first turn of a task whose record has no problem. -/
theorem resume_posts
    (ready : s.tasks.lookup T = some (.ready (.begin (.submit view (.ok record)))))
    (complete : record.problem? = none) (draws : s.fault? view = none) :
    Posts s (s.resume T).1 T view record := by
  let g : Form → Form := ({ · with submitting := true, error := "" })
  have hresume : s.resume T = (s.changeForm view g).1.ask T (.submit view record) := by
    simp only [resume, ready, begin, beginSubmit, complete]
    rw [changeForm_eq draws g]
  have hadds : Adds s (s.changeForm view g).1 [] := s.change_adds view _
  have hasked : Adds (s.changeForm view g).1
      ((s.changeForm view g).1.ask T (.submit view record)).1 [.sent (.create record)] :=
    note_deed_adds _ rfl
  have hpending := (s.changeForm_sameWork view g).pending
  rw [hresume]
  exact {
    form := (s.changeForm_formOnly view _).trans (ask_sameSight _ T _)
    cache := (s.change_apart view _).1
    pending := congrArg (· ++ [(Owner.task T, Query.create record)]) hpending
    deeds := hadds.trans hasked
    now := by simp }

/-- The turn in which a task reads that its login was not created. -/
theorem resume_refused {a : Answer} {e : StoreError}
    (ready : s.tasks.lookup T = some (.ready (.answered (.submit view record) a)))
    (read : a.result (.create record) Response.created = .error (.store e))
    (draws : s.fault? view = none) :
    GivesUp s (s.resume T).1 T view ({ · with submitting := false, error := e.message }) := by
  have hresume : s.resume T = conclude T .nothing
      (s.changeForm view ({ · with submitting := false, error := e.message })) := by
    simp only [resume, ready, answered, read]
  rw [hresume]
  exact conclude_givesUp draws _

/-- A task that is told of a fetch after its login was created. -/
theorem resume_reloads {n : Nat} {login : Login} {r : Except Failure (List Login)}
    (ready : s.tasks.lookup T = some (.ready (.fetchEnded n (.saved view login))))
    (outcome : s.cache.outcome? n = some r) (reportable : Reportable r)
    (draws : s.fault? view = none) : Reloads s (s.resume T).1 T view login r := by
  have hread : s.cache.fetches[n]?.bind Fetch.outcome? = some r := outcome
  cases reportable with
  | value rows =>
    have hresume : s.resume T = (s.finish T (.returned (.login login)), none) := by
      simp only [resume, ready, hread, fetchEnded, Purpose.view?, afterFetch]
    rw [hresume]
    exact {
      read := fun _ _ => rfl
      failed := by simp
      cache := rfl
      callbacks := rfl
      pending := rfl
      deeds := finish_adds s T _
      now := by simp }
  | failure e =>
    have hresume : s.resume T
        = ((s.report view e).1.finish T (.returned (.login login)), none) := by
      simp only [resume, ready, hread, fetchEnded, Purpose.view?]
      rw [report_eq draws e]
      rfl
    have hadds : Adds s (s.report view e).1 [] := s.change_adds view _
    rw [hresume]
    exact {
      read := by simp
      failed := fun f failed => ⟨e, (Except.error.inj failed).symm, s.change_views view _⟩
      cache := (s.change_apart view _).1
      callbacks := (s.change_apart view _).2
      pending := (s.report_sameWork view e).pending
      deeds := hadds.trans (finish_adds _ T _)
      now := by simp }

/-- A task that is on its way to a fetch has no work of its own to do. -/
theorem Pursues.not_own {n : Nat} {p : Purpose} {r : Resumption} (pursues : s.Pursues T n p)
    (ready : s.tasks.lookup T = some (.ready r)) : ¬ r.IsOwn := by
  have hfound {r' : Resumption} (now : s.tasks.lookup T = some (.ready r')) : r' = r := by
    simpa using now.symm.trans ready
  cases pursues with
  | behind now _ => simp [now] at ready
  | released now _ => exact hfound now ▸ id
  | follows follows =>
    cases follows with
    | told now => exact hfound now ▸ id
    | stopped now => exact hfound now ▸ id
    | waits now | cancelled now | ended _ _ now => simp [now] at ready

/-- A task that is on its way to a fetch is told of this fetch and of no other. -/
theorem Pursues.of_told {n f : Nat} {p q : Purpose} (pursues : s.Pursues T n p)
    (ready : s.tasks.lookup T = some (.ready (.fetchEnded f q))) : f = n ∧ q = p := by
  cases pursues with
  | behind now _ => simp [now] at ready
  | released now _ => simp [now] at ready
  | follows follows =>
    cases follows with
    | told now => simpa [eq_comm] using now.symm.trans ready
    | waits now | stopped now | cancelled now | ended _ _ now => simp [now] at ready

/-- A task that calls for a snapshot begins, and submits no form, or has read that the login of a
form was created. -/
theorem Calls.found {fresh : Bool} {p : Purpose} (calls : s.Calls T fresh p) :
    (∃ c, s.tasks.lookup T = some (.ready (.begin c)) ∧ ∀ view record, c ≠ .submit view record)
      ∨ ∃ view record a login,
        s.tasks.lookup T = some (.ready (.answered (.submit view record) a))
          ∧ a.result (.create record) Response.created = .ok login
          ∧ fresh = true ∧ p = .saved view login := by
  cases calls with
  | revalidate ready => exact Or.inl ⟨_, ready, by simp⟩
  | refresh ready => exact Or.inl ⟨_, ready, by simp⟩
  | mount ready _ => exact Or.inl ⟨_, ready, by simp⟩
  | visit ready _ => exact Or.inl ⟨_, ready, by simp⟩
  | created ready read _ => exact Or.inr ⟨_, _, _, _, ready, read, rfl, rfl⟩

/-- The turn of a task that is on its way to a fetch of which it was not told yet. -/
theorem Pursues.turn {n : Nat} {p : Purpose} (pursues : s.Pursues T n p)
    (active : ∀ o, s.tasks.lookup T ≠ some (.finished o))
    (uncancelled : s.tasks.lookup T ≠ some (.ready .cancelled))
    (untold : s.tasks.lookup T ≠ some (.ready (.fetchEnded n p))) :
    (∀ r, s.tasks.lookup T ≠ some (.ready r)) ∨ s.resume T = s.awaitFetch T p := by
  cases pursues with
  | behind now _ => exact Or.inl (by simp [now])
  | released now _ => exact Or.inr (by simp [State.resume, now])
  | follows follows =>
    cases follows with
    | waits now => exact Or.inl (by simp [now])
    | told now => exact absurd now untold
    | stopped now => exact absurd now uncancelled
    | cancelled now => exact absurd now (active _)
    | ended _ _ now => exact absurd now (active _)

end State

namespace Session

open State

variable {s : Session} {T view : String} {record : NewLogin}

/-- The turn in which a task reads that its login was created. -/
theorem Inv.resume_accepts (inv : Inv s) {a : Answer} {login : Login}
    (ready : s.state.tasks.lookup T = some (.ready (.answered (.submit view record) a)))
    (read : a.result (.create record) Response.created = .ok login)
    (draws : s.state.fault? view = none) :
    Accepts s.state (s.state.resume T).1 T view login := by
  have hform := changeForm_eq draws fun _ => .closed
  have calls : s.state.Calls T true (.saved view login) :=
    .created ready read (congrArg Prod.snd hform)
  have hpursues := inv.pursues_of_calls calls
  let mid := (s.state.changeForm view fun _ => .closed).1
  have hresume : s.state.resume T = mid.revalidate T true (.saved view login) := by
    simp only [resume, ready, answered, read]
    rw [hform]
  have hadds : Adds s.state mid [] := s.state.change_adds view _
  rw [hresume] at hpursues ⊢
  exact {
    form := (s.state.changeForm_formOnly view _).trans (mid.revalidate_sameSight T true _)
    calls := calls
    pending := (mid.revalidate_pending T true _).trans (s.state.changeForm_sameWork view _).pending
    deeds := hadds.trans (mid.revalidate_adds T true _)
    waits := mid.revalidate_waiting T true _
    pursues := hpursues }

end Session

end LoginVault
