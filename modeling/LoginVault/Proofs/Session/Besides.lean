import LoginVault.Proofs.Session.Turns

/-!
# Session.Besides — what a session does besides some of its tasks

`State.besides` takes some tasks for cancelled, wherever they stand, and leaves their ends out of
the journal. All else is kept. Whatever is done on behalf of other tasks, of views, followers and
fetches does not depend on where those tasks stand, so it can be done before or after: one lemma
for each function of a session says that the two commute.
-/

namespace LoginVault

/-- The values, with another value under all of these names that are in use. -/
def Named.fill {α : Type} (names : List String) (value : α) (xs : Named α) : Named α :=
  xs.map fun x => if x.1 ∈ names then (x.1, value) else x

namespace Named

variable {α : Type} (names : List String) (value : α) (xs : Named α)

theorem lookup_fill (name : String) :
    (fill names value xs).lookup name
      = if name ∈ names then (xs.lookup name).map fun _ => value else xs.lookup name := by
  induction xs with
  | nil => simp [fill]
  | cons x rest ih => grind [fill]

/-- Another name is put before or after. -/
theorem put_fill {name : String} (other : name ∉ names) (v : α) :
    put name v (fill names value xs) = fill names value (put name v xs) := by
  induction xs with
  | nil => simp [fill, put, other]
  | cons x rest ih => grind [fill, put]

/-- What was put under one of the names does not matter. -/
theorem fill_put {name : String} (mem : name ∈ names) (used : xs.lookup name ≠ none) (v : α) :
    fill names value (put name v xs) = fill names value xs := by
  induction xs with
  | nil => simp at used
  | cons x rest ih => grind [fill, put]

end Named

/-- Whether the entry tells of the end of one of these tasks. -/
def Entry.tellsEndOf (ts : List String) : Entry → Bool
  | .finished T _ => T ∈ ts
  | _ => false

namespace State

/-- The state with these tasks taken for cancelled, and their ends not told of. -/
def besides (s : State) (ts : List String) : State :=
  { s with
    tasks := s.tasks.fill ts (.finished .cancelled)
    journal := s.journal.filter (!Entry.tellsEndOf ts ·) }

@[simp] theorem client_besides (s : State) (ts : List String) :
    (s.besides ts).client = s.client := rfl

@[simp] theorem cache_besides (s : State) (ts : List String) :
    (s.besides ts).cache = s.cache := rfl

@[simp] theorem views_besides (s : State) (ts : List String) :
    (s.besides ts).views = s.views := rfl

@[simp] theorem callbacks_besides (s : State) (ts : List String) :
    (s.besides ts).callbacks = s.callbacks := rfl

@[simp] theorem pending_besides (s : State) (ts : List String) :
    (s.besides ts).pending = s.pending := rfl

/-- The names of the tasks are in use. -/
def Uses (s : State) (ts : List String) : Prop := ∀ T ∈ ts, s.tasks.lookup T ≠ none

section

variable {s : State} {ts : List String} {U : String}

theorem lookup_besides (h : U ∉ ts) : (s.besides ts).tasks.lookup U = s.tasks.lookup U := by
  simp [besides, Named.lookup_fill, h]

theorem lookup_besides_mem {T : String} (used : s.Uses ts) (h : T ∈ ts) :
    (s.besides ts).tasks.lookup T = some (.finished .cancelled) := by
  have hused := used T h
  cases ht : s.tasks.lookup T with
  | none => exact absurd ht hused
  | some t => simp [besides, Named.lookup_fill, h, ht]

/-- Whatever is written but the end of one of the tasks is written besides them. -/
theorem note_besides (s : State) {e : Entry} (h : e.tellsEndOf ts = false) :
    (s.besides ts).note e = (s.note e).besides ts := by
  simp [note, besides, List.filter_append, h]

theorem send_besides (s : State) (o : Owner) (q : Query) :
    (s.besides ts).send o q = (s.send o q).besides ts :=
  note_besides { s with pending := s.pending ++ [(o, q)] } (e := .sent q) rfl

theorem setTask_besides (s : State) (h : U ∉ ts) (t : Task) :
    (s.besides ts).setTask U t = (s.setTask U t).besides ts := by
  simp [setTask, besides, Named.put_fill ts _ s.tasks h]

/-- Where one of the tasks stands does not matter. -/
theorem besides_setTask {T : String} (used : s.Uses ts) (h : T ∈ ts) (t : Task) :
    (s.setTask T t).besides ts = s.besides ts := by
  simp [setTask, besides, Named.fill_put ts _ s.tasks h (used T h)]

/-- How one of the tasks ends does not matter. -/
theorem besides_finish {T : String} (used : s.Uses ts) (h : T ∈ ts) (o : Outcome) :
    (s.finish T o).besides ts = s.besides ts := by
  have hend : (Entry.finished T o).tellsEndOf ts = true := by simpa [Entry.tellsEndOf] using h
  have hjournal : (s.finish T o).besides ts = (s.setTask T (.finished o)).besides ts := by
    simp [finish, note, besides, List.filter_append, hend]
  rw [hjournal, besides_setTask used h]

end

variable (s : State) (ts : List String)

/-! ## Views and followers -/

theorem redraw_besides (view : String) :
    (s.besides ts).redraw view = ((s.redraw view).1.besides ts, (s.redraw view).2) := by
  simp only [redraw, views_besides]
  cases s.views.lookup view with
  | none => rfl
  | some v =>
    simp only
    split
    · rfl
    · simp only [← note_besides s (e := .redrawn view (s.seen v)) rfl]
      rfl

theorem change_besides (view : String) (f : View → View) :
    (s.besides ts).change view f = ((s.change view f).1.besides ts, (s.change view f).2) :=
  redraw_besides (s.updateView view f) ts view

theorem changeForm_besides (view : String) (f : Form → Form) :
    (s.besides ts).changeForm view f
      = ((s.changeForm view f).1.besides ts, (s.changeForm view f).2) :=
  s.change_besides ts view _

theorem report_besides (view : String) (e : StoreError) :
    (s.besides ts).report view e = ((s.report view e).1.besides ts, (s.report view e).2) :=
  s.change_besides ts view _

theorem mount_besides (view : String) :
    (s.besides ts).mount view = (s.mount view).besides ts := by
  simp only [mount, views_besides]
  cases s.views.lookup view with
  | none => rfl
  | some v => rfl

theorem unmount_besides (view : String) :
    (s.besides ts).unmount view = (s.unmount view).besides ts := by
  simp only [unmount, views_besides]
  cases s.views.lookup view with
  | none => rfl
  | some v =>
    simp only
    split
    · rfl
    · rfl

/-! ## Starting tasks -/

variable {s ts}

/-- A name in use stays in use while other tasks are started. -/
theorem Uses.spawns {s' : State} {names : List String} (used : s.Uses ts)
    (h : Spawns s s' names) : s'.Uses ts := by
  intro T hT
  have hlater : T ∉ names := fun hnew => used T hT (h.started T hnew).1
  rw [h.others T hlater]
  exact used T hT

theorem spawn_besides (used : s.Uses ts) (U : String) (c : Call) :
    (s.besides ts).spawn U c = ((s.spawn U c).1.besides ts, (s.spawn U c).2) := by
  unfold spawn
  by_cases hU : U ∈ ts
  · -- the name is in use, here and there
    rw [lookup_besides_mem used hU]
    cases h : s.tasks.lookup U with
    | none => exact absurd h (used U hU)
    | some t => rfl
  · rw [lookup_besides hU]
    cases s.tasks.lookup U with
    | none => exact congrArg (·, true) (setTask_besides s hU _)
    | some t => rfl

theorem act_besides (used : s.Uses ts) (actions : List Action) :
    (s.besides ts).act actions = ((s.act actions).1.besides ts, (s.act actions).2) := by
  induction actions generalizing s with
  | nil => rfl
  | cons a rest ih =>
    cases a with
    | fail => rfl
    | subscribe x => exact ih (s := s.subscribe x []) used
    | unsubscribe x => exact ih (s := s.unsubscribe x []) used
    | revalidate task fresh =>
      have hrest := ih (used.spawns (s.spawn_spawns task (.revalidate fresh)))
      simp only [act, spawn_besides used, hrest]

theorem tell_besides (used : s.Uses ts) (x : Subscriber) :
    (s.besides ts).tell x = ((s.tell x).1.besides ts, (s.tell x).2) := by
  cases x with
  | view view => exact congrArg (·.1, []) (s.change_besides ts view _)
  | callback name =>
    have hnote : (s.besides ts).note (.notified name s.cache.snapshot)
        = (s.note (.notified name s.cache.snapshot)).besides ts := note_besides s rfl
    simp only [tell, cache_besides, callbacks_besides, hnote]
    exact act_besides (s := s.note (.notified name s.cache.snapshot)) used _

theorem tellAll_besides (used : s.Uses ts) (xs : List Subscriber) :
    (s.besides ts).tellAll xs = ((s.tellAll xs).1.besides ts, (s.tellAll xs).2) := by
  induction xs generalizing s with
  | nil => rfl
  | cons x rest ih =>
    have hrest := ih (used.spawns (s.tell_spawns x))
    simp only [tellAll, tell_besides used, hrest]

theorem replaceSnapshot_besides (used : s.Uses ts) (logins : List Login) :
    (s.besides ts).replaceSnapshot logins
      = ((s.replaceSnapshot logins).1.besides ts, (s.replaceSnapshot logins).2) :=
  tellAll_besides (s := { s with cache := { s.cache with snapshot := logins } }) used _

/-! ## Other tasks -/

section Others

variable (s) {U : String} (h : U ∉ ts)
include h

theorem finish_besides (o : Outcome) :
    (s.besides ts).finish U o = (s.finish U o).besides ts := by
  have hend : (Entry.finished U o).tellsEndOf ts = false := by simpa [Entry.tellsEndOf] using h
  unfold finish
  rw [setTask_besides s h, note_besides _ hend]

theorem ask_besides (e : Errand) :
    (s.besides ts).ask U e = ((s.ask U e).1.besides ts, (s.ask U e).2) := by
  simp only [ask, client_besides, send_besides, setTask_besides _ h]

theorem awaitFetch_besides (p : Purpose) :
    (s.besides ts).awaitFetch U p = ((s.awaitFetch U p).1.besides ts, (s.awaitFetch U p).2) := by
  unfold awaitFetch
  rw [cache_besides]
  cases s.cache.running? with
  | some f =>
    exact congrArg (·, none) (setTask_besides { s with cache := s.cache.addWaiting f U } h _)
  | none =>
    exact congrArg (·, some s.cache.fetches.length) (setTask_besides
      { s with cache := s.cache.beginFetch.addWaiting s.cache.fetches.length U } h _)

theorem revalidate_besides (fresh : Bool) (p : Purpose) :
    (s.besides ts).revalidate U fresh p
      = ((s.revalidate U fresh p).1.besides ts, (s.revalidate U fresh p).2) := by
  unfold revalidate
  rw [cache_besides]
  cases fresh with
  | false => exact s.awaitFetch_besides h p
  | true =>
    cases s.cache.running? with
    | none => exact s.awaitFetch_besides h p
    | some f =>
      exact congrArg (·, none) (setTask_besides { s with cache := s.cache.addWaiting f U } h _)

theorem conclude_besides (v : Value) (x : State × Option Failure) :
    conclude U v (x.1.besides ts, x.2)
      = ((conclude U v x).1.besides ts, (conclude U v x).2) := by
  rcases x with ⟨mid, fault⟩
  cases fault with
  | none => exact congrArg (·, none) (mid.finish_besides h _)
  | some f => exact congrArg (·, none) (mid.finish_besides h _)

theorem afterFetch_besides (p : Purpose) :
    (s.besides ts).afterFetch U p = ((s.afterFetch U p).1.besides ts, (s.afterFetch U p).2) := by
  cases p with
  | outcome => exact congrArg (·, none) (s.finish_besides h _)
  | mounting view => exact congrArg (·, none) (s.finish_besides h _)
  | saved view login => exact congrArg (·, none) (s.finish_besides h _)
  | visiting view fails =>
    have hids : (s.besides ts).rowIds view = s.rowIds view := rfl
    simp only [afterFetch, endVisit, unmount_besides, finish_besides _ h, hids]

theorem fetchEnded_besides (p : Purpose) (r : Except Failure (List Login)) :
    (s.besides ts).fetchEnded U p r
      = ((s.fetchEnded U p r).1.besides ts, (s.fetchEnded U p r).2) := by
  unfold fetchEnded
  split
  · exact congrArg (·, none) (s.finish_besides h _)
  · exact s.afterFetch_besides h p
  · rename_i e view hview
    rw [report_besides]
    rcases s.report view e with ⟨mid, fault⟩
    cases fault with
    | none => exact mid.afterFetch_besides h p
    | some f => exact congrArg (·, none) (mid.finish_besides h _)
  · exact congrArg (·, none) (s.finish_besides h _)

theorem beginMount_besides (view : String) (p : Purpose) :
    (s.besides ts).beginMount U view p
      = ((s.beginMount U view p).1.besides ts, (s.beginMount U view p).2) := by
  have hmounted : (s.besides ts).isMounted view = s.isMounted view := rfl
  unfold beginMount
  rw [hmounted]
  split
  · exact s.afterFetch_besides h p
  · rw [mount_besides]
    exact revalidate_besides _ h false p

theorem beginSubmit_besides (view : String) (record : NewLogin) :
    (s.besides ts).beginSubmit U view record
      = ((s.beginSubmit U view record).1.besides ts, (s.beginSubmit U view record).2) := by
  unfold beginSubmit
  split
  · rw [changeForm_besides]
    exact conclude_besides h _ _
  · rw [changeForm_besides]
    rcases s.changeForm view ({ · with submitting := true, error := "" }) with ⟨mid, fault⟩
    cases fault with
    | none => exact mid.ask_besides h _
    | some f => exact congrArg (·, none) (mid.finish_besides h _)

theorem begin_besides (c : Call) :
    (s.besides ts).begin U c = ((s.begin U c).1.besides ts, (s.begin U c).2) := by
  have hfinish (o : Outcome) : ((s.besides ts).finish U o, (none : Option Nat))
      = ((s.finish U o).besides ts, none) := congrArg (·, none) (s.finish_besides h o)
  cases c with
  | revalidate fresh => exact s.revalidate_besides h fresh _
  | refresh view => exact s.revalidate_besides h false _
  | list search => exact s.ask_besides h _
  | mount view => exact s.beginMount_besides h view _
  | visit view fails => exact s.beginMount_besides h view _
  | create record =>
    cases record with
    | ok record => exact s.ask_besides h _
    | error why => exact hfinish _
  | submit view record =>
    cases record with
    | ok record => exact s.beginSubmit_besides h view record
    | error why => exact hfinish _
  | lookup address =>
    simp only [begin]
    split
    · exact hfinish _
    · split
      · exact hfinish _
      · exact s.ask_besides h _

theorem readPage_besides (p : Paging) (a : Answer) (next : Paging → Errand)
    (finished : Except Failure (List Login) → Outcome) :
    (s.besides ts).readPage U p a next finished
      = ((s.readPage U p a next finished).1.besides ts, (s.readPage U p a next finished).2) := by
  unfold readPage
  rw [client_besides]
  split
  · exact s.ask_besides h _
  · exact congrArg (·, none) (s.finish_besides h _)
  · exact congrArg (·, none) (s.finish_besides h _)

theorem answered_besides (e : Errand) (a : Answer) :
    (s.besides ts).answered U e a = ((s.answered U e a).1.besides ts, (s.answered U e a).2) := by
  unfold answered
  split
  · exact s.readPage_besides h _ _ _ _
  · exact s.readPage_besides h _ _ _ _
  · split
    · exact congrArg (·, none) (s.finish_besides h _)
    · exact congrArg (·, none) (s.finish_besides h _)
  · rename_i view record
    split
    · rw [changeForm_besides]
      rcases s.changeForm view fun _ => .closed with ⟨mid, fault⟩
      cases fault with
      | none => exact mid.revalidate_besides h _ _
      | some f => exact congrArg (·, none) (mid.finish_besides h _)
    · rw [changeForm_besides]
      exact conclude_besides h _ _
    · exact congrArg (·, none) (s.finish_besides h _)

/-- The turn of another task. -/
theorem resume_besides : (s.besides ts).resume U = ((s.resume U).1.besides ts, (s.resume U).2) := by
  unfold resume
  rw [lookup_besides h]
  split
  · rename_i r hready
    cases r with
    | begin c => exact s.begin_besides h c
    | answered e a => exact s.answered_besides h e a
    | supersededEnded p => exact s.awaitFetch_besides h p
    | cancelled => exact congrArg (·, none) (s.finish_besides h _)
    | fetchEnded f p =>
      simp only [cache_besides]
      split
      · exact s.fetchEnded_besides h p _
      · rfl
  · rfl

/-- The end of a fetch is passed on to another task. -/
theorem relay_besides (f : Nat) :
    (s.besides ts).relay f U = ((s.relay f U).1.besides ts, (s.relay f U).2) := by
  unfold relay
  rw [lookup_besides h]
  split
  · split
    · exact congrArg (·, true) (setTask_besides s h _)
    · rfl
  · split
    · exact congrArg (·, true) (setTask_besides s h _)
    · rfl
  · rfl

end Others

/-! ## Fetches -/

theorem openFetch_besides (s : State) (f : Nat) :
    (s.besides ts).openFetch f = (s.openFetch f).besides ts := by
  unfold openFetch
  rw [cache_besides]
  split
  · exact send_besides { s with cache := s.cache.setStage f _ } _ _
  · rfl

/-- The turn of a fetch: the tasks that wait for its end are named, whoever they are. -/
theorem readFetch_besides (used : s.Uses ts) (f : Nat) :
    (s.besides ts).readFetch f = ((s.readFetch f).1.besides ts, (s.readFetch f).2) := by
  unfold readFetch
  rw [cache_besides, client_besides]
  split
  · rename_i p a waiting hf
    cases p.advance s.client.config.pageSize a with
    | error e => rfl
    | ok progress =>
      cases progress with
      | more next =>
        exact congrArg (·, [], none)
          (send_besides { s with cache := s.cache.setStage f (.asking next) } _ _)
      | complete logins =>
        simp only [replaceSnapshot_besides used]
        rfl
  · rfl

end State

end LoginVault
