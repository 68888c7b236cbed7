import LoginVault.Proofs.Session.Sights
import LoginVault.Proofs.Session.TaskMoves

/-!
# Session.Deeds — what is asked of the store, and which tasks end

Besides the calls of callbacks and observers the journal holds the deeds of a session: what it
asked of the store, and the tasks that have ended. An event does none of these, and a turn at most
one (`take_deed`): the task whose turn it is ends or asks, or a fetch asks for a page. So whatever
the store was asked to create was asked by a task in its first turn (`TaskDeed`), and a form asks
only if its record has no problem.

Main result: `take_deed`.
-/

namespace LoginVault

/-- Whether a task that finds this in its turn may ask the store to create this record. -/
inductive Resumption.Creates (record : NewLogin) : Resumption → Prop
  | create : Creates record (.begin (.create (.ok record)))
  | submit {view : String} (complete : record.problem? = none) :
      Creates record (.begin (.submit view (.ok record)))

theorem Resumption.Creates.begins {record : NewLogin} {r : Resumption}
    (creates : r.Creates record) : ∃ c, r = .begin c := by
  cases creates with
  | create => exact ⟨_, rfl⟩
  | submit _ => exact ⟨_, rfl⟩

namespace State

/-- The deeds so far, in order. -/
def deeds (s : State) : List Entry := s.journal.filter (!·.isCall)

/-- Going on from `s` to `s'` adds these deeds to the journal, and any number of calls. -/
def Adds (s s' : State) (news : List Entry) : Prop :=
  ∃ entries, s'.journal = s.journal ++ entries ∧ entries.filter (!·.isCall) = news

/-- What the task `T` does in its turn that finds `r`. -/
inductive TaskDeed (s : State) (T : String) (r : Resumption) (s' : State) : Prop
  | waits (adds : Adds s s' []) (unfinished : ∀ o, s'.tasks.lookup T ≠ some (.finished o))
  | ended {o : Outcome} (adds : Adds s s' [.finished T o])
      (now : s'.tasks.lookup T = some (.finished o))
  | asked {e : Errand} {q : Query} (adds : Adds s s' [.sent q])
      (now : s'.tasks.lookup T = some (.waiting (.answer e)))
      (creates : ∀ record, q = .create record → r.Creates record)

/-! ## What is added to the journal -/

section Adds

variable {s mid s' : State}

/-- A journal that is the same has nothing added. -/
theorem Adds.quietly (same : s'.journal = s.journal) : Adds s s' [] :=
  ⟨[], by simp [same], rfl⟩

theorem Adds.trans {first rest : List Entry} (h : Adds s mid first) (k : Adds mid s' rest) :
    Adds s s' (first ++ rest) := by
  obtain ⟨entries, journal, rfl⟩ := h
  obtain ⟨more, journal', rfl⟩ := k
  exact ⟨entries ++ more, by simp [journal', journal], List.filter_append _ _⟩

theorem Adds.deeds {news : List Entry} (adds : Adds s s' news) :
    s'.deeds = s.deeds ++ news := by
  obtain ⟨entries, journal, rfl⟩ := adds
  simp [State.deeds, journal]

/-- A call is no deed. -/
theorem note_call_adds (s : State) {e : Entry} (call : e.isCall = true) : Adds s (s.note e) [] :=
  ⟨[e], rfl, by simp [call]⟩

theorem note_deed_adds (s : State) {e : Entry} (deed : e.isCall = false) :
    Adds s (s.note e) [e] :=
  ⟨[e], rfl, by simp [deed]⟩

end Adds

/-! ## Views and followers -/

section Frame

variable (s : State)

theorem redraw_adds (view : String) : Adds s (s.redraw view).1 [] := by
  unfold redraw
  split
  · exact .quietly rfl
  · split
    · exact .quietly rfl
    · exact s.note_call_adds rfl

theorem change_adds (view : String) (f : View → View) : Adds s (s.change view f).1 [] :=
  redraw_adds (s.updateView view f) view

theorem mount_adds (view : String) : Adds s (s.mount view) [] := by
  unfold mount
  split <;> exact .quietly rfl

theorem unmount_adds (view : String) : Adds s (s.unmount view) [] := by
  unfold unmount
  split
  · split <;> exact .quietly rfl
  · exact .quietly rfl

theorem spawn_adds (T : String) (c : Call) : Adds s (s.spawn T c).1 [] := by
  unfold spawn
  split <;> exact .quietly rfl

theorem act_adds (actions : List Action) : Adds s (s.act actions).1 [] := by
  fun_induction act s actions with
  | case1 s => exact .quietly rfl
  | case2 s rest => exact .quietly rfl
  | case3 s x rest ih => exact ih
  | case4 s x rest ih => exact ih
  | case5 s T fresh rest next started hspawn after tasks hact ih =>
    have hnext : Adds s next [] := by simpa [hspawn] using s.spawn_adds T (.revalidate fresh)
    rw [hact] at ih
    exact hnext.trans ih

theorem tell_adds (x : Subscriber) : Adds s (s.tell x).1 [] := by
  cases x with
  | view view => exact s.change_adds view _
  | callback name => exact (s.note_call_adds rfl).trans (act_adds _ _)

theorem tellAll_adds (xs : List Subscriber) : Adds s (s.tellAll xs).1 [] := by
  induction xs generalizing s with
  | nil => exact .quietly rfl
  | cons x rest ih => exact (s.tell_adds x).trans (ih (s.tell x).1)

theorem replaceSnapshot_adds (rows : List Login) : Adds s (s.replaceSnapshot rows).1 [] :=
  tellAll_adds { s with cache := { s.cache with snapshot := rows } } _

end Frame

/-! ## The turn of a task -/

section Adds

variable (s : State) (T : String)

theorem finish_adds (o : Outcome) : Adds s (s.finish T o) [.finished T o] :=
  note_deed_adds (s.setTask T (.finished o)) rfl

/-- A task that begins to wait for a fetch asks for nothing of its own. -/
theorem awaitFetch_adds (p : Purpose) : Adds s (s.awaitFetch T p).1 [] := by
  unfold awaitFetch
  split <;> exact .quietly rfl

theorem revalidate_adds (fresh : Bool) (p : Purpose) : Adds s (s.revalidate T fresh p).1 [] := by
  unfold revalidate
  split
  · exact .quietly rfl
  · exact s.awaitFetch_adds T p

/-- A task that calls for a snapshot waits for a fetch. -/
theorem revalidate_waiting (fresh : Bool) (p : Purpose) :
    ∃ w, (s.revalidate T fresh p).1.tasks.lookup T = some (.waiting w) := by
  unfold revalidate
  split <;> simp

end Adds

section Task

variable {s mid s' : State} {T : String} {r : Resumption}

/-- What is done to views before is no deed. -/
theorem TaskDeed.after (before : Adds s mid []) (deed : TaskDeed mid T r s') :
    TaskDeed s T r s' := by
  cases deed with
  | waits adds unfinished => exact .waits (before.trans adds) unfinished
  | ended adds now => exact .ended (before.trans adds) now
  | asked adds now creates => exact .asked (before.trans adds) now creates

variable (s T r)

theorem finish_deed (o : Outcome) : TaskDeed s T r (s.finish T o) :=
  .ended (o := o) (s.finish_adds T o) (by simp)

theorem ask_deed (e : Errand)
    (creates : ∀ record, e.query s.client.config.pageSize = .create record → r.Creates record) :
    TaskDeed s T r (s.ask T e).1 :=
  .asked (e := e) (note_deed_adds s rfl) (by simp) creates

theorem awaitFetch_deed (p : Purpose) : TaskDeed s T r (s.awaitFetch T p).1 :=
  .waits (s.awaitFetch_adds T p) (by simp)

theorem revalidate_deed (fresh : Bool) (p : Purpose) :
    TaskDeed s T r (s.revalidate T fresh p).1 := by
  obtain ⟨w, waiting⟩ := s.revalidate_waiting T fresh p
  exact .waits (s.revalidate_adds T fresh p) (by simp [waiting])

theorem conclude_deed (v : Value) {x : State × Option Failure} (before : Adds s x.1 []) :
    TaskDeed s T r (conclude T v x).1 := by
  rcases x with ⟨mid, fault⟩
  cases fault with
  | none => exact (mid.finish_deed T r _).after before
  | some f => exact (mid.finish_deed T r _).after before

theorem afterFetch_deed (p : Purpose) : TaskDeed s T r (s.afterFetch T p).1 := by
  cases p with
  | outcome => exact s.finish_deed T r _
  | mounting view => exact s.finish_deed T r _
  | saved view login => exact s.finish_deed T r _
  | visiting view fails => exact (finish_deed _ T r _).after (s.unmount_adds view)

theorem fetchEnded_deed (p : Purpose) (outcome : Except Failure (List Login)) :
    TaskDeed s T r (s.fetchEnded T p outcome).1 := by
  unfold fetchEnded
  split
  · exact s.finish_deed T r _
  · exact s.afterFetch_deed T r p
  · rename_i e view _
    have hreport : Adds s (s.report view e).1 [] := s.change_adds view _
    split
    · rename_i mid heq
      rw [heq] at hreport
      exact (mid.afterFetch_deed T r p).after hreport
    · rename_i mid f heq
      rw [heq] at hreport
      exact (mid.finish_deed T r _).after hreport
  · exact s.finish_deed T r _

theorem beginMount_deed (view : String) (p : Purpose) :
    TaskDeed s T r (s.beginMount T view p).1 := by
  unfold beginMount
  split
  · exact s.afterFetch_deed T r p
  · exact (revalidate_deed _ T r false p).after (s.mount_adds view)

theorem beginSubmit_deed (view : String) (record : NewLogin) :
    TaskDeed s T (.begin (.submit view (.ok record))) (s.beginSubmit T view record).1 := by
  unfold beginSubmit
  split
  · exact s.conclude_deed T _ .nothing (s.change_adds view _)
  · rename_i complete
    have hmarked := s.change_adds view fun v =>
      { v with form := { v.form with submitting := true, error := "" } }
    split
    · rename_i mid heq
      rw [changeForm] at heq
      rw [heq] at hmarked
      refine (mid.ask_deed T _ _ fun other h => ?_).after hmarked
      obtain rfl : record = other := by simpa [Errand.query] using h
      exact .submit complete
    · rename_i mid f heq
      rw [changeForm] at heq
      rw [heq] at hmarked
      exact (mid.finish_deed T _ _).after hmarked

theorem begin_deed (c : Call) : TaskDeed s T (.begin c) (s.begin T c).1 := by
  cases c with
  | revalidate fresh => exact s.revalidate_deed T _ fresh _
  | refresh view => exact s.revalidate_deed T _ false _
  | list search => exact s.ask_deed T _ _ (by simp [Errand.query, Paging.query])
  | mount view => exact s.beginMount_deed T _ view _
  | visit view fails => exact s.beginMount_deed T _ view _
  | create record =>
    cases record with
    | ok record =>
      refine s.ask_deed T _ _ fun other h => ?_
      obtain rfl : record = other := by simpa [Errand.query] using h
      exact .create
    | error why => exact s.finish_deed T _ _
  | submit view record =>
    cases record with
    | ok record => exact s.beginSubmit_deed T view record
    | error why => exact s.finish_deed T _ _
  | lookup address =>
    simp only [begin]
    split
    · exact s.finish_deed T _ _
    · split
      · exact s.finish_deed T _ _
      · exact s.ask_deed T _ _ (by simp [Errand.query, Paging.query])

theorem readPage_deed (p : Paging) (a : Answer) (next : Paging → Errand)
    (finished : Except Failure (List Login) → Outcome)
    (pages : ∀ p n record, (next p).query n ≠ .create record) :
    TaskDeed s T r (s.readPage T p a next finished).1 := by
  unfold readPage
  split
  · exact s.ask_deed T r _ fun record h => absurd h (pages _ _ record)
  · exact s.finish_deed T r _
  · exact s.finish_deed T r _

theorem answered_deed (e : Errand) (a : Answer) :
    TaskDeed s T (.answered e a) (s.answered T e a).1 := by
  cases e with
  | list p => exact s.readPage_deed T _ p a _ _ (by simp [Errand.query, Paging.query])
  | lookup key p => exact s.readPage_deed T _ p a _ _ (by simp [Errand.query, Paging.query])
  | create record =>
    simp only [answered]
    split
    · exact s.finish_deed T _ _
    · exact s.finish_deed T _ _
  | submit view record =>
    simp only [answered]
    split
    · have hclosed : Adds s (s.changeForm view fun _ => .closed).1 [] := s.change_adds view _
      split
      · rename_i mid heq
        rw [heq] at hclosed
        exact (mid.revalidate_deed T _ true _).after hclosed
      · rename_i mid f heq
        rw [heq] at hclosed
        exact (mid.finish_deed T _ _).after hclosed
    · exact s.conclude_deed T _ .nothing (s.change_adds view _)
    · exact s.finish_deed T _ _

variable {s T r}

theorem resume_deed (ready : s.tasks.lookup T = some (.ready r)) :
    TaskDeed s T r (s.resume T).1 := by
  unfold resume
  rw [ready]
  cases r with
  | begin c => exact s.begin_deed T c
  | answered e a => exact s.answered_deed T e a
  | supersededEnded p => exact s.awaitFetch_deed T _ p
  | cancelled => exact s.finish_deed T _ _
  | fetchEnded f p =>
    simp only
    split
    · exact s.fetchEnded_deed T _ p _
    · exact .waits (.quietly rfl) (by simp [ready])

end Task

/-! ## Turns and events -/

/-- All that a turn can do: the task whose turn it is takes it, or a fetch asks for a page, or for
nothing. -/
inductive TurnDeed (s : State) (t : Turn) (s' : State) : Prop
  | ofTask {T : String} {r : Resumption} (turn : t = .task T)
      (ready : s.tasks.lookup T = some (.ready r)) (deed : TaskDeed s T r s')
  | ofFetch (asked : Option Paging)
      (adds : Adds s s' (asked.map fun p => Entry.sent (p.query s.client.config.pageSize)).toList)
      (idle : ∀ T r, t = .task T → s.tasks.lookup T ≠ some (.ready r))

section Turns

variable (s : State)

theorem askPage_adds (f : Nat) (p : Paging) :
    Adds s (s.askPage f p) [.sent (p.query s.client.config.pageSize)] :=
  note_deed_adds s rfl

theorem readFetch_adds (f : Nat) : ∃ asked : Option Paging, Adds s (s.readFetch f).1
    (asked.map fun p => Entry.sent (p.query s.client.config.pageSize)).toList := by
  unfold readFetch
  split
  · split
    · rename_i p _
      exact ⟨some p, s.askPage_adds f p⟩
    · exact ⟨none, s.replaceSnapshot_adds _⟩
    · exact ⟨none, .quietly rfl⟩
  · exact ⟨none, .quietly rfl⟩

/-- Every turn does one of these things. -/
theorem take_deed (t : Turn) : TurnDeed s t (s.take t).1 := by
  cases t with
  | task T =>
    by_cases h : ∃ r, s.tasks.lookup T = some (.ready r)
    · obtain ⟨r, ready⟩ := h
      exact .ofTask rfl ready (resume_deed ready)
    · have hidle : ∀ r, s.tasks.lookup T ≠ some (.ready r) := fun r hr => h ⟨r, hr⟩
      refine .ofFetch none ?_ fun T' r turn => by cases turn; exact hidle r
      simp only [take, resume_idle hidle]
      exact .quietly rfl
  | «open» f =>
    simp only [take, openFetch]
    split
    · exact .ofFetch (some (.start none)) (s.askPage_adds f _) (by simp)
    · exact .ofFetch none (.quietly rfl) (by simp)
  | page f =>
    obtain ⟨asked, adds⟩ := s.readFetch_adds f
    exact .ofFetch asked adds (by simp)
  | settle f => exact .ofFetch none (.quietly rfl) (by simp)
  | relay f T =>
    refine .ofFetch none ?_ (by simp)
    simp only [take, relay]
    split
    · split <;> exact .quietly rfl
    · split <;> exact .quietly rfl
    · exact .quietly rfl

/-- An event does none of these things. -/
theorem apply_adds (e : Event) : Adds s (s.apply e).state [] := by
  cases e with
  | spawn T c => exact s.spawn_adds T c
  | cancel T =>
    simp only [apply, cancel]
    split <;> exact .quietly rfl
  | respond index a =>
    simp only [apply, respond]
    split
    · exact .quietly rfl
    · split
      · split <;> exact .quietly rfl
      · split <;> exact .quietly rfl
  | subscribe name actions => exact .quietly rfl
  | unsubscribe name actions => exact .quietly rfl
  | newView view observer => exact .quietly rfl
  | unmount view => exact s.unmount_adds view
  | setFilter view text => exact s.change_adds view _
  | openForm view => exact s.change_adds view _
  | closeForm view => exact s.change_adds view _
  | setOrder view name =>
    simp only [apply]
    split
    · exact s.change_adds view _
    · exact s.change_adds view _
    · exact .quietly rfl

end Turns

/-- A task that has come to its end in a turn is written down. -/
theorem take_ended {s : State} {t : Turn} {T : String} {o : Outcome}
    (now : (s.take t).1.tasks.lookup T = some (.finished o)) :
    s.tasks.lookup T = some (.finished o) ∨ Adds s (s.take t).1 [.finished T o] := by
  cases s.take_deed t with
  | @ofTask U r turn ready deed =>
    subst turn
    by_cases hU : T = U
    · subst hU
      cases deed with
      | waits _ unfinished => exact absurd now (unfinished o)
      | asked _ waiting _ => simp [waiting] at now
      | @ended o' adds finished =>
        obtain rfl : o' = o := by simpa [finished] using now
        exact Or.inr adds
    · exact Or.inl (((resume_turn ready).others hU).symm.trans now)
  | ofFetch _ _ idle =>
    rcases (Session.take_move s [] t).own_or_ready T with own | same | ⟨r, ready⟩
    · -- its turn comes, but it is not ready
      obtain rfl : t = .task T := by simpa using own
      have hidle : (s.take (.task T)).1 = s :=
        congrArg Prod.fst (resume_idle fun r => idle T r rfl)
      exact Or.inl (hidle ▸ now)
    · exact Or.inl (same.symm.trans now)
    · simp [now] at ready

end State

end LoginVault
