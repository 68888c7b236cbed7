import LoginVault.Proofs.Session.Serving

/-!
# Session.Journal — what is written about one view

In a session for one view a turn writes little into the journal (`Notes`): that the view was
redrawn, what was asked of the store, and the end of a task. What its observer sees is the view as
the turn leaves it; and a task that is told that a fetch failed has the view redrawn, or fails.

Main result: `Serving.noted`.
-/

namespace LoginVault

/-- What a turn writes into the journal of a session for one view, in this order: that the view
was redrawn, what was asked of the store, and the end of a task. -/
structure Notes where
  seen? : Option Seen
  queries : List Query
  ended? : Option (String × Outcome)

/-- The entries of these notes on the view `w`. -/
def Notes.entries (n : Notes) (w : String) : List Entry :=
  (n.seen?.map (.redrawn w)).toList ++ n.queries.map .sent
    ++ (n.ended?.map fun e => .finished e.1 e.2).toList

/-- A redraw among these entries is the one that is noted. -/
theorem Notes.seen?_of_mem {n : Notes} {w view : String} {seen : Seen}
    (mem : .redrawn view seen ∈ n.entries w) : n.seen? = some seen := by
  simp only [entries, List.mem_append, List.mem_map, Option.mem_toList] at mem
  rcases mem with (redrawn | ⟨query, -, sent⟩) | ended
  · obtain ⟨seen', hseen, same⟩ := Option.map_eq_some_iff.mp redrawn
    obtain ⟨-, rfl⟩ : w = view ∧ seen' = seen := by simpa using same
    exact hseen
  · cases sent
  · obtain ⟨_, -, same⟩ := Option.map_eq_some_iff.mp ended
    cases same

namespace State

/-- A session for the view `w` that goes on from `s` to `s'` writes these notes. -/
structure Noted (s s' : State) (w : String) (n : Notes) : Prop where
  serving : s'.Serving w
  journal : s'.journal = s.journal ++ n.entries w
  /-- The view changes only if it is redrawn, -/
  unseen : n.seen? = none → s'.views = s.views ∧ s'.cache.snapshot = s.cache.snapshot
  /-- and then it is seen as it is in the end. -/
  seen : ∀ seen, n.seen? = some seen → s'.Shows w seen
  ended : ∀ e, n.ended? = some e → s'.tasks.lookup e.1 = some (.finished e.2)
  /-- A task that is told that a fetch failed has the view redrawn, or fails. -/
  told : ∀ T f p e o, s.tasks.lookup T = some (.ready (.fetchEnded f p)) →
    s.cache.outcome? f = some (.error e) → s'.tasks.lookup T = some (.finished o) →
      (∃ seen, n.seen? = some seen ∧ Observer.grid.fault? seen.rows = none)
        ∨ ∃ g, n.ended? = some (T, .raised g)

section Noted

variable {w T : String} {s s' : State}

/-- What is not noticed writes only what is asked of the store. -/
theorem Unnoticed.noted (quiet : Unnoticed s s') (serving : s.Serving w) (tasks : Readies s s' w) :
    ∃ queries, Noted s s' w ⟨none, queries, none⟩ := by
  obtain ⟨queries, journal⟩ := quiet.journal
  refine ⟨queries, ?_, ?_, fun _ => ⟨quiet.views, quiet.snapshot⟩, by simp, by simp, ?_⟩
  · refine serving.congr quiet.views quiet.subscribers fun T x h => ?_
    rcases tasks T with same | ⟨r, now, found⟩
    · exact Or.inl (same.symm.trans h)
    · obtain rfl : Task.ready r = x := by simpa [now] using h
      exact Or.inr (.ready found)
  · simp [Notes.entries, journal]
  · intro T f p e o ready _ finished
    rcases tasks T with same | ⟨r, now, -⟩
    · simp [same, ready] at finished
    · simp [now] at finished

/-- A change of the view writes what its observer saw. -/
theorem Seeing.noted {fault : Option Failure} {seen : Seen} (seeing : Seeing s s' w fault seen) :
    Noted s s' w ⟨some seen, [], none⟩ := by
  refine ⟨seeing.serving, by simp [Notes.entries, seeing.journal], by simp, ?_, by simp, ?_⟩
  · rintro _ ⟨⟩
    exact seeing.shows
  · intro T f p e o ready _ finished
    simp [seeing.tasks, ready] at finished

/-! ## The turn of a task -/

/-- What else is written of a turn in which the observer of the view was called. -/
theorem Seeing.noted_turn {mid : State} {fault : Option Failure} {seen : Seen}
    (seeing : Seeing s mid w fault seen) (serving : s'.Serving w) (same : SameSight mid s')
    (loading : mid.cache.isLoading = true → s'.cache.isLoading = true) {queries : List Query}
    {ended? : Option (String × Outcome)}
    (journal : s'.journal
      = mid.journal ++ queries.map .sent ++ (ended?.map fun e => .finished e.1 e.2).toList)
    (ended : ∀ e, ended? = some e → s'.tasks.lookup e.1 = some (.finished e.2))
    (told : ∀ T f p e o, s.tasks.lookup T = some (.ready (.fetchEnded f p)) →
      s.cache.outcome? f = some (.error e) → s'.tasks.lookup T = some (.finished o) →
        fault = none ∨ ∃ g, ended? = some (T, .raised g)) :
    Noted s s' w ⟨some seen, queries, ended?⟩ := by
  refine ⟨serving, by simp [Notes.entries, journal, seeing.journal], by simp, ?_, ended, ?_⟩
  · rintro _ ⟨⟩
    refine seeing.shows.congr same.views same.snapshot fun h => .loads (loading ?_)
    rw [seeing.cache, ← seeing.loading, h]
  · intro T f p e o ready failed finished
    refine (told T f p e o ready failed finished).imp_left fun unfailed => ⟨seen, rfl, ?_⟩
    exact seeing.fault.symm.trans unfailed

/-- The turn of a task for the view. -/
theorem Serving.noted_task (serving : s.Serving w) {r : Resumption}
    (ready : s.tasks.lookup T = some (.ready r)) : ∃ n, Noted s (s.resume T).1 w n := by
  have hserves : r.Serves w := by
    cases serving.tasks T _ ready with
    | ready found => exact found
  -- only the task whose turn it is can finish
  have hsole {U : String} {o : Outcome} {f : Nat} {p : Purpose}
      (told : s.tasks.lookup U = some (.ready (.fetchEnded f p)))
      (finished : (s.resume T).1.tasks.lookup U = some (.finished o)) :
      U = T ∧ r = .fetchEnded f p := by
    by_cases hU : U = T
    · subst hU
      exact ⟨rfl, by simpa [ready] using told⟩
    · simp [(resume_turn ready).others hU, told] at finished
  have hwaiting {U : String} {o : Outcome} {f : Nat} {p : Purpose} {P : Prop}
      (unfinished : ∀ o, (s.resume T).1.tasks.lookup T ≠ some (.finished o))
      (told : s.tasks.lookup U = some (.ready (.fetchEnded f p)))
      (finished : (s.resume T).1.tasks.lookup U = some (.finished o)) : P := by
    obtain ⟨rfl, -⟩ := hsole told finished
    exact absurd finished (unfinished o)
  have hturn := resume_served ready hserves
  -- from here on it does not matter what the task found, only what it did
  generalize s.resume T = x at hturn hsole hwaiting
  cases hturn with
  | @finished o fails =>
    refine ⟨⟨none, [], some (T, o)⟩, ?_, rfl, fun _ => ⟨rfl, rfl⟩, by simp, by simp, ?_⟩
    · exact serving.set (s.finish_sameSight T o) .finished fun U => s.lookup_finish T U o
    · intro U f p e o' told ended finished
      obtain ⟨rfl, rfl⟩ := hsole told finished
      obtain ⟨g, rfl⟩ := fails f p e rfl ended
      exact Or.inr ⟨g, rfl⟩
  | @changed f mid fault o kept change fails =>
    obtain ⟨seen, seeing⟩ := serving.change kept change
    have hserving : (mid.finish T o).Serving w :=
      seeing.serving.set (mid.finish_sameSight T o) .finished fun U => mid.lookup_finish T U o
    refine ⟨⟨some seen, [], some (T, o)⟩, seeing.noted_turn hserving (mid.finish_sameSight T o) id
      (by simp [finish, note, setTask]) (by simp) ?_⟩
    intro U f' p e o' told ended finished
    obtain ⟨rfl, rfl⟩ := hsole told finished
    cases fault with
    | none => exact Or.inl rfl
    | some g =>
      obtain rfl := fails g rfl
      exact Or.inr ⟨g, rfl⟩
  | @asked f mid record kept change =>
    obtain ⟨seen, seeing⟩ := serving.change kept change
    have hsame : SameSight mid (mid.ask T (.submit w record)).1 := mid.ask_sameSight T _
    have hserving : (mid.ask T (.submit w record)).1.Serving w :=
      seeing.serving.set hsame (.waiting .answer) fun U => mid.lookup_ask T U _
    exact ⟨⟨some seen, [.create record], none⟩, seeing.noted_turn hserving hsame id
      (by simp [ask, send, note, setTask, Errand.query]) (by simp)
      fun U f' p e o told _ finished => hwaiting (by simp) told finished⟩
  | @saved f mid l kept change =>
    obtain ⟨seen, seeing⟩ := serving.change kept change
    have hwaits : BeginsToWait mid (mid.revalidate T true (.saved w l)).1 w T :=
      revalidate_waits T .saved
    obtain ⟨wait, waits, tasks⟩ := hwaits.tasks
    have hserving := seeing.serving.set hwaits.same (.waiting waits) tasks
    exact ⟨⟨some seen, [], none⟩, seeing.noted_turn hserving hwaits.same (fun _ => hwaits.loads)
      (by simp [hwaits.journal]) (by simp)
      fun U f' p e o told _ finished => hwaiting (by simp [tasks]) told finished⟩
  | @joined p purpose =>
    have hwaits : BeginsToWait s (s.awaitFetch T p).1 w T := awaitFetch_waits T purpose
    obtain ⟨wait, waits, tasks⟩ := hwaits.tasks
    refine ⟨⟨none, [], none⟩, serving.set hwaits.same (.waiting waits) tasks, ?_,
      fun _ => ⟨hwaits.same.views, hwaits.same.snapshot⟩, by simp, by simp, ?_⟩
    · simp [Notes.entries, hwaits.journal]
    · exact fun U f' p e o told _ finished => hwaiting (by simp [tasks]) told finished
  | early =>
    exact ⟨⟨none, [], none⟩, serving, by simp [Notes.entries], fun _ => ⟨rfl, rfl⟩, by simp,
      by simp, fun U f' p e o told _ finished => hwaiting (by simp [ready]) told finished⟩

/-! ## The turn of a fetch -/

/-- The turn of a fetch that succeeds. -/
theorem Serving.noted_success (serving : s.Serving w) {f : Nat} {rows : List Login} {q : List Turn}
    (inv : Session.Inv ⟨s, .page f :: q⟩) (fetched : s.fetched? (.page f) = some rows) :
    ∃ n, Noted s (s.take (.page f)).1 w n := by
  have hserving : (s.withSnapshot rows).Serving w :=
    ⟨serving.view, serving.subscribers, serving.tasks⟩
  have hkept : KeepsObserver (View.told rows) := fun _ => rfl
  -- to tell the only follower is to change its view
  cases hchange : (s.withSnapshot rows).change w (View.told rows) with
  | mk mid fault =>
    obtain ⟨seen, seeing⟩ := hserving.change hkept hchange
    have hreplace : (s.replaceSnapshot rows).1 = mid := by
      have htell : s.replaceSnapshot rows = (s.withSnapshot rows).tellAll s.cache.subscribers := rfl
      rw [htell, serving.subscribers]
      exact congrArg Prod.fst hchange
    have hafter := take_of_fetched fetched
    rw [hreplace] at hafter
    -- the fetch that has just succeeded is the last
    have hmay : (s.take (.page f)).1.MayShowLoading := by
      obtain ⟨before, now⟩ := outcome?_of_fetched fetched
      have hlength : (s.take (.page f)).1.cache.fetches.length = s.cache.fetches.length := by
        simp [hafter, seeing.cache, withSnapshot]
      have hlt := hlength ▸ Cache.lt_of_stage (Cache.outcome?_eq_some_iff.mp now)
      have hrunning := Cache.isRunning_iff.mpr ⟨hlt, before⟩
      exact .read ((inv.flight.succ_eq_length hrunning).trans hlength.symm) now
    rw [hafter] at hmay ⊢
    have hmid := seeing.serving
    refine ⟨⟨some seen, [], none⟩, ⟨hmid.view, hmid.subscribers, hmid.tasks⟩, ?_, by simp, ?_,
      by simp, ?_⟩
    · simp [Notes.entries, seeing.journal, withSnapshot]
    · rintro _ ⟨⟩
      exact seeing.shows.congr rfl rfl fun _ => hmay
    · intro U g p e o told _ finished
      simp [seeing.tasks, withSnapshot, told] at finished

/-- Every turn in a session for the view `w` writes notes. -/
theorem Serving.noted (serving : s.Serving w) {t : Turn} {q : List Turn}
    (inv : Session.Inv ⟨s, t :: q⟩) : ∃ n, Noted s (s.take t).1 w n := by
  have hquiet (unnoticed : Unnoticed s (s.take t).1) (tasks : Readies s (s.take t).1 w) :
      ∃ n, Noted s (s.take t).1 w n :=
    (unnoticed.noted serving tasks).elim fun queries noted => ⟨_, noted⟩
  cases t with
  | «open» f | settle f | relay f T =>
    exact hquiet (take_unnoticed rfl rfl) (serving.fetch_wakes rfl).readies
  | page f =>
    cases fetched : s.fetched? (.page f) with
    | none => exact hquiet (take_unnoticed rfl fetched) (serving.fetch_wakes rfl).readies
    | some rows => exact serving.noted_success inv fetched
  | task T =>
    by_cases h : ∃ r, s.tasks.lookup T = some (.ready r)
    · obtain ⟨r, ready⟩ := h
      exact serving.noted_task ready
    · have hidle : (s.take (.task T)).1 = s :=
        congrArg Prod.fst (resume_idle fun r hr => h ⟨r, hr⟩)
      rw [hidle] at hquiet ⊢
      exact hquiet (.refl s) (Wakes.refl s w).readies

end Noted

end State

end LoginVault
