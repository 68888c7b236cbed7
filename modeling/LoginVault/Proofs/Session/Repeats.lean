import LoginVault.Proofs.Session.Journal
import LoginVault.Proofs.Session.Snapshots

/-!
# Session.Repeats — tasks that a grid ends

A task for a view may change the view and call its observer. If the observer fails because the grid
is given a row twice, the task fails in this way too. No task for the view fails so for another
reason (`Serving.resume_repeats`): answers do not, and fetches do not.
-/

namespace LoginVault.State

variable {w T : String} {s mid : State}

/-- If the task has failed as a grid does, then a grid that was drawn has. -/
def Repeats (w T : String) (s : State) : Prop :=
  ∀ g, s.tasks.lookup T = some (.finished (.raised g)) → g.IsRepeat →
    ∃ seen, .redrawn w seen ∈ s.journal ∧ Observer.grid.fault? seen.rows = some g

theorem finish_repeats {o : Outcome} (other : ∀ g, o = .raised g → ¬ g.IsRepeat) :
    Repeats w T (mid.finish T o) := by
  intro g now repeats
  obtain rfl : o = .raised g := by simpa using now
  exact absurd repeats (other g rfl)

theorem unfinished_repeats (unfinished : ∀ o, s.tasks.lookup T ≠ some (.finished o)) :
    Repeats w T s := fun _ now _ => absurd now (unfinished _)

/-- What was drawn stays drawn. -/
theorem Repeats.kept {s' : State} (repeats : Repeats w T s)
    (same : s'.tasks.lookup T = s.tasks.lookup T)
    (journal : ∃ news, s'.journal = s.journal ++ news) : Repeats w T s' := by
  intro g now isRepeat
  obtain ⟨news, journal⟩ := journal
  obtain ⟨seen, mem, fault⟩ := repeats g (same ▸ now) isRepeat
  exact ⟨seen, journal ▸ List.mem_append_left news mem, fault⟩

/-- A task that has a turn coming has not failed. -/
theorem Readies.repeats {s' : State} (readies : Readies s s' w) (repeats : Repeats w T s)
    (journal : ∃ news, s'.journal = s.journal ++ news) : Repeats w T s' := by
  rcases readies T with same | ⟨r, now, -⟩
  · exact repeats.kept same journal
  · exact unfinished_repeats (by simp [now])

/-- A task that ends because the observer has failed fails as the observer does. -/
theorem Serving.change_repeats (serving : s.Serving w) {f : View → View} (kept : KeepsObserver f)
    {g : Failure} (change : s.change w f = (mid, some g)) :
    Repeats w T (mid.finish T (.raised g)) := by
  intro g' now _
  obtain rfl : g = g' := by simpa using now
  obtain ⟨seen, seeing⟩ := serving.change kept change
  refine ⟨seen, ?_, seeing.fault.symm⟩
  have hjournal : (mid.finish T (.raised g)).journal
      = mid.journal ++ [.finished T (.raised g)] := rfl
  rw [hjournal, seeing.journal]
  simp

theorem Serving.conclude_repeats (serving : s.Serving w) (v : Value) (f : Form → Form) :
    Repeats w T (conclude T v (s.changeForm w f)).1 := by
  cases h : s.changeForm w f with
  | mk mid fault =>
    cases fault with
    | none => exact finish_repeats (by simp)
    | some _ => exact serving.change_repeats (form_keepsObserver f) h

theorem Serving.beginSubmit_repeats (serving : s.Serving w) (record : NewLogin) :
    Repeats w T (s.beginSubmit T w record).1 := by
  unfold beginSubmit
  split
  · exact serving.conclude_repeats .nothing _
  · split
    · exact unfinished_repeats (by simp)
    · rename_i mid f h
      exact serving.change_repeats
        (form_keepsObserver ({ · with submitting := true, error := "" })) h

theorem Serving.answered_repeats (serving : s.Serving w) (record : NewLogin) (a : Answer) :
    Repeats w T (s.answered T (.submit w record) a).1 := by
  simp only [answered]
  split
  · rename_i login _
    split
    · rename_i mid h
      have hserves : (Purpose.saved w login).Serves w := .saved
      obtain ⟨wait, -, tasks⟩ := (revalidate_waits (s := mid) T hserves).tasks
      exact unfinished_repeats (by simp [tasks])
    · rename_i mid f h
      exact serving.change_repeats (form_keepsObserver fun _ => .closed) h
  · exact serving.conclude_repeats .nothing _
  · rename_i f _ failed
    refine finish_repeats ?_
    rintro g ⟨⟩
    exact Answer.result_not_repeat failed

/-- A failure of the store is kept on the view if the task is there for its rows. -/
theorem Serving.storeFailed_repeats (serving : s.Serving w) {p : Purpose} {e : StoreError}
    {o : Outcome} (view : Purpose.view? p = some w)
    (goesOn : ∀ s : State, s.afterFetch T p = (s.finish T o, none)) (ends : ∀ g, o ≠ .raised g) :
    Repeats w T (s.fetchEnded T p (.error (.store e))).1 := by
  have hkept : KeepsObserver fun v => { v with lastError := some e } := fun _ => rfl
  simp only [State.fetchEnded, view, goesOn]
  split
  · exact finish_repeats fun g raised => absurd raised (ends g)
  · rename_i mid g h
    exact serving.change_repeats hkept h

theorem Serving.fetchEnded_repeats (serving : s.Serving w) {p : Purpose} (serves : p.Serves w)
    {outcome : Except Failure (List Login)} (proper : ∀ e, outcome = .error e → ¬ e.IsRepeat) :
    Repeats w T (s.fetchEnded T p outcome).1 := by
  cases outcome with
  | ok logins =>
    cases serves with
    | outcome | mounting | saved => exact finish_repeats (by simp)
  | error e =>
    have hraised : Repeats w T (s.finish T (.raised e)) :=
      finish_repeats fun g raised => by
        obtain rfl : e = g := by simpa using raised
        exact proper e rfl
    cases serves with
    | outcome => cases e <;> exact hraised
    | mounting | saved =>
      cases e with
      | store e => exact serving.storeFailed_repeats rfl (fun _ => rfl) (by simp)
      | _ => exact hraised

/-- A task for the view that fails as a grid does has drawn one. -/
theorem Serving.resume_repeats (serving : s.Serving w) {r : Resumption}
    (ready : s.tasks.lookup T = some (.ready r))
    (proper : ∀ f e, s.cache.outcome? f = some (.error e) → ¬ e.IsRepeat) :
    Repeats w T (s.resume T).1 := by
  have hserves : r.Serves w := by
    cases serving.tasks T _ ready with
    | ready found => exact found
  have hjoined {p : Purpose} (purpose : p.Serves w) : Repeats w T (s.awaitFetch T p).1 := by
    obtain ⟨wait, -, tasks⟩ := (awaitFetch_waits (s := s) T purpose).tasks
    exact unfinished_repeats (by simp [tasks])
  unfold resume
  rw [ready]
  cases hserves with
  | refresh => exact hjoined .outcome
  | submit => exact serving.beginSubmit_repeats _
  | answered => exact serving.answered_repeats _ _
  | released purpose => exact hjoined purpose
  | cancelled => exact finish_repeats (by simp)
  | @told f p purpose =>
    have hread : s.cache.fetches[f]?.bind Fetch.outcome? = s.cache.outcome? f := rfl
    simp only [hread]
    cases ended : s.cache.outcome? f with
    | none => exact unfinished_repeats (by simp [ready])
    | some outcome =>
      refine serving.fetchEnded_repeats purpose ?_
      rintro e rfl
      exact proper f e ended

/-- Every turn in a session for the view keeps to this. -/
theorem Serving.take_repeats (serving : s.Serving w) (t : Turn)
    (proper : ∀ f e, s.cache.outcome? f = some (.error e) → ¬ e.IsRepeat)
    (journal : ∃ news, (s.take t).1.journal = s.journal ++ news) (repeats : Repeats w T s) :
    Repeats w T (s.take t).1 := by
  rcases serving.take_wakes t with wakes | ⟨U, r, rfl, ready, others⟩
  · exact wakes.readies.repeats repeats journal
  · by_cases hT : T = U
    · subst hT
      exact serving.resume_repeats ready proper
    · exact repeats.kept (others T hT) journal

end LoginVault.State
