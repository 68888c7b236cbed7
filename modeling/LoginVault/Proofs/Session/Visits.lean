import LoginVault.Proofs.Session.Callers
import LoginVault.Proofs.Session.Followers
import LoginVault.Proofs.Session.Views

/-!
# Session.Visits — how visits end

A visit mounts its view, waits for a fetch and, once it is entered (`State.Entered`), unmounts the
view at its end, whether the visitor fails or not. A visit that is never entered unmounts nothing:
one that is cancelled while it waits, whose fetch fails for a reason that is none of the store's,
or whose view fails as it is told why the store failed. Its view stays mounted and goes on to
follow the cache, although nobody is left to unmount it.

Main results: `visit_ends`, and `visit_left_behind` for the visits that leave their view mounted.
-/

namespace LoginVault

open State

namespace State

/-- Whether a visit is entered that waited for the fetch `f`: the fetch succeeded, or its failure
is one of the store and can be kept on the view. -/
def Entered (s : State) (f : Nat) (view : String) : Prop :=
  (∃ rows, s.cache.outcome? f = some (.ok rows))
    ∨ ∃ e, s.cache.outcome? f = some (.error (.store e)) ∧ (s.report view e).2 = none

/-- The view is mounted if it was, and the same follow the cache. -/
structure SameScope (s s' : State) (view : String) : Prop where
  mounted : s'.isMounted view = s.isMounted view
  subscribers : s'.cache.subscribers = s.cache.subscribers

theorem SameSight.scope {s s' : State} (h : SameSight s s') (view : String) : SameScope s s' view :=
  ⟨h.isMounted view, h.subscribers⟩

/-- How a visit comes to its end that waited for the fetch `f`. -/
inductive VisitEnd (s s' : State) (view : String) (fails : Bool) (f : Nat) : Outcome → Prop
  /-- It was entered, and leaves the view. -/
  | left {o : Outcome} (entered : s.Entered f view)
      (value : (Purpose.visiting view fails).Concludes o) (hidden : s'.isMounted view = false)
      (gone : .view view ∉ s'.cache.subscribers) : VisitEnd s s' view fails f o
  /-- It was not entered, and fails. -/
  | refused {e : Failure} (unentered : ¬ s.Entered f view) (kept : SameScope s s' view) :
      VisitEnd s s' view fails f (.raised e)
  /-- It was cancelled before. -/
  | stopped (kept : SameScope s s' view) : VisitEnd s s' view fails f .cancelled

/-! ## The last turn of a visit -/

variable {s : State} {T view : String} {fails : Bool} {f : Nat} {o : Outcome}

theorem unfinished_of_ready {r : Resumption} (ready : s.tasks.lookup T = some (.ready r))
    (o : Outcome) : s.tasks.lookup T ≠ some (.finished o) := by simp [ready]

theorem report_scope (s : State) (view : String) (e : StoreError) (w : String) :
    SameScope s (s.report view e).1 w :=
  ⟨isMounted_change view w fun _ => rfl, (s.change_subscribers view _).1⟩

/-- A visitor that goes on after its fetch leaves the view. -/
theorem endVisit_spec
    (finished : (s.endVisit T view fails).1.tasks.lookup T = some (.finished o)) :
    (Purpose.visiting view fails).Concludes o
      ∧ (s.endVisit T view fails).1.isMounted view = false := by
  refine ⟨?_, s.unmount_hidden view⟩
  simp only [endVisit, lookup_finish, if_true, Option.some.injEq, Task.finished.injEq] at finished
  cases fails with
  | true => exact finished.symm
  | false => exact ⟨_, finished.symm⟩

/-- A visitor whose fetch has ended leaves the view if it was entered, and else fails. -/
theorem fetchEnded_visit (T : String) (fails : Bool) {outcome : Except Failure (List Login)}
    (ended : s.cache.outcome? f = some outcome) :
    (s.Entered f view ∧ ∃ mid : State,
        s.fetchEnded T (.visiting view fails) outcome = mid.endVisit T view fails)
      ∨ ¬ s.Entered f view ∧ ∃ (mid : State) (e : Failure), SameScope s mid view
        ∧ s.fetchEnded T (.visiting view fails) outcome = (mid.finish T (.raised e), none) := by
  cases outcome with
  | ok rows => exact Or.inl ⟨Or.inl ⟨rows, ended⟩, s, rfl⟩
  | error e =>
    have hfailed : ∀ rows, s.cache.outcome? f ≠ some (.ok rows) := by simp [ended]
    cases e with
    | store e =>
      have hreported : ∀ e', s.cache.outcome? f = some (.error (.store e')) → e = e' := by
        simp [ended]
      have hscope := s.report_scope view e view
      cases hreport : s.report view e with
      | mk mid fault =>
        rw [hreport] at hscope
        cases fault with
        | none =>
          refine Or.inl ⟨Or.inr ⟨e, ended, by rw [hreport]⟩, mid, ?_⟩
          simp only [fetchEnded, Purpose.view?, hreport]
          rfl
        | some fault =>
          refine Or.inr ⟨?_, mid, fault, hscope, ?_⟩
          · rintro (⟨rows, h⟩ | ⟨e', h, hnone⟩)
            · exact hfailed rows h
            · rw [← hreported e' h, hreport] at hnone
              cases hnone
          · simp only [fetchEnded, Purpose.view?, hreport]
    | _ =>
      refine Or.inr ⟨?_, s, _, ⟨rfl, rfl⟩, rfl⟩
      rintro (⟨rows, h⟩ | ⟨e', h, -⟩)
      · exact hfailed rows h
      · simp [ended] at h

/-- The turn of a visitor after its fetch. -/
theorem resume_visit (ready : s.tasks.lookup T = some (.ready (.fetchEnded f (.visiting view fails))))
    (finished : (s.resume T).1.tasks.lookup T = some (.finished o)) :
    (s.Entered f view ∧ (Purpose.visiting view fails).Concludes o
        ∧ (s.resume T).1.isMounted view = false)
      ∨ ¬ s.Entered f view ∧ (∃ e, o = .raised e) ∧ SameScope s (s.resume T).1 view := by
  have hread : s.cache.fetches[f]?.bind Fetch.outcome? = s.cache.outcome? f := rfl
  cases ended : s.cache.outcome? f with
  | none =>
    -- it was told too early, and does not finish
    simp [State.resume, ready, hread, ended] at finished
  | some outcome =>
    have hresume : s.resume T = s.fetchEnded T (.visiting view fails) outcome := by
      simp only [State.resume, ready, hread, ended]
    rcases fetchEnded_visit T fails ended with ⟨entered, mid, heq⟩ | ⟨unentered, mid, e, scope, heq⟩
    · rw [hresume, heq] at finished ⊢
      exact Or.inl ⟨entered, endVisit_spec finished⟩
    · rw [hresume, heq] at finished ⊢
      have ho : Outcome.raised e = o := by simpa using finished
      have hfinish := (mid.finish_sameSight T (.raised e)).scope view
      exact Or.inr ⟨unentered, ⟨e, ho.symm⟩, hfinish.mounted.trans scope.mounted,
        hfinish.subscribers.trans scope.subscribers⟩

end State

namespace Session

/-- The next turn is that of a task which begins to visit a view that is not mounted. -/
structure Opens (s : Session) (T view : String) (fails : Bool) : Prop where
  next : s.queue.head? = some (.task T)
  ready : s.state.tasks.lookup T = some (.ready (.begin (.visit view fails)))
  hidden : s.state.isMounted view = false

/-- A visitor waits, after its first turn, for the fetch that callers get. -/
theorem Opens.follows {s : Session} {T view : String} {fails : Bool} (opens : s.Opens T view fails) :
    (s.advance .turn).state.Follows T s.state.cache.joined (.visiting view fails) := by
  rcases s with ⟨s, q⟩
  obtain ⟨rest, rfl⟩ := List.head?_eq_some_iff.mp opens.next
  exact .waits (Calls.visit opens.ready opens.hidden).follows

/-- However a visit ends, it leaves its view unmounted if it was entered, and else as it is. -/
theorem visit_ends {client : Client} {before later : List Input} {i : Input} {T view : String}
    {fails : Bool} {o : Outcome} {s during : Session} (begun : s = reached client before)
    (opens : s.Opens T view fails) (goesOn : during = s.run (.turn :: later))
    (unfinished : ∀ o, during.state.tasks.lookup T ≠ some (.finished o))
    (finished : (during.advance i).state.tasks.lookup T = some (.finished o)) :
    VisitEnd during.state (during.advance i).state view fails s.state.cache.joined o := by
  have hfollows : during.state.Follows T s.state.cache.joined (.visiting view fails) := by
    have inv : Inv s := begun ▸ reached_inv client before
    rw [goesOn]
    exact (inv.step (advance_move s .turn)).run_follows opens.follows later
  have hbound : Bound (during.advance i).state view := by
    have bound : Bound s.state view := begun ▸ reached_bound client before view
    rw [goesOn]
    exact (bound.run (.turn :: later)).advance i
  -- it finishes in a turn of its own
  rcases during.advance_own_or_ready i T with ⟨rfl, head⟩ | same | ⟨r, ready⟩
  · clear goesOn
    rcases during with ⟨d, q⟩
    obtain ⟨rest, rfl⟩ := List.head?_eq_some_iff.mp head
    rw [advance_turn_cons] at finished hbound ⊢
    simp only [take] at finished hbound ⊢
    cases hfollows with
    | waits now =>
      rw [resume_idle (by simp [now])] at finished
      exact absurd finished (unfinished o)
    | cancelled now => exact absurd now (unfinished _)
    | ended _ _ now => exact absurd now (unfinished _)
    | stopped now =>
      have hresume : d.resume T = (d.finish T .cancelled, none) := by
        simp only [State.resume, now]
      rw [hresume] at finished ⊢
      obtain rfl : Outcome.cancelled = o := by simpa using finished
      exact .stopped ((d.finish_sameSight T .cancelled).scope view)
    | told now =>
      rcases resume_visit now finished with ⟨entered, value, hidden⟩ | ⟨unentered, ⟨e, rfl⟩, kept⟩
      · refine .left entered value hidden ?_
        rw [isMounted_eq] at hidden
        have hzero : (d.resume T).1.follows view = 0 := by
          cases hbound with
          | absent _ follows => exact follows
          | hidden _ follows _ => exact follows
          | mounted shown _ _ _ => simp [shown] at hidden
        exact List.count_eq_zero.mp hzero
      · exact .refused unentered kept
  · exact absurd (same.symm.trans finished) (unfinished o)
  · exact absurd finished (unfinished_of_ready ready o)

/-- A visitor is told in its view that the store cannot be reached, and leaves the view. -/
theorem visit_ends_after_report :
    let client : Client := ⟨⟨"http://localhost:3625", .whole 30, 100, by decide⟩, ""⟩
    let before : List Input := [.event (.newView "v" .records), .event (.spawn "t" (.visit "v" false))]
    let later : List Input := [.turn, .event (.respond 0 (.fault (.network .connecting "lost"))),
      .turn, .turn, .turn]
    let during := (reached client before).run (.turn :: later)
    (reached client before).Opens "t" "v" false
      ∧ (∀ o, during.state.tasks.lookup "t" ≠ some (.finished o))
      ∧ (during.advance .turn).state.tasks.lookup "t" = some (.finished (.returned (.rowIds [])))
      ∧ during.state.isMounted "v" = true
      ∧ VisitEnd during.state (during.advance .turn).state "v" false 0 (.returned (.rowIds [])) :=
  ⟨⟨rfl, rfl, rfl⟩, unfinished_of_ready rfl, rfl, rfl,
    visit_ends rfl ⟨rfl, rfl, rfl⟩ rfl (unfinished_of_ready rfl) rfl⟩

/-- Three visits that leave their view mounted: one is cancelled while it waits, the fetch of one
fails for a reason that is none of the store's, and the view of one fails as it is told that the
store cannot be reached. -/
theorem visit_left_behind :
    let client : Client := ⟨⟨"http://localhost:3625", .whole 30, 100, by decide⟩, ""⟩
    let visit (observer : Observer) : List Input := [.event (.newView "v" observer),
      .event (.spawn "t" (.visit "v" false)), .turn, .turn]
    let answered (fault : RequestFault) : List Input :=
      .event (.respond 0 (.fault fault)) :: List.replicate 4 .turn
    let left (inputs : List Input) (o : Outcome) : Prop :=
      let s := (reached client inputs).state
      s.tasks.lookup "t" = some (.finished o) ∧ s.isMounted "v" = true
        ∧ s.cache.subscribers = [.view "v"]
    (reached client ((visit .records).take 2)).Opens "t" "v" false
      ∧ left (visit .records ++ [.event (.cancel "t"), .turn]) .cancelled
      ∧ left (visit .records ++ answered (.foreign .runtime "broken"))
        (.raised (.foreign .runtime "broken"))
      ∧ left (visit .fails ++ answered (.network .connecting "lost")) (.raised .redrawing) :=
  ⟨⟨rfl, rfl, rfl⟩, ⟨rfl, rfl, rfl⟩, ⟨rfl, rfl, rfl⟩, ⟨rfl, rfl, rfl⟩⟩

end Session

end LoginVault
