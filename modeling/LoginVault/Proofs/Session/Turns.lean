import LoginVault.Proofs.Session.Frame

/-!
# Session.Turns — what a task can do in a turn

A turn of a task ends in one of five ways (`TaskTurn`): the task finishes, asks for an answer of
its own, begins to wait for the fetch that is running, begins a fetch if none is, or finds that
it was told too early. Which of them are open to it depends on what it found when its turn came
(`Resumption.Finishes`, `Resumption.Joins`, `Resumption.Enlists`, `Resumption.IsOwn`). All else
that a turn does is to views and the journal.
-/

namespace LoginVault

/-! ## What a caller makes of a fetch -/

/-- How a task ends that went on after the fetch it had waited for. -/
def Purpose.Concludes : Purpose → Outcome → Prop
  | .outcome, o => o = .returned .nothing
  | .mounting _, o => o = .returned .nothing
  | .visiting _ true, o => o = .raised .navigation
  | .visiting _ false, o => ∃ ids, o = .returned (.rowIds ids)
  | .saved _ login, o => o = .returned (.login login)

/-- How a task ends that waited for a fetch with this outcome. Who asked for a snapshot gets the
snapshot, or the failure. A failure of the store that is reported to a view does not end the
task, unless the observer of the view fails. -/
def Purpose.Ends (p : Purpose) (r : Except Failure (List Login)) (o : Outcome) : Prop :=
  match r, State.Purpose.view? p with
  | .ok logins, none => o = .returned (.logins logins)
  | .ok _, some _ => p.Concludes o
  | .error (.store _), some _ =>
    p.Concludes o ∨ ∃ x : Observer, ∃ rows f, x.fault? rows = some f ∧ o = .raised f
  | .error f, _ => o = .raised f

namespace Resumption

/-- Whether the task goes on with work of its own: it begins, or reads an answer. -/
def IsOwn : Resumption → Prop
  | .begin _ | .answered _ _ => True
  | _ => False

/-- Whether the task may finish in this way. -/
def Finishes (c : Cache) : Resumption → Outcome → Prop
  | .begin _, _ | .answered _ _, _ => True
  | .supersededEnded _, _ => False
  | .fetchEnded f p, o => ∃ r, c.outcome? f = some r ∧ p.Ends r o
  | .cancelled, o => o = .cancelled

/-- Whether the task may join a fetch for this purpose. -/
def Joins : Resumption → Purpose → Prop
  | .begin _, _ | .answered _ _, _ => True
  | .supersededEnded p, q => q = p
  | _, _ => False

/-- Whether the task may begin to wait in this way for the fetch `f` that is running. -/
def Enlists (r : Resumption) (f : Nat) (w : Wait) : Prop :=
  (∃ p, w = .fetch f p ∧ r.Joins p) ∨ ∃ p, w = .superseded f p ∧ r.IsOwn

theorem IsOwn.finishes {r : Resumption} (own : r.IsOwn) (c : Cache) (o : Outcome) :
    r.Finishes c o := by
  cases r <;> simp_all [IsOwn, Finishes]

theorem IsOwn.joins {r : Resumption} (own : r.IsOwn) (p : Purpose) : r.Joins p := by
  cases r <;> simp_all [IsOwn, Joins]

end Resumption

namespace State

/-- What a turn of a task can do that finds `r` in `s`, and the fetch that is to be opened. -/
inductive TaskTurn (s : State) (task : String) (r : Resumption) : State × Option Nat → Prop
  | finished {mid : State} {o : Outcome} (same : SameWork s mid) (why : r.Finishes s.cache o) :
      TaskTurn s task r (mid.finish task o, none)
  | asked {mid : State} {e : Errand} (same : SameWork s mid) (why : r.IsOwn) :
      TaskTurn s task r (mid.ask task e)
  | enlisted {mid : State} {f : Nat} {w : Wait} (same : SameWork s mid) (why : r.Enlists f w)
      (running : mid.cache.running? = some f) :
      TaskTurn s task r
        ({ mid with cache := mid.cache.addWaiting f task }.setTask task (.waiting w), none)
  | began {mid : State} {p : Purpose} (same : SameWork s mid) (why : r.Joins p)
      (idle : mid.cache.running? = none) :
      TaskTurn s task r
        ({ mid with cache := mid.cache.beginFetch.addWaiting mid.cache.fetches.length task }.setTask
          task (.waiting (.fetch mid.cache.fetches.length p)), some mid.cache.fetches.length)
  | early {f : Nat} {p : Purpose} (why : r = .fetchEnded f p) (unended : s.cache.outcome? f = none) :
      TaskTurn s task r (s, none)

/-- What is done to views before a turn changes nothing about the turn. -/
theorem SameWork.taskTurn {s t : State} {task : String} {r : Resumption} {x : State × Option Nat}
    (h : SameWork s t) (own : r.IsOwn) (turn : TaskTurn t task r x) : TaskTurn s task r x := by
  cases turn with
  | finished same why => exact .finished (h.trans same) (own.finishes _ _)
  | asked same why => exact .asked (h.trans same) why
  | enlisted same why running => exact .enlisted (h.trans same) why running
  | began same why idle => exact .began (h.trans same) why idle
  | early why unended => subst why; exact own.elim

variable (s : State) (task : String)

/-! ## After a fetch -/

/-- A task that goes on after its fetch finishes. -/
theorem afterFetch_spec (p : Purpose) : ∃ mid o, s.afterFetch task p = (mid.finish task o, none)
    ∧ SameWork s mid ∧ p.Concludes o := by
  cases p with
  | outcome => exact ⟨s, _, rfl, .refl s, rfl⟩
  | mounting view => exact ⟨s, _, rfl, .refl s, rfl⟩
  | saved view login => exact ⟨s, _, rfl, .refl s, rfl⟩
  | visiting view fails =>
    refine ⟨_, _, rfl, s.unmount_sameWork view, ?_⟩
    cases fails with
    | true => rfl
    | false => exact ⟨_, rfl⟩

/-- What a view fails with when it is redrawn is a fault of its observer. -/
theorem redraw_fault {view : String} {f : Failure} (h : (s.redraw view).2 = some f) :
    ∃ x : Observer, ∃ rows, x.fault? rows = some f := by
  unfold redraw at h
  split at h
  · cases h
  · split at h
    · cases h
    · exact ⟨_, _, h⟩

/-- A task whose view is told of a failure of the store finishes as its purpose says, unless the
observer of the view fails. -/
theorem reported_spec (p : Purpose) (e : StoreError) {view : String}
    (hview : Purpose.view? p = some view) :
    ∃ mid o, s.fetchEnded task p (.error (.store e)) = (mid.finish task o, none)
      ∧ SameWork s mid
      ∧ (p.Concludes o ∨ ∃ x : Observer, ∃ rows f, x.fault? rows = some f ∧ o = .raised f) := by
  have hsame := s.report_sameWork view e
  have hfault {f : Failure} (h : (s.report view e).2 = some f) :
      ∃ x : Observer, ∃ rows, x.fault? rows = some f := redraw_fault _ h
  cases hreport : s.report view e with
  | mk mid fault =>
    rw [hreport] at hsame hfault
    cases fault with
    | none =>
      rcases mid.afterFetch_spec task p with ⟨last, o, heq, hlast, ho⟩
      refine ⟨last, o, ?_, hsame.trans hlast, Or.inl ho⟩
      simp only [fetchEnded, hview, hreport, heq]
    | some f =>
      rcases hfault rfl with ⟨x, rows, hx⟩
      refine ⟨mid, .raised f, ?_, hsame, Or.inr ⟨x, rows, f, hx, rfl⟩⟩
      simp only [fetchEnded, hview, hreport]

/-- A task that is told of the outcome of its fetch finishes as its purpose says. -/
theorem fetchEnded_spec (p : Purpose) (r : Except Failure (List Login)) :
    ∃ mid o, s.fetchEnded task p r = (mid.finish task o, none) ∧ SameWork s mid ∧ p.Ends r o := by
  cases hview : Purpose.view? p with
  | none =>
    cases r with
    | ok logins =>
      refine ⟨s, .returned (.logins logins), ?_, .refl s, ?_⟩
      · simp [fetchEnded, hview]
      · simp [Purpose.Ends, hview]
    | error f =>
      refine ⟨s, .raised f, ?_, .refl s, ?_⟩
      · simp [fetchEnded, hview]
      · simp [Purpose.Ends, hview]
  | some view =>
    cases r with
    | ok logins =>
      rcases s.afterFetch_spec task p with ⟨mid, o, heq, hsame, ho⟩
      refine ⟨mid, o, ?_, hsame, ?_⟩
      · simpa [fetchEnded, hview] using heq
      · simpa [Purpose.Ends, hview] using ho
    | error f =>
      by_cases hstore : ∃ e, f = .store e
      · rcases hstore with ⟨e, rfl⟩
        rcases s.reported_spec task p e hview with ⟨mid, o, heq, hsame, ho⟩
        refine ⟨mid, o, heq, hsame, ?_⟩
        simpa [Purpose.Ends, hview] using ho
      · -- no other failure is told to the view
        refine ⟨s, .raised f, ?_, .refl s, ?_⟩
        · cases f <;> simp_all [fetchEnded]
        · cases f <;> simp_all [Purpose.Ends]

/-! ## Work of its own -/

variable {s task} {r : Resumption}

theorem finish_turn (own : r.IsOwn) (o : Outcome) : TaskTurn s task r (s.finish task o, none) :=
  .finished (.refl s) (own.finishes _ _)

theorem ask_turn (own : r.IsOwn) (e : Errand) : TaskTurn s task r (s.ask task e) :=
  .asked (.refl s) own

theorem conclude_turn (own : r.IsOwn) (v : Value) {x : State × Option Failure}
    (same : SameWork s x.1) : TaskTurn s task r (conclude task v x) := by
  rcases x with ⟨mid, fault⟩
  cases fault with
  | none => exact same.taskTurn own (finish_turn own _)
  | some f => exact same.taskTurn own (finish_turn own _)

theorem awaitFetch_turn {p : Purpose} (why : r.Joins p) :
    TaskTurn s task r (s.awaitFetch task p) := by
  cases h : s.cache.running? with
  | some f =>
    rw [awaitFetch_of_running h]
    exact .enlisted (.refl s) (Or.inl ⟨p, rfl, why⟩) h
  | none =>
    rw [awaitFetch_of_none h]
    exact .began (.refl s) why h

theorem revalidate_turn (own : r.IsOwn) (fresh : Bool) (p : Purpose) :
    TaskTurn s task r (s.revalidate task fresh p) := by
  unfold revalidate
  split
  · rename_i f hrunning
    exact .enlisted (.refl s) (Or.inr ⟨p, rfl, own⟩) hrunning
  · exact awaitFetch_turn (own.joins p)

theorem beginMount_turn (own : r.IsOwn) (view : String) (p : Purpose) :
    TaskTurn s task r (s.beginMount task view p) := by
  unfold beginMount
  split
  · rcases s.afterFetch_spec task p with ⟨mid, o, heq, hsame, -⟩
    rw [heq]
    exact hsame.taskTurn own (finish_turn own o)
  · exact (s.mount_sameWork view).taskTurn own (revalidate_turn own false p)

theorem beginSubmit_turn (own : r.IsOwn) (view : String) (record : NewLogin) :
    TaskTurn s task r (s.beginSubmit task view record) := by
  unfold beginSubmit
  split
  · exact conclude_turn own _ (s.changeForm_sameWork view _)
  · rename_i hproblem
    have hsame := s.changeForm_sameWork view ({ · with submitting := true, error := "" })
    cases hform : s.changeForm view ({ · with submitting := true, error := "" }) with
    | mk mid fault =>
      rw [hform] at hsame
      cases fault with
      | none => exact hsame.taskTurn own (ask_turn own _)
      | some f => exact hsame.taskTurn own (finish_turn own _)

theorem begin_turn (c : Call) : TaskTurn s task (.begin c) (s.begin task c) := by
  have own : (Resumption.begin c).IsOwn := trivial
  cases c with
  | revalidate fresh => exact revalidate_turn own fresh _
  | refresh view => exact revalidate_turn own false _
  | list search => exact ask_turn own _
  | mount view => exact beginMount_turn own view _
  | visit view fails => exact beginMount_turn own view _
  | create record =>
    cases record with
    | ok record => exact ask_turn own _
    | error why => exact finish_turn own _
  | submit view record =>
    cases record with
    | ok record => exact beginSubmit_turn own view record
    | error why => exact finish_turn own _
  | lookup address =>
    simp only [begin]
    split
    · exact finish_turn own _
    · split
      · exact finish_turn own _
      · exact ask_turn own _

theorem readPage_turn (own : r.IsOwn) (p : Paging) (a : Answer) (next : Paging → Errand)
    (finished : Except Failure (List Login) → Outcome) :
    TaskTurn s task r (s.readPage task p a next finished) := by
  unfold readPage
  split
  · exact ask_turn own _
  · exact finish_turn own _
  · exact finish_turn own _

theorem answered_turn (e : Errand) (a : Answer) :
    TaskTurn s task (.answered e a) (s.answered task e a) := by
  have own : (Resumption.answered e a).IsOwn := trivial
  cases e with
  | list p => exact readPage_turn own _ _ _ _
  | lookup key p => exact readPage_turn own _ _ _ _
  | create record =>
    simp only [answered]
    split
    · exact finish_turn own _
    · exact finish_turn own _
  | submit view record =>
    simp only [answered]
    split
    · have hsame := s.changeForm_sameWork view fun _ => .closed
      cases hform : s.changeForm view fun _ => .closed with
      | mk mid fault =>
        rw [hform] at hsame
        cases fault with
        | none => exact hsame.taskTurn own (revalidate_turn own true _)
        | some f => exact hsame.taskTurn own (finish_turn own _)
    · exact conclude_turn own _ (s.changeForm_sameWork view _)
    · exact finish_turn own _

/-! ## Every turn of a task -/

/-- The turn of a task whose turn was coming. -/
theorem resume_turn (h : s.tasks.lookup task = some (.ready r)) :
    TaskTurn s task r (s.resume task) := by
  unfold resume
  rw [h]
  cases r with
  | begin c => exact begin_turn c
  | answered e a => exact answered_turn e a
  | supersededEnded p => exact awaitFetch_turn rfl
  | cancelled => exact .finished (.refl s) rfl
  | fetchEnded f p =>
    have hread : s.cache.fetches[f]?.bind Fetch.outcome? = s.cache.outcome? f := rfl
    simp only [hread]
    cases hr : s.cache.outcome? f with
    | none => exact .early rfl hr
    | some outcome =>
      rcases s.fetchEnded_spec task p outcome with ⟨mid, o, heq, hsame, hends⟩
      simp only [heq]
      exact .finished hsame ⟨outcome, hr, hends⟩

/-- The turn of a task that has no turn coming does nothing. -/
theorem resume_idle (h : ∀ r, s.tasks.lookup task ≠ some (.ready r)) :
    s.resume task = (s, none) := by
  unfold resume
  split
  · rename_i r hr
    exact absurd hr (h r)
  · rfl

/-- A turn of a task leaves all other tasks alone. -/
theorem TaskTurn.others {x : State × Option Nat} {U : String}
    (turn : TaskTurn s task r x) (hne : U ≠ task) : x.1.tasks.lookup U = s.tasks.lookup U := by
  cases turn with
  | finished same why => simp [hne, same.tasks]
  | asked same why => simp [hne, same.tasks]
  | enlisted same why running => simp [hne, same.tasks]
  | began same why idle => simp [hne, same.tasks]
  | early why unended => rfl

/-- A task takes its turn, and then has none coming. -/
theorem TaskTurn.unready {x : State × Option Nat} (turn : TaskTurn s task r x)
    (told : ∀ f p, r = .fetchEnded f p → ∃ outcome, s.cache.outcome? f = some outcome) :
    ∀ r', x.1.tasks.lookup task ≠ some (.ready r') := by
  intro r'
  cases turn with
  | finished same why => simp
  | asked same why => simp
  | enlisted same why running => simp
  | began same why idle => simp
  | early why unended =>
    rcases told _ _ why with ⟨outcome, h⟩
    rw [unended] at h
    cases h

end State

end LoginVault
