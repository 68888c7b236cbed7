import LoginVault.Proofs.Session.Callers
import LoginVault.Proofs.Session.Notices
import Mathlib.Data.List.Induction

/-!
# Session.Submissions — how long a form is being submitted

A task that submits the form of a view marks the form as being submitted, and takes the mark away
when it reads that its login was created, or that the store refused it. Nobody else marks a form.
So a form that is marked was submitted by a task that still waits for its answer, or that never
comes to take the mark away: it was cancelled, or failed for a reason that is none of the store's
(`State.Submission`).

Main results: `reached_submissions`, and `submission_left_behind` for the tasks that leave their
form marked.
-/

namespace LoginVault

open State

/-- No observer fails as the store does. -/
theorem Observer.fault_foreign {x : Observer} {rows : List Login} {f : Failure}
    (fault : x.fault? rows = some f) (e : StoreError) : f ≠ .store e := by
  rintro rfl
  cases x with
  | absent => cases fault
  | records => cases fault
  | fails => cases fault
  | grid => simp [Observer.fault?] at fault

namespace State

/-! ## The forms of views -/

/-- The form of a view. -/
def form? (s : State) (view : String) : Option Form := (s.views.lookup view).map (·.form)

/-- Whether the form of a view is marked as being submitted. -/
def Submitting (s : State) (view : String) : Prop :=
  ∃ form, s.form? view = some form ∧ form.submitting = true

section Forms

variable {s s' : State} {view : String} {f : View → View} (w : String)

theorem form?_of_update {g : Form → Form} (views : s'.views = s.views.update view f)
    (h : ∀ v, (f v).form = g v.form) :
    s'.form? w = if w = view then (s.form? w).map g else s.form? w := by
  simp only [form?, views, Named.lookup_update]
  by_cases hw : w = view
  · simp [hw, Function.comp_def, h]
  · simp [hw]

theorem form?_of_kept (views : s'.views = s.views.update view f) (h : ∀ v, (f v).form = v.form) :
    s'.form? w = s.form? w := by
  rw [form?_of_update w views (g := id) h]
  simp

theorem form?_mount (view : String) : (s.mount view).form? w = s.form? w := by
  unfold mount
  split
  · exact form?_of_kept w rfl fun _ => rfl
  · rfl

theorem form?_unmount (view : String) : (s.unmount view).form? w = s.form? w := by
  unfold unmount
  split
  · split
    · exact form?_of_kept w rfl fun _ => rfl
    · rfl
  · rfl

theorem form?_changeForm (view : String) (g : Form → Form) :
    (s.changeForm view g).1.form? w = if w = view then (s.form? w).map g else s.form? w :=
  form?_of_update w (s.change_views view _) fun _ => rfl

theorem SameSight.form? (same : SameSight s s') : s'.form? w = s.form? w := by
  simp only [State.form?, same.views]

theorem Tells.form? {rows : List Login} (tells : Tells s s' rows) : s'.form? w = s.form? w := by
  simp only [State.form?, tells.views w]
  split
  · simp [Function.comp_def, View.told]
  · rfl

/-- A task changes a form in its turn only as it submits it or has read the answer. -/
theorem ViewTurn.form? {r : Resumption} (work : ViewTurn s r s') :
    s'.form? w = s.form? w ∨ ∃ g, FormTurn r w g ∧ s'.form? w = (s.form? w).map g := by
  cases work with
  | apart => exact Or.inl rfl
  | mounted _ _ => exact Or.inl (form?_mount w _)
  | unmounted _ => exact Or.inl (form?_unmount w _)
  | reported => exact Or.inl (form?_of_kept w (s.change_views _ _) fun _ => rfl)
  | left _ =>
    exact Or.inl ((form?_unmount w _).trans (form?_of_kept w (s.change_views _ _) fun _ => rfl))
  | @formed view g turn =>
    have hform := form?_changeForm (s := s) w view g
    by_cases hw : w = view
    · subst hw
      exact Or.inr ⟨g, turn, by rwa [if_pos rfl] at hform⟩
    · exact Or.inl (by rwa [if_neg hw] at hform)

/-- No event marks a form. -/
theorem EventSight.form? (sight : EventSight s s') :
    s'.form? w = s.form? w ∨ ∀ form, s'.form? w = some form → form.submitting = false := by
  cases sight with
  | aside same => exact Or.inl (same.form? w)
  | subscribed => exact Or.inl rfl
  | unsubscribed => exact Or.inl rfl
  | unmounted => exact Or.inl (form?_unmount w _)
  | edited view edit => exact Or.inl (form?_of_kept w (s.change_views view _) fun _ => rfl)
  | @formed view form unmarked =>
    rw [form?_changeForm]
    by_cases hw : w = view
    · rw [if_pos hw]
      refine Or.inr fun after hafter => ?_
      obtain ⟨-, -, rfl⟩ := Option.map_eq_some_iff.mp hafter
      exact unmarked
    · rw [if_neg hw]
      exact Or.inl rfl
  | @made view observer =>
    -- a name that is in use keeps its view, and a view that is made has an unmarked form
    simp only [State.form?, Named.lookup_putNew]
    by_cases hw : w = view
    · subst hw
      cases s.views.lookup w with
      | some v => exact Or.inl (by simp)
      | none =>
        refine Or.inr fun form hform => ?_
        obtain rfl : Form.closed = form := by simpa [View.fresh] using hform
        rfl
    · exact Or.inl (by simp [hw])

end Forms

/-! ## A task that submits -/

/-- How far a task is that has marked the form of a view and has not taken the mark away. -/
inductive Submission (s : State) (T view : String) (record : NewLogin) : Prop
  | awaits (now : s.tasks.lookup T = some (.waiting (.answer (.submit view record))))
  | answered {a : Answer} (now : s.tasks.lookup T = some (.ready (.answered (.submit view record) a)))
  | stopped (now : s.tasks.lookup T = some (.ready .cancelled))
  | cancelled (now : s.tasks.lookup T = some (.finished .cancelled))
  | failed {f : Failure} (foreign : ∀ e, f ≠ .store e)
      (now : s.tasks.lookup T = some (.finished (.raised f)))

section Turns

variable {s : State} {T view : String} {record : NewLogin}

/-- A task that has marked the form waits for its answer, unless the observer of the view fails. -/
theorem Submission.begun (ready : s.tasks.lookup T = some (.ready (.begin (.submit view (.ok record)))))
    (complete : record.problem? = none) : Submission (s.resume T).1 T view record := by
  have hresume : s.resume T = s.beginSubmit T view record := by
    simp only [State.resume, ready, State.begin]
  simp only [hresume, beginSubmit, complete]
  cases hform : s.changeForm view ({ · with submitting := true, error := "" }) with
  | mk mid fault =>
    cases fault with
    | none => exact .awaits (by simp)
    | some f =>
      obtain ⟨x, rows, hfault⟩ := redraw_fault _ (congrArg Prod.snd hform)
      exact .failed (Observer.fault_foreign hfault) (by simp)

/-- A task that has read its answer has taken the mark away, or failed. -/
theorem Submission.read {a : Answer}
    (ready : s.tasks.lookup T = some (.ready (.answered (.submit view record) a))) :
    Submission (s.resume T).1 T view record ∨ ¬ Submitting (s.resume T).1 view := by
  have hresume : s.resume T = s.answered T (.submit view record) a := by
    simp only [State.resume, ready]
  have hunmarked {g : Form → Form} {s' : State} (unmarks : ∀ form, (g form).submitting = false)
      (same : SameSight (s.changeForm view g).1 s') : ¬ Submitting s' view := by
    rintro ⟨form, hform, hmarked⟩
    rw [same.form? view, form?_changeForm, if_pos rfl] at hform
    obtain ⟨before, -, rfl⟩ := Option.map_eq_some_iff.mp hform
    simp [unmarks] at hmarked
  rw [hresume]
  simp only [State.answered]
  cases hread : a.result (.create record) Response.created with
  | ok login =>
    refine Or.inr ?_
    simp only
    split
    · rename_i mid heq
      exact hunmarked (g := fun _ => .closed) (fun _ => rfl)
        (by rw [heq]; exact mid.revalidate_sameSight T _ _)
    · rename_i mid f heq
      exact hunmarked (g := fun _ => .closed) (fun _ => rfl)
        (by rw [heq]; exact mid.finish_sameSight T _)
  | error f =>
    by_cases hstore : ∃ e, f = .store e
    · obtain ⟨e, rfl⟩ := hstore
      exact Or.inr (hunmarked (fun _ => rfl) (conclude_sameSight T _ _))
    · have hforeign : ∀ e, f ≠ .store e := fun e h => hstore ⟨e, h⟩
      refine Or.inl (.failed hforeign ?_)
      cases f with
      | store e => exact absurd rfl (hforeign e)
      | _ => simp

end Turns

end State

namespace Session

variable {s : Session} {T view : String} {record : NewLogin}

/-- A task that has marked the form of a view goes on so, or takes the mark away. -/
theorem Submission.advance (h : Submission s.state T view record) (i : Input) :
    Submission (s.advance i).state T view record ∨ ¬ Submitting (s.advance i).state view := by
  have move := (s.advance_move i).task_move T
  cases h with
  | cancelled now => exact Or.inl (.cancelled (move.of_finished now))
  | failed foreign now => exact Or.inl (.failed foreign (move.of_finished now))
  | stopped now =>
    rcases move.of_cancelled now with h | h
    · exact Or.inl (.stopped h)
    · exact Or.inl (.cancelled h)
  | awaits now =>
    refine Or.inl ?_
    cases move with
    | kept same => exact .awaits (same.trans now)
    | cancelled _ now' _ => exact .stopped now'
    | answered waiting now' _ =>
      obtain rfl : _ = Errand.submit view record := by simpa using waiting.symm.trans now
      exact .answered now'
    | _ => simp_all
  | @answered a now =>
    rcases s.advance_own_or_ready i T with ⟨rfl, head⟩ | same | ⟨r, ready⟩
    · -- this is the turn in which it reads the answer
      rcases s with ⟨s, q⟩
      obtain ⟨rest, rfl⟩ := List.head?_eq_some_iff.mp head
      exact State.Submission.read now
    · exact Or.inl (.answered (same.trans now))
    · cases move with
      | kept same => exact Or.inl (.answered (same.trans now))
      | overtaken _ now' _ => exact Or.inl (.stopped now')
      | _ => simp_all

/-- Only a task that submits a form marks it. -/
theorem advance_submitting (s : Session) (i : Input)
    (marked : Submitting (s.advance i).state view) :
    Submitting s.state view
      ∨ ∃ T record, s.state.tasks.lookup T = some (.ready (.begin (.submit view (.ok record))))
        ∧ Submission (s.advance i).state T view record := by
  cases i with
  | event e =>
    obtain ⟨form, hform, hmarked⟩ := marked
    rcases (s.state.apply_sight e).form? view with same | unmarked
    · exact Or.inl ⟨form, same.symm.trans hform, hmarked⟩
    · rw [unmarked form hform] at hmarked
      cases hmarked
  | turn =>
    rcases s with ⟨s, q⟩
    cases q with
    | nil => exact Or.inl marked
    | cons t rest =>
      rw [advance_turn_cons] at marked ⊢
      obtain ⟨form, hform, hmarked⟩ := marked
      cases s.take_sight t with
      | aside same _ _ => exact Or.inl ⟨form, (same.form? view).symm.trans hform, hmarked⟩
      | @told f rows _ _ after =>
        have hsame : (s.take t).1.form? view = s.form? view := by
          rw [after]
          exact (s.replaceSnapshot_tells rows).form? view
        exact Or.inl ⟨form, hsame.symm.trans hform, hmarked⟩
      | @resumed T r mid turn ready work after =>
        subst turn
        rw [after.form? view] at hform
        rcases work.form? view with same | ⟨g, turn, now⟩
        · exact Or.inl ⟨form, same.symm.trans hform, hmarked⟩
        · obtain ⟨before, hbefore, rfl⟩ := Option.map_eq_some_iff.mp (now.symm.trans hform)
          cases turn with
          | refused _ => exact Or.inl ⟨before, hbefore, hmarked⟩
          | submitted complete => exact Or.inr ⟨T, _, ready, .begun ready complete⟩
          | saved _ => cases hmarked
          | failed _ => cases hmarked

/-- In the course of these inputs the task submitted this record in the form of the view. -/
def Submits (client : Client) (inputs : List Input) (T view : String) (record : NewLogin) : Prop :=
  ∃ before, before <+: inputs
    ∧ (reached client before).state.tasks.lookup T
      = some (.ready (.begin (.submit view (.ok record))))

/-- A form that is marked was submitted by a task that has not taken the mark away. -/
theorem reached_submission (client : Client) (inputs : List Input)
    (marked : Submitting (reached client inputs).state view) :
    ∃ T record, Submits client inputs T view record
      ∧ Submission (reached client inputs).state T view record := by
  induction inputs using List.reverseRecOn with
  | nil =>
    obtain ⟨form, hform, -⟩ := marked
    cases hform
  | append_singleton inputs i ih =>
    rw [reached_concat] at marked ⊢
    rcases advance_submitting _ i marked with before | ⟨T, record, ready, now⟩
    · obtain ⟨T, record, ⟨first, hprefix, ready⟩, now⟩ := ih before
      rcases Submission.advance now i with h | h
      · exact ⟨T, record, ⟨first, hprefix.trans (List.prefix_append _ _), ready⟩, h⟩
      · exact absurd marked h
    · exact ⟨T, record, ⟨inputs, List.prefix_append _ _, ready⟩, now⟩

/-- What can be said of the forms that are marked as being submitted. -/
structure Submissions (client : Client) (inputs : List Input) : Prop where
  /-- A form that is marked was submitted by a task that still waits for its answer, or was
  cancelled, or failed for a reason that is none of the store's. -/
  marked : ∀ view v, (reached client inputs).state.views.lookup view = some v →
    v.form.submitting = true → ∃ T record, Submits client inputs T view record
      ∧ Submission (reached client inputs).state T view record
  /-- So no form is marked once all tasks have returned that submitted it. -/
  returned : ∀ view v, (reached client inputs).state.views.lookup view = some v →
    (∀ T record, Submits client inputs T view record →
      ∃ value, (reached client inputs).state.tasks.lookup T = some (.finished (.returned value))) →
    v.form.submitting = false

/-- Every reachable session has this to say of its forms. -/
theorem reached_submissions (client : Client) (inputs : List Input) :
    Submissions client inputs := by
  have hmarked (view : String) (v : View)
      (hv : (reached client inputs).state.views.lookup view = some v)
      (h : v.form.submitting = true) :
      ∃ T record, Submits client inputs T view record
        ∧ Submission (reached client inputs).state T view record :=
    reached_submission client inputs ⟨v.form, by simp [form?, hv], h⟩
  refine ⟨hmarked, ?_⟩
  intro view v hv returned
  cases hform : v.form.submitting with
  | false => rfl
  | true =>
    obtain ⟨T, record, submits, now⟩ := hmarked view v hv hform
    obtain ⟨value, hvalue⟩ := returned T record submits
    cases now with
    | awaits now => simp [hvalue] at now
    | answered now => simp [hvalue] at now
    | stopped now => simp [hvalue] at now
    | cancelled now => simp [hvalue] at now
    | failed _ now => simp [hvalue] at now

/-- Three tasks that leave their form marked, and no request behind: one is cancelled while it
waits for its answer, the request of one fails for a reason that is none of the store's, and the
view of one fails as its form is marked. -/
theorem submission_left_behind :
    let client : Client := ⟨⟨"http://localhost:3625", .whole 30, 100, by decide⟩, ""⟩
    let submit (observer : Observer) : List Input := [.event (.newView "v" observer),
      .event (.spawn "t" (.submit "v" (.ok ⟨"u", "n", "p"⟩))), .turn]
    let left (inputs : List Input) (o : Outcome) : Prop :=
      let s := (reached client inputs).state
      s.tasks.lookup "t" = some (.finished o) ∧ s.pending = []
        ∧ s.form? "v" = some ⟨false, true, ""⟩
    left (submit .records ++ [.event (.cancel "t"), .turn]) .cancelled
      ∧ left (submit .records
          ++ [.event (.respond 0 (.fault (.foreign .runtime "broken"))), .turn])
        (.raised (.foreign .runtime "broken"))
      ∧ left (submit .fails) (.raised .redrawing) :=
  ⟨⟨rfl, rfl, rfl⟩, ⟨rfl, rfl, rfl⟩, ⟨rfl, rfl, rfl⟩⟩

end Session

end LoginVault
