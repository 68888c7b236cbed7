import LoginVault.Proofs.Session.Deeds
import LoginVault.Proofs.Session.Wakings
import Mathlib.Data.List.Induction

/-!
# Session.Creations — what the store is asked to create

The store is asked to create a record by a task in its first turn, one record at a time
(`take_creations`). A task that submits a form asks only if its record has no problem. While no task
is about to begin that creates something (`State.Calm`), nothing is asked to be created, whatever
turns are taken.

Main result: `reached_creations`.
-/

namespace LoginVault

/-- The record that is asked to be created. -/
def Entry.creation? : Entry → Option NewLogin
  | .sent (.create record) => some record
  | _ => none

namespace State

/-- What the store was asked to create so far, in order. -/
def creations (s : State) : List NewLogin := s.deeds.filterMap Entry.creation?

/-! ## Creations -/

section Creations

variable {s s' : State} {T : String} {r : Resumption}

theorem Adds.creations {news : List Entry} (adds : Adds s s' news) :
    s'.creations = s.creations ++ news.filterMap Entry.creation? := by
  simp [State.creations, adds.deeds]

/-- The end of a task has the store asked for nothing. -/
theorem finish_creations (s : State) (T : String) (o : Outcome) :
    (s.finish T o).creations = s.creations :=
  (s.finish_adds T o).creations.trans (List.append_nil _)

/-- What a turn of a task has the store asked to create. -/
theorem TaskDeed.creations (deed : TaskDeed s T r s') : s'.creations = s.creations
    ∨ ∃ record, r.Creates record ∧ s'.creations = s.creations ++ [record] := by
  cases deed with
  | waits adds _ => exact Or.inl (by simp [adds.creations])
  | ended adds _ => exact Or.inl (by simp [adds.creations, Entry.creation?])
  | @asked e q adds _ creates =>
    cases q with
    | page search limit offset => exact Or.inl (by simp [adds.creations, Entry.creation?])
    | create record =>
      exact Or.inr ⟨record, creates record rfl, by simp [adds.creations, Entry.creation?]⟩

/-- A turn has the store asked to create one record at most, and then it is the first turn of the
task that asks. -/
theorem take_creations (s : State) (t : Turn) : (s.take t).1.creations = s.creations
    ∨ ∃ T r record, t = .task T ∧ s.tasks.lookup T = some (.ready r) ∧ r.Creates record
      ∧ (s.take t).1.creations = s.creations ++ [record] := by
  cases s.take_deed t with
  | ofFetch asked adds _ =>
    refine Or.inl ?_
    cases asked <;> simp [adds.creations, Entry.creation?, Paging.query]
  | @ofTask T r turn ready deed =>
    rcases deed.creations with same | ⟨record, creates, now⟩
    · exact Or.inl same
    · exact Or.inr ⟨T, r, record, turn, ready, creates, now⟩

/-- Why the observer of a view fails if it is called now, if it does. -/
def fault? (s : State) (view : String) : Option Failure :=
  (s.views.lookup view).bind fun v => v.observer.fault? v.table.rows

/-- A change that leaves the rows alone has the observer called, which sees the same rows. -/
theorem change_fault (s : State) (view : String) {f : View → View}
    (kept : ∀ v, (f v).observer = v.observer ∧ (f v).table.rows = v.table.rows) :
    (s.change view f).2 = s.fault? view := by
  simp only [change, redraw, updateView, fault?, Named.lookup_update, if_true]
  cases s.views.lookup view with
  | none => rfl
  | some v =>
    simp only [Option.map_some, Option.bind_some, (kept v).1, (kept v).2]
    split
    · rename_i absent
      rw [absent]
      rfl
    · rfl

theorem changeForm_fault (s : State) (view : String) (f : Form → Form) :
    (s.changeForm view f).2 = s.fault? view :=
  s.change_fault view fun _ => ⟨rfl, rfl⟩

/-- The first turn of a task that submits the form of a view: either it asks the store, or it ends
and asks for nothing. -/
inductive SubmitTurn (s : State) (T view : String) (record : NewLogin) (s' : State) : Prop
  | asked (complete : record.problem? = none) (draws : s.fault? view = none)
      (creations : s'.creations = s.creations ++ [record])
      (pending : s'.pending = s.pending ++ [(.task T, .create record)])
  | refused {o : Outcome} (why : record.problem? ≠ none ∨ s.fault? view ≠ none)
      (creations : s'.creations = s.creations) (pending : s'.pending = s.pending)
      (now : s'.tasks.lookup T = some (.finished o))

theorem resume_submit {view : String} {record : NewLogin}
    (ready : s.tasks.lookup T = some (.ready (.begin (.submit view (.ok record))))) :
    (s.resume T).2 = none ∧ SubmitTurn s T view record (s.resume T).1 := by
  have hresume : s.resume T = s.beginSubmit T view record := by
    simp only [resume, ready, begin]
  -- the form is changed in any case, which calls the observer of the view
  have hended {f : Form → Form} (why : record.problem? ≠ none ∨ s.fault? view ≠ none)
      (o : Outcome) : SubmitTurn s T view record ((s.changeForm view f).1.finish T o) := by
    have hchange : Adds s (s.changeForm view f).1 [] := s.change_adds view _
    have hcreations : ((s.changeForm view f).1.finish T o).creations = s.creations := by
      rw [finish_creations, hchange.creations]
      exact List.append_nil _
    exact .refused (o := o) why hcreations (s.changeForm_sameWork view f).pending (by simp)
  rw [hresume, beginSubmit]
  cases hproblem : record.problem? with
  | some problem =>
    have hrefused : record.problem? ≠ none ∨ s.fault? view ≠ none := Or.inl (by simp [hproblem])
    simp only
    cases hform : s.changeForm view ({ · with error := problem.message }) with
    | mk mid fault =>
      have hmid := hended (f := ({ · with error := problem.message })) hrefused
      rw [hform] at hmid
      cases fault with
      | none => exact ⟨rfl, hmid _⟩
      | some f => exact ⟨rfl, hmid _⟩
  | none =>
    have hfault := s.changeForm_fault view ({ · with submitting := true, error := "" })
    have hadds : Adds s (s.changeForm view ({ · with submitting := true, error := "" })).1 [] :=
      s.change_adds view _
    have hsame := s.changeForm_sameWork view ({ · with submitting := true, error := "" })
    have hmid := hended (f := ({ · with submitting := true, error := "" }))
    simp only
    cases hform : s.changeForm view ({ · with submitting := true, error := "" }) with
    | mk mid fault =>
      rw [hform] at hfault hadds hsame hmid
      cases fault with
      | none =>
        have hasked : Adds mid (mid.ask T (.submit view record)).1 [.sent (.create record)] :=
          note_deed_adds mid rfl
        refine ⟨rfl, .asked hproblem hfault.symm (hadds.trans hasked).creations ?_⟩
        exact congrArg (· ++ [(Owner.task T, Query.create record)]) hsame.pending
      | some f => exact ⟨rfl, hmid (Or.inr (by simp [← hfault])) _⟩

/-- Whether no task is about to ask the store to create anything. -/
def Calm (s : State) : Prop :=
  ∀ T r record, s.tasks.lookup T = some (.ready r) → ¬ r.Creates record

/-- A calm session stays calm, and nothing is asked to be created. -/
theorem Calm.take (calm : s.Calm) (t : Turn) :
    (s.take t).1.Calm ∧ (s.take t).1.creations = s.creations := by
  constructor
  · intro T r record now creates
    obtain ⟨c, rfl⟩ := creates.begins
    rcases take_wakes now with before | passed
    · exact calm T _ record before creates
    · -- a callback starts tasks that fetch the collection and no others
      cases passed
      cases creates
  · rcases s.take_creations t with same | ⟨T, r, record, -, ready, creates, -⟩
    · exact same
    · exact absurd creates (calm T r record ready)

/-- An event that starts no task which creates something leaves a session calm. -/
theorem Calm.apply (calm : s.Calm) {e : Event}
    (starts : ∀ T c record, e = .spawn T c → ¬ (Resumption.begin c).Creates record) :
    (s.apply e).state.Calm := by
  intro T r record now creates
  obtain ⟨c, rfl⟩ := creates.begins
  rcases apply_wakes now with before | wakes
  · exact calm T _ record before creates
  · cases wakes
    exact starts T c record rfl creates

end Creations

end State

namespace Session

open State

/-- In the course of these inputs a task asked the store to create this record, without a form. -/
def AsksBare (client : Client) (inputs : List Input) (record : NewLogin) : Prop :=
  ∃ before T, before <+: inputs
    ∧ (reached client before).state.tasks.lookup T = some (.ready (.begin (.create (.ok record))))

/-- An input has the store asked to create one record at most. -/
theorem advance_creations (s : Session) (i : Input) :
    (s.advance i).state.creations = s.state.creations
      ∨ ∃ T r record, s.state.tasks.lookup T = some (.ready r) ∧ r.Creates record
        ∧ (s.advance i).state.creations = s.state.creations ++ [record] := by
  rcases s with ⟨s, q⟩
  cases i with
  | event e => exact Or.inl ((s.apply_adds e).creations.trans (List.append_nil _))
  | turn =>
    cases q with
    | nil => exact Or.inl rfl
    | cons t rest =>
      rw [advance_turn_cons]
      exact (s.take_creations t).imp_right fun ⟨T, r, record, _, sent⟩ => ⟨T, r, record, sent⟩

/-- Whatever the store was asked to create has no problem, or was asked for without a form. -/
theorem reached_creations (client : Client) (inputs : List Input) :
    ∀ record ∈ (reached client inputs).state.creations,
      record.problem? = none ∨ AsksBare client inputs record := by
  induction inputs using List.reverseRecOn with
  | nil => nofun
  | append_singleton inputs i ih =>
    have hearlier {record : NewLogin} (h : record.problem? = none ∨ AsksBare client inputs record) :
        record.problem? = none ∨ AsksBare client (inputs ++ [i]) record :=
      h.imp_right fun ⟨before, T, first, asks⟩ =>
        ⟨before, T, first.trans (List.prefix_append _ _), asks⟩
    rw [reached_concat]
    intro record mem
    rcases (reached client inputs).advance_creations i with same | ⟨T, r, new, ready, creates, now⟩
    · exact hearlier (ih record (same ▸ mem))
    · rw [now] at mem
      rcases List.mem_append.mp mem with old | last
      · exact hearlier (ih record old)
      · obtain rfl : record = new := List.mem_singleton.mp last
        cases creates with
        | create => exact Or.inr ⟨inputs, T, List.prefix_append _ _, ready⟩
        | submit complete => exact Or.inl complete

end Session

end LoginVault
