import LoginVault.Proofs.Session.Besides
import LoginVault.Proofs.Session.Requests

/-!
# Session.Attendance — tasks that only wait for the outcome of a fetch

A task that asked for a snapshot attends to its fetch (`Task.Attends`): it waits, is told how the
fetch ended, or is cancelled, and ends. In its own turns it does nothing else, it has no request
pending, and nobody waits for it. So every event, and every turn of another, does the same with
it and without it (`State.Attended.apply_besides`, `State.Attended.take_besides`).
-/

namespace LoginVault

/-- Whether the turn is that of one of these tasks. -/
def Turn.isOf (ts : List String) : Turn → Bool
  | .task T => T ∈ ts
  | _ => false

/-- Turns of others are all kept. -/
theorem filter_others {ts : List String} {turns : List Turn}
    (others : ∀ t ∈ turns, t.isOf ts = false) : turns.filter (!Turn.isOf ts ·) = turns :=
  List.filter_eq_self.mpr fun t ht => by simp [others t ht]

/-- Nothing is left to the task but to wait for the outcome of a fetch, and to end. -/
inductive Task.Attends : Task → Prop
  | waiting {f : Nat} : Attends (.waiting (.fetch f .outcome))
  | told {f : Nat} : Attends (.ready (.fetchEnded f .outcome))
  | cancelled : Attends (.ready .cancelled)
  | finished {o : Outcome} : Attends (.finished o)

namespace State

/-- These tasks attend to the outcomes of fetches, and have nothing pending of their own. -/
structure Attended (s : State) (ts : List String) : Prop where
  attends : ∀ T ∈ ts, ∃ t, s.tasks.lookup T = some t ∧ t.Attends
  accounts : ∀ T ∈ ts, s.Accounts (.task T)

variable {s : State} {ts : List String} {T : String}

theorem Attended.uses (att : s.Attended ts) : s.Uses ts := by
  intro T hT
  rcases att.attends T hT with ⟨t, ht, -⟩
  simp [ht]

/-- A task that attends to a fetch has no request pending. -/
theorem Attended.no_request (att : s.Attended ts) (hT : T ∈ ts) {q : Query} :
    (.task T, q) ∉ s.pending := by
  intro mem
  rcases att.attends T hT with ⟨t, ht, attends⟩
  rcases (att.accounts T hT).of_mem mem with ⟨e, he⟩
  rw [ht] at he
  cases he
  cases attends

/-- The turn of a task that attends to a fetch can only be its end. -/
theorem Attended.resume_besides (att : s.Attended ts) (hT : T ∈ ts) :
    (s.resume T).1.besides ts = s.besides ts ∧ (s.resume T).2 = none := by
  have hend (o : Outcome) : (s.finish T o).besides ts = s.besides ts :=
    besides_finish att.uses hT o
  rcases att.attends T hT with ⟨t, ht, attends⟩
  unfold resume
  rw [ht]
  cases attends with
  | waiting => exact ⟨rfl, rfl⟩
  | finished => exact ⟨rfl, rfl⟩
  | cancelled => exact ⟨hend _, rfl⟩
  | @told f =>
    simp only
    split
    · rename_i r hr
      cases r with
      | ok logins => exact ⟨hend _, rfl⟩
      | error why => cases why <;> exact ⟨hend _, rfl⟩
    · exact ⟨rfl, rfl⟩

/-- Cancelling a task that attends to a fetch gives it a turn at most. -/
theorem Attended.cancel_besides (att : s.Attended ts) (hT : T ∈ ts) :
    (s.cancel T).1.besides ts = s.besides ts ∧ ∀ t ∈ (s.cancel T).2, t.isOf ts = true := by
  have hset (t : Task) : (s.setTask T t).besides ts = s.besides ts :=
    besides_setTask att.uses hT t
  rcases att.attends T hT with ⟨t, ht, attends⟩
  unfold cancel
  rw [ht]
  cases attends with
  | told => exact ⟨hset _, by simp⟩
  | cancelled => exact ⟨hset _, by simp⟩
  | finished => exact ⟨rfl, by simp⟩
  | waiting =>
    -- no request is withdrawn, because the task has none
    have hkept : s.pending.filter (!ownedBy (.task T) ·) = s.pending := by
      refine List.filter_eq_self.mpr ?_
      rintro ⟨o, q⟩ hmem
      have hne : o ≠ .task T := by
        rintro rfl
        exact att.no_request hT hmem
      simpa [ownedBy] using hne
    simp only [hkept]
    exact ⟨hset _, by simpa [Turn.isOf] using hT⟩

/-- The end of a fetch gives a task that attends to it a turn at most. -/
theorem Attended.relay_besides (att : s.Attended ts) (hT : T ∈ ts) (f : Nat) :
    (s.relay f T).1.besides ts = s.besides ts := by
  have hset (t : Task) : (s.setTask T t).besides ts = s.besides ts :=
    besides_setTask att.uses hT t
  unfold relay
  split
  · split
    · exact hset _
    · rfl
  · split
    · exact hset _
    · rfl
  · rfl

/-! ## Events -/

theorem cancel_besides (s : State) {U : String} (h : U ∉ ts) :
    (s.besides ts).cancel U = ((s.cancel U).1.besides ts, (s.cancel U).2) := by
  unfold cancel
  rw [lookup_besides h]
  split
  · exact congrArg (·, []) (setTask_besides s h _)
  · exact congrArg (·, [Turn.task U]) (setTask_besides
      { s with pending := s.pending.filter (!ownedBy (.task U) ·) } h _)
  · rfl

/-- Every answer is to another task or to a fetch. -/
theorem Attended.respond_besides (att : s.Attended ts) (index : Nat) (a : Answer) :
    (s.besides ts).respond index a = ((s.respond index a).1.besides ts, (s.respond index a).2)
      ∧ ∀ t ∈ (s.respond index a).2, t.isOf ts = false := by
  unfold respond
  rw [pending_besides]
  cases hrequest : s.pending[index]? with
  | none => exact ⟨rfl, by simp⟩
  | some request =>
    rcases request with ⟨owner, q⟩
    cases owner with
    | fetch f =>
      simp only [cache_besides]
      split
      · exact ⟨rfl, by simp [Turn.isOf]⟩
      · exact ⟨rfl, by simp⟩
    | task U =>
      -- it answers none of these tasks, because they have no request pending
      have hU : U ∉ ts := fun hU => att.no_request hU (List.mem_of_getElem? hrequest)
      simp only [lookup_besides hU]
      split
      · refine ⟨congrArg (·, [Turn.task U]) ?_, by simpa [Turn.isOf] using hU⟩
        exact setTask_besides { s with pending := s.pending.eraseIdx index } hU _
      · exact ⟨rfl, by simp⟩

/-- What an event does besides these tasks, it does without them. -/
theorem Attended.apply_besides (att : s.Attended ts) (e : Event) :
    (s.besides ts).apply e = ⟨(s.apply e).state.besides ts,
      (s.apply e).turns.filter (!Turn.isOf ts ·), (s.apply e).failure⟩ := by
  have hchange (view : String) (f : View → View) := s.change_besides ts view f
  cases e with
  | subscribe callback actions => rfl
  | unsubscribe callback actions => rfl
  | newView view observer => rfl
  | unmount view => simp only [apply, unmount_besides, List.filter_nil]
  | setFilter view filter => simp only [apply, hchange, List.filter_nil]
  | openForm view => simp only [apply, changeForm_besides, List.filter_nil]
  | closeForm view => simp only [apply, changeForm_besides, List.filter_nil]
  | setOrder view order =>
    simp only [apply]
    split
    · simp only [hchange, List.filter_nil]
    · simp only [hchange, List.filter_nil]
    · rfl
  | respond index a =>
    rcases att.respond_besides index a with ⟨heq, hturns⟩
    simp only [apply, heq, filter_others hturns]
  | cancel U =>
    by_cases hU : U ∈ ts
    · -- cancelling a task that has ended does nothing
      rcases att.cancel_besides hU with ⟨heq, hturns⟩
      have hnone : (s.cancel U).2.filter (!Turn.isOf ts ·) = [] :=
        List.filter_eq_nil_iff.mpr fun t ht => by simp [hturns t ht]
      have hidle : (s.besides ts).cancel U = (s.besides ts, []) := by
        simp only [cancel, lookup_besides_mem att.uses hU]
      simp only [apply, hidle, heq, hnone]
    · have hturns : ∀ t ∈ (s.cancel U).2, t.isOf ts = false := by
        unfold cancel
        split <;> simp [Turn.isOf, hU]
      simp only [apply, s.cancel_besides hU, filter_others hturns]
  | spawn U c =>
    have hturns : ∀ t ∈ (if (s.spawn U c).2 then [Turn.task U] else []), t.isOf ts = false := by
      intro t ht
      have hstarted := (s.spawn_spawns U c).started
      cases h : (s.spawn U c).2 with
      | false => simp [h] at ht
      | true =>
        -- the name was not in use, so it is none of these
        have hnew : s.tasks.lookup U = none := (hstarted U (by simp [h])).1
        obtain rfl : t = .task U := by simpa [h] using ht
        simpa [Turn.isOf] using fun hU => att.uses U hU hnew
    simp only [apply, spawn_besides att.uses, filter_others hturns]

/-! ## Turns -/

/-- The names of the tasks that followers start were not in use. -/
theorem readFetch_started {f : Nat} {U : String} (h : U ∈ (s.readFetch f).2.1) :
    s.tasks.lookup U = none := by
  unfold readFetch at h
  split at h
  · split at h
    · simp at h
    · rename_i logins _
      exact ((tellAll_spawns _ _).started U h).1
    · simp at h
  · simp at h

/-- What the turn of another does besides these tasks, it does without them. -/
theorem Attended.take_besides (att : s.Attended ts) {t : Turn} (other : t.isOf ts = false) :
    (s.besides ts).take t
      = ((s.take t).1.besides ts, (s.take t).2.filter (!Turn.isOf ts ·)) := by
  cases t with
  | «open» f => exact congrArg (·, []) (s.openFetch_besides f)
  | settle f => rfl
  | task U =>
    have hU : U ∉ ts := by simpa [Turn.isOf] using other
    have hturns : ∀ t ∈ ((s.resume U).2.map Turn.open).toList, t.isOf ts = false := by
      cases (s.resume U).2 <;> simp [Turn.isOf]
    simp only [take, s.resume_besides hU, filter_others hturns]
  | relay f U =>
    by_cases hU : U ∈ ts
    · -- without these tasks it finds one that has ended, and does nothing
      have hidle : (s.besides ts).relay f U = (s.besides ts, false) := by
        simp only [relay, lookup_besides_mem att.uses hU]
      have hnone : (if (s.relay f U).2 then [Turn.task U] else []).filter (!Turn.isOf ts ·) = [] := by
        cases (s.relay f U).2 <;> simp [Turn.isOf, hU]
      simp only [take, hidle, att.relay_besides hU, hnone]
      rfl
    · have hturns : ∀ t ∈ (if (s.relay f U).2 then [Turn.task U] else []), t.isOf ts = false := by
        cases (s.relay f U).2 <;> simp [Turn.isOf, hU]
      simp only [take, s.relay_besides hU, filter_others hturns]
  | page f =>
    have hturns : ∀ t ∈ (s.take (.page f)).2, t.isOf ts = false := by
      intro t ht
      rcases List.mem_append.mp ht with hstarted | hrelay
      · rcases List.mem_map.mp hstarted with ⟨U, hU, rfl⟩
        simpa [Turn.isOf] using fun hmem => att.uses U hmem (readFetch_started hU)
      · split at hrelay
        · rcases List.mem_cons.mp hrelay with rfl | hrelay
          · rfl
          · rcases List.mem_map.mp hrelay with ⟨U, -, rfl⟩
            rfl
        · cases hrelay
    rw [filter_others hturns]
    simp only [take, readFetch_besides att.uses]

end State

end LoginVault
