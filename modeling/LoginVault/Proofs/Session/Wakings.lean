import LoginVault.Proofs.Paging.Failures
import LoginVault.Proofs.Session.FetchMoves

/-!
# Session.Wakings — what a task finds, and why

A task that has a turn coming was given it by an event, which says what the task finds
(`Event.Wakes`), or by the turn of somebody else, which starts it to fetch the collection or passes
the end of a fetch on to it (`Resumption.IsPassedOn`). So a task is cancelled by its cancellation
only, and an answer that is read was given from outside. While all answers that are given are
ordinary, all that are read are, and a fetch that fails fails as the store does
(`State.IsOrdinary`).

Main results: `advance_wakes` and `reached_ordinary`.
-/

namespace LoginVault

/-- What the task `T` finds in the turn that an event gives it. -/
inductive Event.Wakes (T : String) : Event → Resumption → Prop
  | started {c : Call} : Wakes T (.spawn T c) (.begin c)
  | cancelled : Wakes T (.cancel T) .cancelled
  | answered {index : Nat} {e : Errand} {a : Answer} : Wakes T (.respond index a) (.answered e a)

/-- What a task can find in a turn that a turn of somebody else gives it. -/
inductive Resumption.IsPassedOn : Resumption → Prop
  | started {fresh : Bool} : IsPassedOn (.begin (.revalidate fresh))
  | told {f : Nat} {p : Purpose} : IsPassedOn (.fetchEnded f p)
  | released {p : Purpose} : IsPassedOn (.supersededEnded p)

namespace State

variable {s : State} {T : String} {r : Resumption}

/-! ## Tasks that get a turn -/

/-- Putting one task into another state gives no other task a turn. -/
theorem ready_of_set {U : String} {x : Task}
    (now : (s.tasks.put U x).lookup T = some (.ready r)) :
    s.tasks.lookup T = some (.ready r) ∨ T = U ∧ x = .ready r := by
  rw [Named.lookup_put] at now
  split at now
  · rename_i hT
    exact Or.inr ⟨hT, Option.some.inj now⟩
  · exact Or.inl now

theorem spawn_wakes {U : String} {c : Call}
    (now : (s.spawn U c).1.tasks.lookup T = some (.ready r)) :
    s.tasks.lookup T = some (.ready r) ∨ T = U ∧ r = .begin c := by
  unfold spawn at now
  split at now
  · exact Or.inl now
  · refine (ready_of_set now).imp_right fun ⟨hT, begins⟩ => ⟨hT, ?_⟩
    exact (Task.ready.inj begins).symm

/-- A callback starts tasks that fetch the collection and no others. -/
theorem act_wakes {actions : List Action}
    (now : (s.act actions).1.tasks.lookup T = some (.ready r)) :
    s.tasks.lookup T = some (.ready r) ∨ r.IsPassedOn := by
  fun_induction act s actions with
  | case1 s => exact Or.inl now
  | case2 s rest => exact Or.inl now
  | case3 s x rest ih => exact ih now
  | case4 s x rest ih => exact ih now
  | case5 s U fresh rest next started hspawn after tasks hact ih =>
    rw [hact] at ih
    rcases ih now with before | passed
    · have hnext : next = (s.spawn U (.revalidate fresh)).1 := by rw [hspawn]
      refine (spawn_wakes (hnext ▸ before)).imp_right ?_
      rintro ⟨-, rfl⟩
      exact .started
    · exact Or.inr passed

theorem tell_wakes {x : Subscriber} (now : (s.tell x).1.tasks.lookup T = some (.ready r)) :
    s.tasks.lookup T = some (.ready r) ∨ r.IsPassedOn := by
  cases x with
  | view view => exact Or.inl ((s.change_sameWork view _).tasks ▸ now)
  | callback name => exact act_wakes (s := s.note _) now

theorem tellAll_wakes {xs : List Subscriber}
    (now : (s.tellAll xs).1.tasks.lookup T = some (.ready r)) :
    s.tasks.lookup T = some (.ready r) ∨ r.IsPassedOn := by
  induction xs generalizing s with
  | nil => exact Or.inl now
  | cons x rest ih =>
    rcases ih (s := (s.tell x).1) now with before | passed
    · exact tell_wakes before
    · exact Or.inr passed

/-- A task gives no turn to anybody in its own. -/
theorem resume_wakes {U : String} (now : (s.resume U).1.tasks.lookup T = some (.ready r)) :
    s.tasks.lookup T = some (.ready r) := by
  by_cases h : ∃ r, s.tasks.lookup U = some (.ready r)
  · obtain ⟨r', ready⟩ := h
    have turn := resume_turn ready
    by_cases hU : T = U
    · subst hU
      generalize s.resume T = x at turn now
      cases turn with
      | finished _ _ | asked _ _ | enlisted _ _ _ | began _ _ _ => simp at now
      | early _ _ => exact now
    · exact (turn.others hU).symm.trans now
  · rw [resume_idle fun r' hr => h ⟨r', hr⟩] at now
    exact now

/-- A turn starts tasks that fetch the collection, passes the end of a fetch on, or gives no turn
to anybody. -/
theorem take_wakes {t : Turn} (now : (s.take t).1.tasks.lookup T = some (.ready r)) :
    s.tasks.lookup T = some (.ready r) ∨ r.IsPassedOn := by
  have hset {U : String} {r' : Resumption} (passed : r'.IsPassedOn)
      (now : (s.tasks.put U (.ready r')).lookup T = some (.ready r)) :
      s.tasks.lookup T = some (.ready r) ∨ r.IsPassedOn := by
    refine (ready_of_set now).imp_right ?_
    rintro ⟨-, ⟨⟩⟩
    exact passed
  cases t with
  | task U => exact Or.inl (resume_wakes now)
  | settle f => exact Or.inl now
  | «open» f =>
    simp only [take, openFetch] at now
    split at now <;> exact Or.inl now
  | page f =>
    simp only [take, readFetch] at now
    split at now
    · split at now
      · exact Or.inl now
      · rename_i rows _
        exact tellAll_wakes (s := s.withSnapshot rows) now
      · exact Or.inl now
    · exact Or.inl now
  | relay f U =>
    simp only [take, relay] at now
    split at now
    · split at now
      · exact hset .told now
      · exact Or.inl now
    · split at now
      · exact hset .released now
      · exact Or.inl now
    · exact Or.inl now

/-- An event gives a turn to the task that it says and to no other. -/
theorem apply_wakes {e : Event} (now : (s.apply e).state.tasks.lookup T = some (.ready r)) :
    s.tasks.lookup T = some (.ready r) ∨ e.Wakes T r := by
  cases e with
  | spawn U c =>
    refine (spawn_wakes now).imp_right ?_
    rintro ⟨rfl, rfl⟩
    exact .started
  | cancel U =>
    have hset (now : (s.tasks.put U (.ready .cancelled)).lookup T = some (.ready r)) :
        s.tasks.lookup T = some (.ready r) ∨ (Event.cancel U).Wakes T r := by
      refine (ready_of_set now).imp_right ?_
      rintro ⟨rfl, ⟨⟩⟩
      exact .cancelled
    simp only [apply, cancel] at now
    split at now
    · exact hset now
    · exact hset now
    · exact Or.inl now
  | respond index a =>
    simp only [apply, respond] at now
    split at now
    · exact Or.inl now
    · split at now
      · split at now
        · refine (ready_of_set now).imp_right ?_
          rintro ⟨rfl, ⟨⟩⟩
          exact .answered
        · exact Or.inl now
      · split at now
        · exact Or.inl now
        · exact Or.inl now
  | subscribe name actions => exact Or.inl ((s.subscribe_sameWork name actions).tasks ▸ now)
  | unsubscribe name actions => exact Or.inl ((s.unsubscribe_sameWork name actions).tasks ▸ now)
  | newView view observer => exact Or.inl now
  | unmount view => exact Or.inl ((s.unmount_sameWork view).tasks ▸ now)
  | setFilter view text => exact Or.inl ((s.change_sameWork view _).tasks ▸ now)
  | openForm view => exact Or.inl ((s.changeForm_sameWork view _).tasks ▸ now)
  | closeForm view => exact Or.inl ((s.changeForm_sameWork view _).tasks ▸ now)
  | setOrder view name =>
    refine Or.inl ?_
    simp only [apply] at now
    split at now
    · exact (s.change_sameWork view _).tasks ▸ now
    · exact (s.change_sameWork view _).tasks ▸ now
    · exact now

/-! ## Answers that are read -/

/-- A fetch gets an answer to read from outside. -/
theorem apply_answered {e : Event} {f : Nat} {p : Paging} {a : Answer}
    (now : (s.apply e).state.cache.stage? f = some (.answered p a)) :
    s.cache.stage? f = some (.answered p a) ∨ ∃ index, e = .respond index a := by
  have hsame {s' : State} (same : SameWork s s')
      (now : s'.cache.stage? f = some (.answered p a)) :
      s.cache.stage? f = some (.answered p a) ∨ ∃ index, e = .respond index a :=
    Or.inl ((same.stage? f).symm.trans now)
  cases e with
  | spawn U c => exact Or.inl ((Cache.reads_congr (s.spawn_spawns U c).fetches f).1.symm.trans now)
  | cancel U =>
    simp only [apply, cancel] at now
    split at now <;> exact Or.inl now
  | respond index b =>
    simp only [apply, respond] at now
    split at now
    · exact Or.inl now
    · split at now
      · split at now <;> exact Or.inl now
      · split at now
        · rename_i g _ asking
          rcases Session.stage?_setStage_cases (d := s.cache) rfl asking f
            with ⟨-, same⟩ | ⟨-, set⟩
          · exact Or.inl (same.symm.trans now)
          · obtain ⟨-, rfl⟩ : _ ∧ b = a := by simpa using set.symm.trans now
            exact Or.inr ⟨index, rfl⟩
        · exact Or.inl now
  | subscribe name actions => exact hsame (s.subscribe_sameWork name actions) now
  | unsubscribe name actions => exact hsame (s.unsubscribe_sameWork name actions) now
  | newView view observer => exact Or.inl now
  | unmount view => exact hsame (s.unmount_sameWork view) now
  | setFilter view text => exact hsame (s.change_sameWork view _) now
  | openForm view => exact hsame (s.changeForm_sameWork view _) now
  | closeForm view => exact hsame (s.changeForm_sameWork view _) now
  | setOrder view name =>
    simp only [apply] at now
    split at now
    · exact hsame (s.change_sameWork view _) now
    · exact hsame (s.change_sameWork view _) now
    · exact Or.inl now

/-- No turn makes one that reads a page. -/
theorem page_not_mem_take (t : Turn) (f : Nat) : .page f ∉ (s.take t).2 := by
  have hnone : (s.take t).2.countP Turn.readsPage = 0 := by
    cases h : t.readsPage with
    | false => exact (s.take_lighter t h).1
    | true =>
      obtain ⟨g, rfl⟩ : ∃ g, t = .page g := by cases t <;> simp_all [Turn.readsPage]
      exact s.take_page g
  intro mem
  simpa [Turn.readsPage] using List.countP_eq_zero.mp hnone _ mem

/-- No turn gives a fetch an answer to read. -/
theorem take_answered {t : Turn} {f : Nat} {p : Paging} {a : Answer}
    (now : (s.take t).1.cache.stage? f = some (.answered p a)) :
    s.cache.stage? f = some (.answered p a) := by
  cases (Session.take_move s [] t).fetch_move f with
  | kept same => exact same.symm.trans now
  | answered _ _ turn => exact absurd turn (by simpa using s.page_not_mem_take t f)
  | begun _ _ begun _ => simp [begun] at now
  | opened _ asking _ _ => simp [asking] at now
  | turned _ asking _ _ => simp [asking] at now
  | ended _ finished _ => simp [finished] at now

end State

/-! ## Every input -/

/-- Whether the input gives no answer that is a fault of the caller or of the host. -/
def Input.IsOrdinary : Input → Prop
  | .event (.respond _ a) => a.IsOrdinary
  | _ => True

/-- Whether every answer that is still to be read is ordinary, and every fetch that has ended has
read the collection or failed as the store does. -/
structure State.IsOrdinary (s : State) : Prop where
  tasks : ∀ T e a, s.tasks.lookup T = some (.ready (.answered e a)) → a.IsOrdinary
  fetches : ∀ f p a, s.cache.stage? f = some (.answered p a) → a.IsOrdinary
  outcomes : ∀ f r, s.cache.outcome? f = some r → Reportable r

namespace Session

open State

variable {s s' : Session} {i : Input}

/-- A task gets a turn by an event, or by a turn of somebody else. -/
theorem advance_wakes {T : String} {r : Resumption}
    (now : (s.advance i).state.tasks.lookup T = some (.ready r)) :
    s.state.tasks.lookup T = some (.ready r) ∨ (∃ e, i = .event e ∧ e.Wakes T r)
      ∨ r.IsPassedOn := by
  rcases s with ⟨s, q⟩
  cases i with
  | event e => exact (apply_wakes now).imp_right fun wakes => Or.inl ⟨e, rfl, wakes⟩
  | turn =>
    cases q with
    | nil => exact Or.inl now
    | cons t rest => exact (take_wakes now).imp_right Or.inr

/-- Only its cancellation cancels a task. -/
theorem not_cancelled {T : String} (before : s.state.tasks.lookup T ≠ some (.ready .cancelled))
    (other : i ≠ .event (.cancel T)) :
    (s.advance i).state.tasks.lookup T ≠ some (.ready .cancelled) := by
  intro now
  rcases advance_wakes now with h | ⟨e, rfl, wakes⟩ | passed
  · exact before h
  · cases wakes
    exact other rfl
  · cases passed

/-- A fetch gets an answer to read by an event. -/
theorem advance_answered {f : Nat} {p : Paging} {a : Answer}
    (now : (s.advance i).state.cache.stage? f = some (.answered p a)) :
    s.state.cache.stage? f = some (.answered p a) ∨ ∃ index, i = .event (.respond index a) := by
  rcases s with ⟨s, q⟩
  cases i with
  | event e =>
    refine (apply_answered now).imp_right ?_
    rintro ⟨index, rfl⟩
    exact ⟨index, rfl⟩
  | turn =>
    cases q with
    | nil => exact Or.inl now
    | cons t rest => exact Or.inl (take_answered now)

/-- A fetch ends as the last answer says that it has read. -/
theorem Move.outcome_read (move : Move s s') {f : Nat} {r : Except Failure (List Login)}
    (now : s'.state.cache.outcome? f = some r) :
    s.state.cache.outcome? f = some r
      ∨ ∃ p a, s.state.cache.stage? f = some (.answered p a)
        ∧ p.advance s.state.client.config.pageSize a = r.map .complete := by
  have hset {g : Nat} {before after : FetchStage} (stands : s.state.cache.stage? g = some before)
      (unfinished : ∀ r, before ≠ .finished r) (goes : ∀ r, after ≠ .finished r)
      (now : (s.state.cache.setStage g after).outcome? f = some r) :
      s.state.cache.outcome? f = some r :=
    (Cache.outcome?_setStage f (Cache.isRunning_of_stage stands unfinished) goes).symm.trans now
  cases move with
  | quiet same => exact Or.inl ((same.outcome? f).symm.trans now)
  | spawned _ | overtaken _ | cancelled _ | answered _ _ | unheard _ _ _ | idle _ | told _
  | released _ => exact Or.inl now
  | settled => exact Or.inl ((Cache.reads_settle _ _ f).2.1.symm.trans now)
  | pageAnswered _ asking => exact Or.inl (hset asking (by simp) (by simp) now)
  | opened begun => exact Or.inl (hset begun (by simp) (by simp) now)
  | turned read _ => exact Or.inl (hset read (by simp) (by simp) now)
  | task ready turn =>
    -- in its turn a task begins a fetch at most
    have hnow := Cache.outcome?_eq_some_iff.mp now
    refine Or.inl (Cache.outcome?_eq_some_iff.mpr ?_)
    cases fetchMove_of_turn turn _ f with
    | kept same => exact same.symm.trans hnow
    | begun _ _ begun _ => simp [begun] at hnow
    | opened _ asking _ _ => simp [asking] at hnow
    | answered _ answered _ => simp [answered] at hnow
    | turned _ asking _ _ => simp [asking] at hnow
    | ended _ _ head => simp at head
  | @ended s mid g p a r' started q read last spawns =>
    have hlt : g < mid.cache.fetches.length := by
      rw [spawns.fetches]
      exact Cache.lt_of_stage read
    have hnow := now
    simp only [Cache.outcome?_finish f r' hlt] at hnow
    split at hnow
    · rename_i hf
      subst hf
      obtain rfl : r' = r := Option.some.inj hnow
      exact Or.inr ⟨p, a, read, last⟩
    · exact Or.inl ((Cache.reads_congr spawns.fetches f).2.1.symm.trans hnow)

/-- While only ordinary answers are given, only ordinary ones are read. -/
theorem advance_ordinary (ordinary : s.state.IsOrdinary) (given : i.IsOrdinary) :
    (s.advance i).state.IsOrdinary where
  tasks := by
    intro T e a now
    rcases advance_wakes now with before | ⟨_, rfl, ⟨⟩⟩ | passed
    · exact ordinary.tasks T e a before
    · exact given
    · cases passed
  fetches := by
    intro f p a now
    rcases advance_answered now with before | ⟨index, rfl⟩
    · exact ordinary.fetches f p a before
    · exact given
  outcomes := by
    intro f r now
    rcases (s.advance_move i).outcome_read now with before | ⟨p, a, read, last⟩
    · exact ordinary.outcomes f r before
    · have hprogress : Reportable (p.advance s.state.client.config.pageSize a) :=
        ((ordinary.fetches f p a read).result _ _).map _
      rw [last] at hprogress
      cases r with
      | ok rows => exact .value rows
      | error failure =>
        obtain ⟨e, rfl⟩ := hprogress.exists_store
        exact .failure e

theorem run_ordinary (ordinary : s.state.IsOrdinary) {inputs : List Input}
    (given : ∀ i ∈ inputs, i.IsOrdinary) : (s.run inputs).state.IsOrdinary := by
  induction inputs generalizing s with
  | nil => exact ordinary
  | cons i rest ih =>
    exact ih (advance_ordinary ordinary (given i List.mem_cons_self))
      fun j mem => given j (List.mem_cons_of_mem i mem)

/-- Against ordinary answers, all that is read in a session is ordinary. -/
theorem reached_ordinary (client : Client) {inputs : List Input}
    (given : ∀ i ∈ inputs, i.IsOrdinary) : (reached client inputs).state.IsOrdinary := by
  refine run_ordinary ⟨?_, ?_, ?_⟩ given
  · exact fun T e a h => nomatch h
  · exact fun f p a h => nomatch h
  · exact fun f r h => nomatch h

end Session

end LoginVault
