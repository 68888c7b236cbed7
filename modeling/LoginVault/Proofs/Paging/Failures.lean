import LoginVault.Script

/-!
# Paging.Failures — how an operation on the store can fail

An answer is ordinary if it is a response or a fault of the request itself; a foreign fault is
none of its own. Against ordinary answers every operation gives a value or a failure of the store
(`Reportable`), of which a front end can tell.
-/

namespace LoginVault

/-- Whether an answer is a response, or a fault of the request itself. -/
def Answer.IsOrdinary (a : Answer) : Prop :=
  ∀ kind message, a ≠ .fault (.foreign kind message)

/-- Whether all answers to come are ordinary. -/
def Script.IsOrdinary (s : Script) : Prop := ∀ a ∈ s.answers, a.IsOrdinary

/-- A result of which a front end can tell: a value, or a failure of the store. -/
inductive Reportable {α : Type} : Except Failure α → Prop
  | value (a : α) : Reportable (.ok a)
  | failure (e : StoreError) : Reportable (.error (.store e))

namespace Reportable

variable {α β : Type}

theorem map {r : Except Failure α} (h : Reportable r) (f : α → β) : Reportable (r.map f) := by
  cases h with
  | value a => exact .value (f a)
  | failure e => exact .failure e

/-- What fails and can be told of is a failure of the store. -/
theorem exists_store {f : Failure} (h : Reportable (.error f : Except Failure α)) :
    ∃ e, f = .store e := by
  cases h with
  | failure e => exact ⟨e, rfl⟩

/-- What is wrong with a response is a failure of the store. -/
theorem ofRead (r : Except ProtocolFault α) :
    Reportable (r.mapError fun f => .store (.protocol f)) := by
  cases r with
  | ok a => exact .value a
  | error f => exact .failure _

end Reportable

/-- An ordinary answer gives what it is read for, or fails as the store does. -/
theorem Answer.IsOrdinary.result {α : Type} {a : Answer} (ordinary : a.IsOrdinary) (q : Query)
    (read : Response → Except ProtocolFault α) : Reportable (a.result q read) := by
  cases a with
  | response r => exact .ofRead (read r)
  | fault cause =>
    cases cause with
    | foreign kind message => exact absurd rfl (ordinary kind message)
    | timedOut stage message => exact .failure _
    | network fault message => exact .failure _

namespace Script

variable {c : Client} {s : Script}

/-- A request past the end of the script fails to connect, which is ordinary. -/
theorem exhausted_isOrdinary : (Answer.fault exhausted).IsOrdinary := by
  intro kind message h
  cases h

theorem IsOrdinary.head (ordinary : s.IsOrdinary) :
    (s.answers.headD (.fault exhausted)).IsOrdinary := by
  cases h : s.answers with
  | nil => exact exhausted_isOrdinary
  | cons a rest => exact ordinary a (by simp [h])

theorem collectFrom_reportable {answers : List Answer} (ordinary : ∀ a ∈ answers, a.IsOrdinary)
    (p : Paging) (sent : List Request) : Reportable (collectFrom c p sent answers).1 := by
  induction answers generalizing p sent with
  | nil => exact .failure _
  | cons a rest ih =>
    have hprogress : Reportable (p.advance c.config.pageSize a) :=
      ((ordinary a List.mem_cons_self).result _ _).map _
    cases hadvance : p.advance c.config.pageSize a with
    | error f =>
      rw [hadvance] at hprogress
      cases hprogress
      simp only [collectFrom, hadvance]
      exact .failure _
    | ok progress =>
      cases progress with
      | complete logins =>
        simp only [collectFrom, hadvance]
        exact .value logins
      | more next =>
        simp only [collectFrom, hadvance]
        exact ih (fun b hb => ordinary b (List.mem_cons_of_mem _ hb)) next _

theorem IsOrdinary.list (ordinary : s.IsOrdinary) (search : Option String) :
    Reportable (s.list c search).1 :=
  collectFrom_reportable ordinary _ _

theorem IsOrdinary.find (ordinary : s.IsOrdinary) (search : String) :
    Reportable (s.find c search).1 :=
  ordinary.list _

theorem IsOrdinary.create (ordinary : s.IsOrdinary) (record : NewLogin) :
    Reportable (s.create c record).1 :=
  ordinary.head.result _ _

end Script

end LoginVault
