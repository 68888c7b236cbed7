import LoginVault.Proofs.Session.Order
import Mathlib.Data.List.Perm.Basic

/-!
# Session.Requests — every request is waited for

Whoever waits for an answer, a task or a fetch, has one request pending, and nobody else has any
(`reached_accounts`). So no answer goes unheard, and a task that waits for a fetch has nothing
pending of its own.
-/

namespace LoginVault

namespace State

/-- How many requests of this owner are pending. -/
def requestsOf (s : State) (o : Owner) : Nat := s.pending.countP (ownedBy o)

/-- Whether the owner has one request pending if it waits for an answer, and none otherwise. -/
def Accounts (s : State) (o : Owner) : Prop :=
  (s.Awaits o ∧ s.requestsOf o = 1) ∨ (¬ s.Awaits o ∧ s.requestsOf o = 0)

variable {s s' : State} {o : Owner}

theorem Accounts.awaits (h : s.Accounts o) (some : 0 < s.requestsOf o) : s.Awaits o := by
  rcases h with ⟨awaits, -⟩ | ⟨-, none⟩
  · exact awaits
  · omega

theorem requestsOf_pos {q : Query} (mem : (o, q) ∈ s.pending) : 0 < s.requestsOf o :=
  List.countP_pos_iff.mpr ⟨(o, q), mem, by simp [ownedBy]⟩

/-- Whoever has a request pending waits for its answer. -/
theorem Accounts.of_mem (h : s.Accounts o) {q : Query} (mem : (o, q) ∈ s.pending) : s.Awaits o :=
  h.awaits (requestsOf_pos mem)

/-- Who waits as before and has as many requests as before is accounted for as before. -/
theorem Accounts.congr (h : s.Accounts o) (awaits : s'.Awaits o ↔ s.Awaits o)
    (requests : s'.requestsOf o = s.requestsOf o) : s'.Accounts o := by
  rcases h with ⟨ha, hr⟩ | ⟨ha, hr⟩
  · exact Or.inl ⟨awaits.mpr ha, requests.trans hr⟩
  · exact Or.inr ⟨fun now => ha (awaits.mp now), requests.trans hr⟩

/-! ## How the count changes -/

/-- A request that is sent counts for its owner. -/
theorem countP_sent (xs : List (Owner × Query)) (o o' : Owner) (q : Query) :
    (xs ++ [(o', q)]).countP (ownedBy o)
      = if o = o' then xs.countP (ownedBy o) + 1 else xs.countP (ownedBy o) := by
  rw [List.countP_append, List.countP_singleton]
  by_cases ho : o = o'
  · simp [ownedBy, ho]
  · simp [ownedBy, ho, Ne.symm ho]

/-- A request that is taken away no longer counts for its owner. -/
theorem countP_taken {xs : List (Owner × Query)} {i : Nat} {o' : Owner} {q : Query}
    (request : xs[i]? = some (o', q)) (o : Owner) :
    (xs.eraseIdx i).countP (ownedBy o)
      = if o = o' then xs.countP (ownedBy o) - 1 else xs.countP (ownedBy o) := by
  rcases List.getElem?_eq_some_iff.mp request with ⟨hlt, hi⟩
  have hperm := (List.getElem_cons_eraseIdx_perm hlt).countP_eq (ownedBy o)
  rw [hi, List.countP_cons] at hperm
  by_cases ho : o = o'
  · subst ho
    simp only [ownedBy, decide_true, if_true] at hperm ⊢
    omega
  · have hother : ownedBy o (o', q) = false := by simp [ownedBy, Ne.symm ho]
    rw [hother] at hperm
    simp only [Bool.false_eq_true, if_false, Nat.add_zero] at hperm
    rw [if_neg ho, hperm]

/-- When a task is cancelled, its requests are withdrawn and no others. -/
theorem countP_withdrawn (xs : List (Owner × Query)) (o o' : Owner) :
    (xs.filter (!ownedBy o' ·)).countP (ownedBy o)
      = if o = o' then 0 else xs.countP (ownedBy o) := by
  rw [List.countP_filter]
  by_cases ho : o = o'
  · subst ho
    simp
  · rw [if_neg ho]
    refine List.countP_congr fun x _ => ?_
    simp only [ownedBy, Bool.and_eq_true, decide_eq_true_eq, Bool.not_eq_true', decide_eq_false_iff_not]
    constructor
    · exact And.left
    · rintro rfl
      exact ⟨rfl, ho⟩

/-! ## Who waits for an answer -/

theorem awaits_task_congr {T : String} (same : s'.tasks.lookup T = s.tasks.lookup T) :
    s'.Awaits (.task T) ↔ s.Awaits (.task T) := by
  simp only [Awaits, same]

theorem awaits_fetch_congr {f : Nat} (same : s'.cache.stage? f = s.cache.stage? f) :
    s'.Awaits (.fetch f) ↔ s.Awaits (.fetch f) := by
  simp only [Awaits, same]

theorem not_awaits_of_ready {T : String} {r : Resumption}
    (ready : s.tasks.lookup T = some (.ready r)) : ¬ s.Awaits (.task T) := by
  rintro ⟨e, he⟩
  simp [ready] at he

theorem not_awaits_of_stage {f : Nat} {stage : FetchStage}
    (stands : s.cache.stage? f = some stage) (other : ∀ p, stage ≠ .asking p) :
    ¬ s.Awaits (.fetch f) := by
  rintro ⟨p, hp⟩
  exact other p (Option.some.inj (stands.symm.trans hp))

/-- A task that waits for no answer may be put into another such state without anybody's coming
to wait for one. -/
theorem awaits_setTask {T : String} {t : Task} (before : ¬ s.Awaits (.task T))
    (now : ∀ e, t ≠ .waiting (.answer e)) (o : Owner) :
    (s.setTask T t).Awaits o ↔ s.Awaits o := by
  cases o with
  | fetch f => exact awaits_fetch_congr rfl
  | task U =>
    by_cases hU : U = T
    · subst hU
      refine ⟨fun h => ?_, fun h => absurd h before⟩
      rcases h with ⟨e, he⟩
      exact absurd (by simpa using he) (now e)
    · exact awaits_task_congr (by simp [hU])

/-- What is done to one task leaves all other owners alone. -/
theorem awaits_setTask_of_ne {T : String} (t : Task) {o : Owner} (ho : o ≠ .task T) :
    (s.setTask T t).Awaits o ↔ s.Awaits o := by
  cases o with
  | fetch f => exact awaits_fetch_congr rfl
  | task U =>
    have hU : U ≠ T := fun h => ho (h ▸ rfl)
    exact awaits_task_congr (by simp [hU])

/-- What is done to one fetch leaves all other owners alone. -/
theorem awaits_of_setStage {f : Nat} {stage : FetchStage} {o : Owner} (ho : o ≠ .fetch f)
    (cache : s'.cache = s.cache.setStage f stage) (tasks : s'.tasks = s.tasks) :
    s'.Awaits o ↔ s.Awaits o := by
  cases o with
  | task T => exact awaits_task_congr (congrArg (List.lookup T) tasks)
  | fetch g =>
    have hg : g ≠ f := fun h => ho (h ▸ rfl)
    refine awaits_fetch_congr ?_
    rw [cache, Cache.stage?_setStage, if_neg hg]

/-- Who agrees on the work agrees on who waits. -/
theorem SameWork.awaits (same : SameWork s s') (o : Owner) : s'.Awaits o ↔ s.Awaits o := by
  cases o with
  | task T => exact awaits_task_congr (congrArg (List.lookup T) same.tasks)
  | fetch f => exact awaits_fetch_congr (same.stage? f)

theorem SameWork.requestsOf (same : SameWork s s') (o : Owner) :
    s'.requestsOf o = s.requestsOf o :=
  congrArg (List.countP (ownedBy o)) same.pending

/-! ## What a move does to the requests of one owner -/

/-- All that a move can do to the requests of an owner: it leaves them, sends one on behalf of an
owner that waited for none, or takes one away from an owner that then waits for none. -/
inductive RequestMove (s s' : State) (o : Owner) : Prop
  | kept (awaits : s'.Awaits o ↔ s.Awaits o) (requests : s'.requestsOf o = s.requestsOf o)
  | sent (before : ¬ s.Awaits o) (now : s'.Awaits o)
      (requests : s'.requestsOf o = s.requestsOf o + 1)
  | gone (now : ¬ s'.Awaits o) (requests : s'.requestsOf o ≤ s.requestsOf o - 1)

/-- A request is sent for `o'`, which then waits for its answer. -/
theorem RequestMove.ofSent (o' : Owner) {q : Query} (pending : s'.pending = s.pending ++ [(o', q)])
    (before : ¬ s.Awaits o') (now : s'.Awaits o')
    (others : ∀ o, o ≠ o' → (s'.Awaits o ↔ s.Awaits o)) : RequestMove s s' o := by
  have hcount := countP_sent s.pending o o' q
  rw [← pending] at hcount
  by_cases ho : o = o'
  · subst ho
    rw [if_pos rfl] at hcount
    exact .sent before now hcount
  · rw [if_neg ho] at hcount
    exact .kept (others o ho) hcount

/-- A request is taken away from `o'`, which then waits for no answer. -/
theorem RequestMove.ofTaken {o' : Owner} {q : Query} {index : Nat}
    (request : s.pending[index]? = some (o', q))
    (pending : s'.pending = s.pending.eraseIdx index) (now : ¬ s'.Awaits o')
    (others : ∀ o, o ≠ o' → (s'.Awaits o ↔ s.Awaits o)) : RequestMove s s' o := by
  have hcount := countP_taken request o
  rw [← pending] at hcount
  by_cases ho : o = o'
  · subst ho
    rw [if_pos rfl] at hcount
    exact .gone now (Nat.le_of_eq hcount)
  · rw [if_neg ho] at hcount
    exact .kept (others o ho) hcount

/-- A fetch asks for a page. -/
theorem askPage_requestMove {f : Nat} {stage : FetchStage} (p : Paging)
    (stands : s.cache.stage? f = some stage) (other : ∀ p, stage ≠ .asking p) (o : Owner) :
    RequestMove s (s.askPage f p) o := by
  refine .ofSent (.fetch f) rfl (not_awaits_of_stage stands other) ⟨p, ?_⟩
    (fun o ho => awaits_of_setStage ho rfl rfl)
  show (s.cache.setStage f (.asking p)).stage? f = some (.asking p)
  rw [Cache.stage?_setStage, if_pos rfl, stands]
  rfl

/-- A task takes its turn: one request is sent on behalf of the task at most. -/
theorem TaskTurn.requestMove {T : String} {r : Resumption} {x : State × Option Nat}
    (ready : s.tasks.lookup T = some (.ready r)) (turn : TaskTurn s T r x) (o : Owner) :
    RequestMove s x.1 o := by
  have hbefore := not_awaits_of_ready ready
  have hmid {mid : State} (same : SameWork s mid) : ¬ mid.Awaits (.task T) := fun h =>
    hbefore ((same.awaits _).mp h)
  cases turn with
  | early _ _ => exact .kept Iff.rfl rfl
  | finished same _ =>
    exact .kept ((awaits_setTask (hmid same) (by simp) o).trans (same.awaits o))
      (same.requestsOf o)
  | @enlisted mid f w same why _ =>
    have hnow : ∀ e, Task.waiting w ≠ .waiting (.answer e) := by
      rcases why with ⟨p, rfl, -⟩ | ⟨p, rfl, -⟩ <;> simp
    refine .kept ((awaits_setTask ?_ hnow o).trans ?_) (same.requestsOf o)
    · exact fun h => hmid same h
    · cases o with
      | task U => exact same.awaits (.task U)
      | fetch g =>
        exact awaits_fetch_congr ((Cache.stage?_addWaiting _ _ _ _).trans (same.stage? g))
  | @asked mid e same _ =>
    refine .ofSent (.task T) (q := e.query mid.client.config.pageSize) ?_ hbefore
      ⟨e, by simp⟩ (fun o ho => ?_)
    · exact congrArg (· ++ [(Owner.task T, e.query mid.client.config.pageSize)]) same.pending
    · exact (awaits_setTask_of_ne _ ho).trans (same.awaits o)
  | @began mid p same _ _ =>
    refine .kept ((awaits_setTask ?_ (by simp) o).trans ?_) (same.requestsOf o)
    · exact fun h => hmid same h
    · cases o with
      | task U => exact same.awaits (.task U)
      | fetch f =>
        -- the fetch that begins has asked nothing yet
        have hstage := (Cache.stage?_addWaiting mid.cache.beginFetch mid.cache.fetches.length f
          T).trans (Cache.stage?_beginFetch mid.cache f)
        by_cases hf : f = mid.cache.fetches.length
        · rw [if_pos hf] at hstage
          refine ⟨fun h => absurd h (not_awaits_of_stage hstage (by simp)), fun h => ?_⟩
          rcases h with ⟨p', hp⟩
          have hlt := Cache.lt_of_stage hp
          rw [hf, same.fetches] at hlt
          exact absurd hlt (Nat.lt_irrefl _)
        · rw [if_neg hf] at hstage
          exact awaits_fetch_congr (hstage.trans (same.stage? f))

end State

namespace Session

open State

variable {s s' : Session}

/-- Every move does one of these things to the requests of every owner. -/
theorem Move.request_move (move : Move s s') (o : Owner) : RequestMove s.state s'.state o := by
  have hready {s : State} {T : String} {t : Task} (stands : s.tasks.lookup T = some t)
      (other : ∀ e, t ≠ .waiting (.answer e)) : ¬ s.Awaits (.task T) := by
    rintro ⟨e, he⟩
    exact other e (Option.some.inj (stands.symm.trans he))
  cases move with
  | quiet same => exact .kept (same.awaits o) (same.requestsOf o)
  | idle _ => exact .kept Iff.rfl rfl
  | overtaken ready => exact .kept (awaits_setTask (hready ready (by simp)) (by simp) o) rfl
  | told waiting => exact .kept (awaits_setTask (hready waiting (by simp)) (by simp) o) rfl
  | released waiting => exact .kept (awaits_setTask (hready waiting (by simp)) (by simp) o) rfl
  | spawned new =>
    refine .kept (awaits_setTask ?_ (by simp) o) rfl
    rintro ⟨e, he⟩
    simp [new] at he
  | @settled s f q =>
    refine .kept ?_ rfl
    cases o with
    | task T => exact awaits_task_congr rfl
    | fetch g => exact awaits_fetch_congr (Cache.reads_settle s.cache f g).1
  | @cancelled s q T w waiting =>
    have hcount := countP_withdrawn s.pending o (.task T)
    by_cases ho : o = .task T
    · subst ho
      rw [if_pos rfl] at hcount
      exact .gone (hready (t := .ready .cancelled) (by simp) (by simp))
        (Nat.le_trans (Nat.le_of_eq hcount) (Nat.zero_le _))
    · rw [if_neg ho] at hcount
      exact .kept (awaits_setTask_of_ne _ ho) hcount
  | @answered s q T e a index query request waiting =>
    exact .ofTaken request rfl (hready (t := .ready (.answered e a)) (by simp) (by simp))
      (fun o ho => awaits_setTask_of_ne _ ho)
  | @pageAnswered s q f p a index query request asking =>
    refine .ofTaken request rfl ?_ (fun o ho => awaits_of_setStage ho rfl rfl)
    have hnow : (s.cache.setStage f (.answered p a)).stage? f = some (.answered p a) := by
      rw [Cache.stage?_setStage, if_pos rfl, asking]
      rfl
    exact not_awaits_of_stage hnow (by simp)
  | @unheard s q o' index query request notTask notFetch =>
    refine .ofTaken request rfl ?_ (fun o _ => Iff.rfl)
    cases o' with
    | task T => exact fun ⟨e, he⟩ => notTask T rfl e he
    | fetch f => exact fun ⟨p, hp⟩ => notFetch f rfl p hp
  | task ready turn => exact turn.requestMove ready o
  | opened begun => exact askPage_requestMove _ begun (by simp) o
  | turned read _ => exact askPage_requestMove _ read (by simp) o
  | @ended s mid f p a r started q read last spawns =>
    refine .kept ?_ (congrArg (List.countP (ownedBy o)) spawns.pending)
    cases o with
    | task T =>
      by_cases hT : T ∈ started
      · -- a task that a follower starts has asked nothing yet
        rcases spawns.started T hT with ⟨hnew, c, hc⟩
        refine ⟨fun h => absurd h (hready (t := .ready (.begin c)) hc (by simp)), ?_⟩
        rintro ⟨e, he⟩
        cases hnew.symm.trans he
      · exact awaits_task_congr (spawns.others T hT)
    | fetch g =>
      -- the fetch that ends no longer asked for anything
      have hbefore := not_awaits_of_stage read (by simp)
      rcases stage?_setStage_cases spawns.fetches read g with ⟨-, hkept⟩ | ⟨rfl, hset⟩
      · exact awaits_fetch_congr hkept
      · exact ⟨fun h => absurd h (not_awaits_of_stage hset (by simp)), fun h => absurd h hbefore⟩

/-! ## Every request is waited for -/

/-- Every move keeps everyone accounted for. -/
theorem Move.accounts (move : Move s s') {o : Owner} (acc : s.state.Accounts o) :
    s'.state.Accounts o := by
  cases move.request_move o with
  | kept awaits requests => exact acc.congr awaits requests
  | sent before now requests =>
    rcases acc with ⟨awaits, -⟩ | ⟨-, none⟩
    · exact absurd awaits before
    · exact Or.inl ⟨now, by omega⟩
  | gone now requests =>
    refine Or.inr ⟨now, ?_⟩
    rcases acc with ⟨-, one⟩ | ⟨-, none⟩ <;> omega

/-- In every reachable session whoever waits for an answer has one request pending, and nobody
else has any. -/
theorem reached_accounts (client : Client) (inputs : List Input) (o : Owner) :
    (reached client inputs).state.Accounts o := by
  refine run_keeps_of_moves (P := fun s => s.state.Accounts o)
    (fun move acc => move.accounts acc) ?_ inputs
  refine Or.inr ⟨?_, rfl⟩
  cases o with
  | task T => rintro ⟨e, he⟩; cases he
  | fetch f => rintro ⟨p, hp⟩; cases hp

end Session

end LoginVault
