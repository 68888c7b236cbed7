import LoginVault.Proofs.Session.Order

/-!
# Session.Callers — from a call to its end

A task calls for a snapshot when it takes a turn of the kind `State.Calls`; no other turn makes it
wait for a fetch, but the one of a caller that is released from an old fetch. From then on its
outcome is that of one fetch. `Follows` says how far a caller is that waits for the fetch whose
outcome it gets, `Pursues` how far one is that may first wait for an older fetch. Both last
through every move, whatever else happens; a caller leaves them only by being cancelled.
-/

namespace LoginVault

open State

/-! ## What may become of a task -/

namespace Session.TaskMove

variable {s s' : Session} {T : String}

/-- A task that is finished stays so. -/
theorem of_finished {o : Outcome} (move : TaskMove s s' T)
    (h : s.state.tasks.lookup T = some (.finished o)) :
    s'.state.tasks.lookup T = some (.finished o) := by
  cases move with
  | kept same => exact same.trans h
  | _ => simp_all

/-- A task that waits for the outcome of a fetch is told of it, unless it is cancelled. -/
theorem of_fetch {f : Nat} {p : Purpose} (move : TaskMove s s' T)
    (h : s.state.tasks.lookup T = some (.waiting (.fetch f p))) :
    s'.state.tasks.lookup T = some (.waiting (.fetch f p))
      ∨ s'.state.tasks.lookup T = some (.ready .cancelled)
      ∨ s'.state.tasks.lookup T = some (.ready (.fetchEnded f p)) := by
  cases move with
  | kept same => exact Or.inl (same.trans h)
  | cancelled _ now _ => exact Or.inr (Or.inl now)
  | told waiting _ now _ =>
    obtain ⟨rfl, rfl⟩ : _ = f ∧ _ = p := by simpa using waiting.symm.trans h
    exact Or.inr (Or.inr now)
  | _ => simp_all

/-- A task that waits for an old fetch is released after its end, unless it is cancelled. -/
theorem of_superseded {f : Nat} {p : Purpose} (move : TaskMove s s' T)
    (h : s.state.tasks.lookup T = some (.waiting (.superseded f p))) :
    s'.state.tasks.lookup T = some (.waiting (.superseded f p))
      ∨ s'.state.tasks.lookup T = some (.ready .cancelled)
      ∨ (.relay f T ∈ s.queue ∧ s'.state.cache = s.state.cache
        ∧ s'.state.tasks.lookup T = some (.ready (.supersededEnded p))) := by
  cases move with
  | kept same => exact Or.inl (same.trans h)
  | cancelled _ now _ => exact Or.inr (Or.inl now)
  | released waiting relay now _ cache =>
    obtain ⟨rfl, rfl⟩ : _ = f ∧ _ = p := by simpa using waiting.symm.trans h
    exact Or.inr (Or.inr ⟨relay, cache, now⟩)
  | _ => simp_all

/-- A task whose turn is coming keeps it, is cancelled, or takes it: then it finishes or joins a
fetch as what it found allows, or goes on with work of its own. -/
theorem of_ready {r : Resumption} (move : TaskMove s s' T)
    (h : s.state.tasks.lookup T = some (.ready r)) :
    s'.state.tasks.lookup T = some (.ready r)
      ∨ s'.state.tasks.lookup T = some (.ready .cancelled)
      ∨ (∃ o, r.Finishes s.state.cache o ∧ s'.state.tasks.lookup T = some (.finished o))
      ∨ (∃ p, r.Joins p ∧ s'.state.tasks.lookup T = some (.waiting (.fetch s.state.cache.joined p)))
      ∨ r.IsOwn := by
  have hsame {r' : Resumption} (ready : s.state.tasks.lookup T = some (.ready r')) : r' = r := by
    simpa using ready.symm.trans h
  cases move with
  | kept same => exact Or.inl (same.trans h)
  | overtaken _ now _ => exact Or.inr (Or.inl now)
  | finished ready why now => exact Or.inr (Or.inr (Or.inl ⟨_, hsame ready ▸ why, now⟩))
  | joined ready why now _ _ =>
    exact Or.inr (Or.inr (Or.inr (Or.inl ⟨_, hsame ready ▸ why, now⟩)))
  | asked ready why _ _ => exact Or.inr (Or.inr (Or.inr (Or.inr (hsame ready ▸ why))))
  | superseded ready why _ _ _ _ => exact Or.inr (Or.inr (Or.inr (Or.inr (hsame ready ▸ why))))
  | _ => simp_all

/-- A task that was told of the outcome of a fetch finishes with it, unless it is cancelled. -/
theorem of_fetchEnded {f : Nat} {p : Purpose} (move : TaskMove s s' T)
    (h : s.state.tasks.lookup T = some (.ready (.fetchEnded f p))) :
    s'.state.tasks.lookup T = some (.ready (.fetchEnded f p))
      ∨ s'.state.tasks.lookup T = some (.ready .cancelled)
      ∨ ∃ r o, s.state.cache.outcome? f = some r ∧ p.Ends r o
        ∧ s'.state.tasks.lookup T = some (.finished o) := by
  rcases move.of_ready h with now | now | ⟨o, ⟨r, hr, hends⟩, now⟩ | ⟨q, hq, -⟩ | own
  · exact Or.inl now
  · exact Or.inr (Or.inl now)
  · exact Or.inr (Or.inr ⟨r, o, hr, hends, now⟩)
  · exact hq.elim
  · exact own.elim

/-- A task that was cancelled finishes so. -/
theorem of_cancelled (move : TaskMove s s' T)
    (h : s.state.tasks.lookup T = some (.ready .cancelled)) :
    s'.state.tasks.lookup T = some (.ready .cancelled)
      ∨ s'.state.tasks.lookup T = some (.finished .cancelled) := by
  rcases move.of_ready h with now | now | ⟨o, rfl, now⟩ | ⟨q, hq, -⟩ | own
  · exact Or.inl now
  · exact Or.inl now
  · exact Or.inr now
  · exact hq.elim
  · exact own.elim

/-- A task that was released gets the fetch that callers get now, unless it is cancelled. -/
theorem of_supersededEnded {p : Purpose} (move : TaskMove s s' T)
    (h : s.state.tasks.lookup T = some (.ready (.supersededEnded p))) :
    s'.state.tasks.lookup T = some (.ready (.supersededEnded p))
      ∨ s'.state.tasks.lookup T = some (.ready .cancelled)
      ∨ s'.state.tasks.lookup T = some (.waiting (.fetch s.state.cache.joined p)) := by
  rcases move.of_ready h with now | now | ⟨o, ho, -⟩ | ⟨q, rfl, now⟩ | own
  · exact Or.inl now
  · exact Or.inr (Or.inl now)
  · exact ho.elim
  · exact Or.inr (Or.inr now)
  · exact own.elim

end Session.TaskMove

/-! ## Calls -/

namespace State

/-- Whether the task calls for a snapshot in its turn, whether for a fresh one, and for what: it
was started to revalidate, to refresh a view or to mount one that is not mounted, or it has read
that the login of a form was created. -/
inductive Calls (s : State) (T : String) : Bool → Purpose → Prop
  | revalidate {fresh : Bool}
      (ready : s.tasks.lookup T = some (.ready (.begin (.revalidate fresh)))) :
      Calls s T fresh .outcome
  | refresh {view : String} (ready : s.tasks.lookup T = some (.ready (.begin (.refresh view)))) :
      Calls s T false .outcome
  | mount {view : String} (ready : s.tasks.lookup T = some (.ready (.begin (.mount view))))
      (unmounted : s.isMounted view = false) : Calls s T false (.mounting view)
  | visit {view : String} {fails : Bool}
      (ready : s.tasks.lookup T = some (.ready (.begin (.visit view fails))))
      (unmounted : s.isMounted view = false) : Calls s T false (.visiting view fails)
  | created {view : String} {record : NewLogin} {a : Answer} {login : Login}
      (ready : s.tasks.lookup T = some (.ready (.answered (.submit view record) a)))
      (read : a.result (.create record) Response.created = .ok login)
      (closed : (s.changeForm view fun _ => .closed).2 = none) :
      Calls s T true (.saved view login)

/-- A task that calls for a snapshot does so after it has changed views at most. -/
theorem Calls.resume {s : State} {T : String} {fresh : Bool} {p : Purpose}
    (calls : s.Calls T fresh p) :
    ∃ mid, SameWork s mid ∧ s.resume T = mid.revalidate T fresh p := by
  cases calls with
  | revalidate ready => exact ⟨s, .refl s, by simp [State.resume, ready, State.begin]⟩
  | refresh ready => exact ⟨s, .refl s, by simp [State.resume, ready, State.begin]⟩
  | @mount view ready unmounted =>
    refine ⟨s.mount view, s.mount_sameWork view, ?_⟩
    simp [State.resume, ready, State.begin, beginMount, unmounted]
  | @visit view fails ready unmounted =>
    refine ⟨s.mount view, s.mount_sameWork view, ?_⟩
    simp [State.resume, ready, State.begin, beginMount, unmounted]
  | @created view record a login ready read closed =>
    have hsame := s.changeForm_sameWork view fun _ => .closed
    refine ⟨_, hsame, ?_⟩
    simp only [State.resume, ready, State.answered, read]
    cases hform : s.changeForm view fun _ => .closed with
    | mk mid fault =>
      rw [hform] at closed
      obtain rfl : fault = none := closed
      rfl

/-! ## Who comes to wait for a fetch -/

/-- Whether the task waits for the end of no fetch. -/
def Unattached (s : State) (T : String) : Prop :=
  ∀ w f, s.tasks.lookup T = some (.waiting w) → w.fetch? ≠ some f

section Unattached

variable (s : State) (T : String)

theorem finish_unattached (o : Outcome) : (s.finish T o).Unattached T := by
  intro w f h
  simp at h

theorem ask_unattached (e : Errand) : (s.ask T e).1.Unattached T := by
  intro w f h
  obtain rfl : Wait.answer e = w := by simpa using h
  simp [Wait.fetch?]

theorem conclude_unattached (v : Value) (x : State × Option Failure) :
    (conclude T v x).1.Unattached T := by
  rcases x with ⟨mid, fault⟩
  cases fault with
  | none => exact finish_unattached mid T _
  | some f => exact finish_unattached mid T _

theorem afterFetch_unattached (p : Purpose) : (s.afterFetch T p).1.Unattached T := by
  rcases s.afterFetch_spec T p with ⟨mid, o, heq, -, -⟩
  rw [heq]
  exact finish_unattached mid T o

theorem readPage_unattached (p : Paging) (a : Answer) (next : Paging → Errand)
    (finished : Except Failure (List Login) → Outcome) :
    (s.readPage T p a next finished).1.Unattached T := by
  unfold readPage
  split
  · exact ask_unattached s T _
  · exact finish_unattached s T _
  · exact finish_unattached s T _

theorem beginSubmit_unattached (view : String) (record : NewLogin) :
    (s.beginSubmit T view record).1.Unattached T := by
  unfold beginSubmit
  split
  · exact conclude_unattached T _ _
  · split
    · exact ask_unattached _ T _
    · exact finish_unattached _ T _

variable {s T}

/-- A task that starts comes to wait for a fetch only by a call. -/
theorem begin_calls_or_unattached {c : Call}
    (ready : s.tasks.lookup T = some (.ready (.begin c))) :
    (∃ fresh p, s.Calls T fresh p) ∨ (s.begin T c).1.Unattached T := by
  cases c with
  | revalidate fresh => exact Or.inl ⟨_, _, .revalidate ready⟩
  | refresh view => exact Or.inl ⟨_, _, .refresh ready⟩
  | mount view =>
    cases hmounted : s.isMounted view with
    | false => exact Or.inl ⟨_, _, .mount ready hmounted⟩
    | true =>
      refine Or.inr ?_
      simp only [State.begin, beginMount, hmounted, if_true]
      exact afterFetch_unattached s T _
  | visit view fails =>
    cases hmounted : s.isMounted view with
    | false => exact Or.inl ⟨_, _, .visit ready hmounted⟩
    | true =>
      refine Or.inr ?_
      simp only [State.begin, beginMount, hmounted, if_true]
      exact afterFetch_unattached s T _
  | list search => exact Or.inr (ask_unattached s T _)
  | create record =>
    cases record with
    | ok record => exact Or.inr (ask_unattached s T _)
    | error why => exact Or.inr (finish_unattached s T _)
  | submit view record =>
    cases record with
    | ok record => exact Or.inr (beginSubmit_unattached s T view record)
    | error why => exact Or.inr (finish_unattached s T _)
  | lookup address =>
    refine Or.inr ?_
    simp only [State.begin]
    split
    · exact finish_unattached s T _
    · split
      · exact finish_unattached s T _
      · exact ask_unattached s T _

/-- A task that reads an answer comes to wait for a fetch only if it saw its login created. -/
theorem answered_calls_or_unattached {e : Errand} {a : Answer}
    (ready : s.tasks.lookup T = some (.ready (.answered e a))) :
    (∃ fresh p, s.Calls T fresh p) ∨ (s.answered T e a).1.Unattached T := by
  cases e with
  | list p => exact Or.inr (readPage_unattached s T _ _ _ _)
  | lookup key p => exact Or.inr (readPage_unattached s T _ _ _ _)
  | create record =>
    refine Or.inr ?_
    simp only [State.answered]
    split
    · exact finish_unattached s T _
    · exact finish_unattached s T _
  | submit view record =>
    cases hread : a.result (.create record) Response.created with
    | ok login =>
      cases hform : s.changeForm view fun _ => .closed with
      | mk mid fault =>
        cases fault with
        | none => exact Or.inl ⟨_, _, .created ready hread (by rw [hform])⟩
        | some f =>
          -- the observer fails as the form is closed, and the task fails with it
          refine Or.inr ?_
          simp only [State.answered, hread, hform]
          exact finish_unattached mid T _
    | error f =>
      refine Or.inr ?_
      simp only [State.answered, hread]
      split
      · rename_i heq
        cases heq
      · exact conclude_unattached T _ _
      · exact finish_unattached s T _

/-- `Calls` misses no caller: whoever waits for a fetch after its turn called for a snapshot in
it, or was released from an old fetch. -/
theorem calls_or_unattached {r : Resumption} (ready : s.tasks.lookup T = some (.ready r)) :
    (∃ fresh p, s.Calls T fresh p) ∨ (∃ p, r = .supersededEnded p)
      ∨ (s.resume T).1.Unattached T := by
  cases r with
  | begin c =>
    have hresume : s.resume T = s.begin T c := by simp only [State.resume, ready]
    rw [hresume]
    exact (begin_calls_or_unattached ready).imp_right Or.inr
  | answered e a =>
    have hresume : s.resume T = s.answered T e a := by simp only [State.resume, ready]
    rw [hresume]
    exact (answered_calls_or_unattached ready).imp_right Or.inr
  | supersededEnded p => exact Or.inr (Or.inl ⟨p, rfl⟩)
  | cancelled =>
    refine Or.inr (Or.inr ?_)
    simp only [State.resume, ready]
    exact finish_unattached s T _
  | fetchEnded f p =>
    refine Or.inr (Or.inr ?_)
    simp only [State.resume, ready]
    split
    · rename_i outcome _
      rcases s.fetchEnded_spec T p outcome with ⟨mid, o, heq, -, -⟩
      rw [heq]
      exact finish_unattached mid T o
    · -- the fetch has not ended, and the turn leaves the task ready
      intro w g h
      simp [ready] at h

end Unattached

/-! ## Callers on their way -/

/-- How far a caller is whose outcome is that of the fetch `f`: it waits for the end of `f`, was
told of it, or is finished as `f` ended; or else it was cancelled. -/
inductive Follows (s : State) (T : String) (f : Nat) (p : Purpose) : Prop
  | waits (now : s.tasks.lookup T = some (.waiting (.fetch f p)))
  | told (now : s.tasks.lookup T = some (.ready (.fetchEnded f p)))
  | stopped (now : s.tasks.lookup T = some (.ready .cancelled))
  | cancelled (now : s.tasks.lookup T = some (.finished .cancelled))
  | ended {r : Except Failure (List Login)} {o : Outcome} (outcome : s.cache.outcome? f = some r)
      (ends : p.Ends r o) (now : s.tasks.lookup T = some (.finished o))

/-- How far a caller is whose outcome will be that of the fetch `n`: it may wait for the end of
the fetch before, or be released from it while `n` is the fetch that callers get. -/
inductive Pursues (s : State) (T : String) (n : Nat) (p : Purpose) : Prop
  | behind {f : Nat} (now : s.tasks.lookup T = some (.waiting (.superseded f p)))
      (next : f + 1 = n)
  | released (now : s.tasks.lookup T = some (.ready (.supersededEnded p)))
      (joined : s.cache.joined = n)
  | follows (h : s.Follows T n p)

/-- A caller that is finished was cancelled or ended as its fetch did. -/
theorem Follows.outcome {s : State} {T : String} {f : Nat} {p : Purpose} {o : Outcome}
    (h : s.Follows T f p) (finished : s.tasks.lookup T = some (.finished o)) :
    o = .cancelled ∨ ∃ r, s.cache.outcome? f = some r ∧ p.Ends r o := by
  cases h with
  | waits now => simp [now] at finished
  | told now => simp [now] at finished
  | stopped now => simp [now] at finished
  | cancelled now => exact Or.inl (by simpa using finished.symm.trans now)
  | ended outcome ends now =>
    obtain rfl : _ = o := by simpa using now.symm.trans finished
    exact Or.inr ⟨_, outcome, ends⟩

theorem Pursues.outcome {s : State} {T : String} {n : Nat} {p : Purpose} {o : Outcome}
    (h : s.Pursues T n p) (finished : s.tasks.lookup T = some (.finished o)) :
    o = .cancelled ∨ ∃ r, s.cache.outcome? n = some r ∧ p.Ends r o := by
  cases h with
  | behind now _ => simp [now] at finished
  | released now _ => simp [now] at finished
  | follows h => exact h.outcome finished

end State

namespace Session

variable {s s' : Session} {T : String}

/-- A caller stays on its way through every move. -/
theorem Inv.follows (inv : Inv s) (move : Move s s') {f : Nat} {p : Purpose}
    (h : s.state.Follows T f p) : s'.state.Follows T f p := by
  have hkept {r : Except Failure (List Login)} (hr : s.state.cache.outcome? f = some r) :
      s'.state.cache.outcome? f = some r := (inv.flight.ledger move).outcome?_kept hr
  have htask := move.task_move T
  cases h with
  | waits now =>
    rcases htask.of_fetch now with h | h | h
    · exact .waits h
    · exact .stopped h
    · exact .told h
  | told now =>
    rcases htask.of_fetchEnded now with h | h | ⟨r, o, hr, hends, h⟩
    · exact .told h
    · exact .stopped h
    · exact .ended (hkept hr) hends h
  | stopped now =>
    rcases htask.of_cancelled now with h | h
    · exact .stopped h
    · exact .cancelled h
  | cancelled now => exact .cancelled (htask.of_finished now)
  | ended outcome ends now => exact .ended (hkept outcome) ends (htask.of_finished now)

/-- No fetch ends while a released caller has its turn coming: the turn that reads the last page
would have to stand before the caller's, where it cannot stand. -/
theorem Inv.joined_of_released (inv : Inv s) (move : Move s s') {p : Purpose}
    (now : s.state.tasks.lookup T = some (.ready (.supersededEnded p))) :
    s'.state.cache.joined = s.state.cache.joined := by
  rcases inv.flight.joined_kept move with ⟨hjoined, -⟩ | ⟨f, r, hrunning, hr, -, -⟩
  · exact hjoined
  · -- the turn of the released caller stands behind the one that reads the last page
    rcases move.answered_of_outcome hrunning hr with ⟨-, hhead⟩
    have hturn := inv.live.turns T _ now
    have horder := inv.ordered.inOrder
    cases hqueue : s.queue with
    | nil => simp [hqueue] at hhead
    | cons t rest =>
      rw [hqueue] at hhead hturn horder
      obtain rfl : t = .page f := by simpa using hhead
      have hbehind : .task T ∈ rest := by simpa using hturn
      exact absurd now (((List.pairwise_cons.mp horder).1 _ hbehind).pages f T p rfl rfl)

/-- A caller that insists on a fresh snapshot stays on its way to the same fetch. -/
theorem Inv.pursues (inv : Inv s) (move : Move s s') {n : Nat} {p : Purpose}
    (h : s.state.Pursues T n p) : s'.state.Pursues T n p := by
  have htask := move.task_move T
  cases h with
  | follows h => exact .follows (inv.follows move h)
  | @behind f now next =>
    rcases htask.of_superseded now with h | h | ⟨hrelay, hcache, h⟩
    · exact .behind h next
    · exact .follows (.stopped h)
    · -- its end is passed on, so the old fetch has ended and callers get the next
      rcases inv.flight.ended _ hrelay f rfl with ⟨r, hr⟩
      rcases inv.ordered.superseded T f p now with hrunning | hjoined
      · rw [Cache.not_isRunning_of_outcome hr] at hrunning
        cases hrunning
      · exact .released h (by rw [hcache, hjoined, next])
  | released now joined =>
    rcases htask.of_supersededEnded now with h | h | h
    · exact .released h ((inv.joined_of_released move now).trans joined)
    · exact .follows (.stopped h)
    · exact .follows (.waits (joined ▸ h))

/-- A caller stays on its way through every schedule. -/
theorem Inv.run_follows (inv : Inv s) {f : Nat} {p : Purpose} (h : s.state.Follows T f p)
    (inputs : List Input) : (s.run inputs).state.Follows T f p :=
  inv.run_keeps (fun inv move h => inv.follows move h) h inputs

theorem Inv.run_pursues (inv : Inv s) {n : Nat} {p : Purpose} (h : s.state.Pursues T n p)
    (inputs : List Input) : (s.run inputs).state.Pursues T n p :=
  inv.run_keeps (fun inv move h => inv.pursues move h) h inputs

end Session

/-! ## Turns of callers -/

namespace State

variable {s : State} {T : String} {p : Purpose}

/-- A caller that does not insist on a fresh snapshot gets the fetch that callers get now. -/
theorem Calls.follows (calls : s.Calls T false p) :
    (s.resume T).1.tasks.lookup T = some (.waiting (.fetch s.cache.joined p)) := by
  rcases calls.resume with ⟨mid, same, heq⟩
  rw [heq, ← same.joined]
  show (mid.awaitFetch T p).1.tasks.lookup T = _
  simp

/-- While a fetch is running such a call begins nothing and asks nothing. -/
theorem Calls.joins {f : Nat} (calls : s.Calls T false p) (running : s.cache.running? = some f) :
    (s.resume T).2 = none ∧ (s.resume T).1.pending = s.pending
      ∧ (s.resume T).1.cache.fetches.length = s.cache.fetches.length := by
  rcases calls.resume with ⟨mid, same, heq⟩
  have hjoin : mid.revalidate T false p = mid.awaitFetch T p := rfl
  rw [heq, hjoin, awaitFetch_of_running (same.running?.trans running)]
  refine ⟨rfl, same.pending, ?_⟩
  exact (Cache.length_addWaiting _ _ _).trans (congrArg List.length same.fetches)

/-- The next turn of a caller that waits for its fetch begins none. -/
theorem Follows.begins_nothing {f : Nat} (h : s.Follows T f p) :
    (s.resume T).1.cache.fetches.length = s.cache.fetches.length := by
  have hidle (h : ∀ r, s.tasks.lookup T ≠ some (.ready r)) :
      (s.resume T).1.cache.fetches.length = s.cache.fetches.length := by rw [resume_idle h]
  have hready {r : Resumption} (h : s.tasks.lookup T = some (.ready r)) (own : ¬ r.IsOwn)
      (alone : ∀ q, ¬ r.Joins q) :
      (s.resume T).1.cache.fetches.length = s.cache.fetches.length := by
    have turn := resume_turn h
    generalize s.resume T = x at turn ⊢
    cases turn with
    | finished same _ => exact congrArg List.length same.fetches
    | asked _ why => exact absurd why own
    | enlisted _ why _ =>
      rcases why with ⟨p, -, why⟩ | ⟨p, -, why⟩
      · exact absurd why (alone p)
      · exact absurd why own
    | began _ why _ => exact absurd why (alone _)
    | early _ _ => rfl
  cases h with
  | waits now => exact hidle (by simp [now])
  | told now => exact hready now (fun own => own) fun q joins => joins
  | stopped now => exact hready now (fun own => own) fun q joins => joins
  | cancelled now => exact hidle (by simp [now])
  | ended _ _ now => exact hidle (by simp [now])

/-- The next turn of a caller that pursues the fetch `n` begins this fetch or none. -/
theorem Pursues.begins {n : Nat} (h : s.Pursues T n p) :
    (s.resume T).1.cache.fetches.length = s.cache.fetches.length
      ∨ (s.cache.fetches.length = n ∧ (s.resume T).1.cache.fetches.length = n + 1) := by
  cases h with
  | follows h => exact Or.inl h.begins_nothing
  | behind now _ => exact Or.inl (by rw [resume_idle (by simp [now])])
  | released now joined =>
    have hresume : s.resume T = s.awaitFetch T p := by simp [State.resume, now]
    rw [hresume]
    cases hrunning : s.cache.running? with
    | some f =>
      rw [awaitFetch_of_running hrunning]
      exact Or.inl (Cache.length_addWaiting _ _ _)
    | none =>
      rw [awaitFetch_of_none hrunning]
      have hn : s.cache.fetches.length = n := by simpa [Cache.joined, hrunning] using joined
      refine Or.inr ⟨hn, ?_⟩
      refine (Cache.length_addWaiting _ _ _).trans ?_
      rw [Cache.length_beginFetch, hn]

end State

namespace Session

variable {s : Session} {T : String} {p : Purpose}

/-- A call for a fresh snapshot sets the caller on its way to the next fetch to begin. -/
theorem Inv.pursues_of_calls (inv : Inv s) (calls : s.state.Calls T true p) :
    (s.state.resume T).1.Pursues T s.state.cache.fetches.length p := by
  rcases calls.resume with ⟨mid, same, heq⟩
  rw [heq]
  cases hrunning : s.state.cache.running? with
  | some f =>
    have hmid := same.running?.trans hrunning
    have hlast := inv.flight.succ_eq_length (inv.flight.running?_eq_some_iff.mp hrunning)
    exact .behind (f := f) (by simp [revalidate, hmid]) hlast
  | none =>
    have hmid := same.running?.trans hrunning
    have hlength : mid.cache.joined = s.state.cache.fetches.length := by
      rw [same.joined]
      simp [Cache.joined, hrunning]
    have hjoin : mid.revalidate T true p = mid.awaitFetch T p := by simp [revalidate, hmid]
    rw [hjoin]
    exact .follows (.waits (by simp [hlength]))

/-! ## When all turns are taken -/

/-- When no turn is left, a running fetch waits for an answer. -/
theorem Inv.asking_of_running (inv : Inv s) (rest : s.queue = []) {f : Nat}
    (running : s.state.cache.isRunning f = true) :
    ∃ q, (.fetch f, q) ∈ s.state.pending := by
  rcases Cache.isRunning_iff_stage.mp running with ⟨stage, hstage, unfinished⟩
  have hprovided := inv.live.stages f stage hstage
  cases stage with
  | begun => simp [Provided, rest] at hprovided
  | asking p => exact ⟨_, hprovided⟩
  | answered p a => simp [Provided, rest] at hprovided
  | finished r => exact absurd rfl (unfinished r)

/-- When no turn is left, a task that waits for the end of a fetch waits for a running one. -/
theorem Inv.running_of_waiting (inv : Inv s) (rest : s.queue = []) {w : Wait} {f : Nat}
    (waiting : s.state.tasks.lookup T = some (.waiting w)) (hf : w.fetch? = some f) :
    s.state.cache.isRunning f = true := by
  rcases inv.live.waits T w f waiting hf with ⟨running, -⟩ | relay
  · exact running
  · simp [rest] at relay

/-- When no turn is left, no task has one coming. -/
theorem Inv.not_ready (inv : Inv s) (rest : s.queue = []) (r : Resumption) :
    s.state.tasks.lookup T ≠ some (.ready r) := by
  intro ready
  have hturn := inv.live.turns T r ready
  simp [rest] at hturn

/-- When no turn is left, a caller is finished or its fetch is running. -/
theorem Inv.finished_or_running (inv : Inv s) (rest : s.queue = []) {f : Nat}
    (h : s.state.Follows T f p) :
    (∃ o, s.state.tasks.lookup T = some (.finished o)) ∨ s.state.cache.isRunning f = true := by
  cases h with
  | waits now => exact Or.inr (inv.running_of_waiting rest now rfl)
  | told now => exact absurd now (inv.not_ready rest _)
  | stopped now => exact absurd now (inv.not_ready rest _)
  | cancelled now => exact Or.inl ⟨_, now⟩
  | ended _ _ now => exact Or.inl ⟨_, now⟩

/-- When no turn is left, a caller for a fresh snapshot is finished, or its fetch or the one before
waits for an answer. -/
theorem Inv.finished_or_asking (inv : Inv s) (rest : s.queue = []) {n : Nat}
    (h : s.state.Pursues T n p) :
    (∃ o, s.state.tasks.lookup T = some (.finished o))
      ∨ ∃ f q, (f = n ∨ f + 1 = n) ∧ s.state.cache.isRunning f = true
        ∧ (.fetch f, q) ∈ s.state.pending := by
  cases h with
  | @behind f now next =>
    have hrunning := inv.running_of_waiting rest now rfl
    rcases inv.asking_of_running rest hrunning with ⟨q, hq⟩
    exact Or.inr ⟨f, q, Or.inr next, hrunning, hq⟩
  | released now _ => exact absurd now (inv.not_ready rest _)
  | follows h =>
    rcases inv.finished_or_running rest h with hfinished | hrunning
    · exact Or.inl hfinished
    · rcases inv.asking_of_running rest hrunning with ⟨q, hq⟩
      exact Or.inr ⟨n, q, Or.inl rfl, hrunning, hq⟩

end Session

end LoginVault
