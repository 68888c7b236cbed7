import LoginVault.Proofs.Session.SingleFlight

/-!
# Session.Waiters — who waited for a fetch

The ledger keeps who began to wait for a fetch. Such a task still waits for this fetch or a later
one, or was told of an end, or is released to wait for a later one, or was cancelled; it ends in
any other way only after the fetch has ended (`State.Enlisted`).

So a flag that says that something is loading can be wrong after a fetch for one of two reasons
(`State.MayShowLoading`): the fetch succeeded, and the flag was set when its snapshot was told; or
it failed, and of those who waited for it nobody was there to be told.
-/

namespace LoginVault

namespace State

/-- Where a task stands that began to wait for the fetch `g`. -/
inductive Enlisted (s : State) (T : String) (g : Nat) : Prop
  | waits {w : Wait} {f : Nat} (now : s.tasks.lookup T = some (.waiting w))
      (fetch : w.fetch? = some f) (later : g ≤ f)
  | told {f : Nat} {p : Purpose} (now : s.tasks.lookup T = some (.ready (.fetchEnded f p)))
      (later : g ≤ f)
  | released {p : Purpose} (now : s.tasks.lookup T = some (.ready (.supersededEnded p)))
  | stopped (now : s.tasks.lookup T = some (.ready .cancelled))
  | cancelled (now : s.tasks.lookup T = some (.finished .cancelled))
  | done {o : Outcome} {r : Except Failure (List Login)}
      (now : s.tasks.lookup T = some (.finished o)) (ended : s.cache.outcome? g = some r)

end State

namespace Session

open State

variable {s s' : Session}

/-- Whoever comes to wait for a fetch waits for it now. -/
theorem Move.waiter (move : Move s s') {T : String} {g : Nat}
    (mem : T ∈ s'.state.cache.waitingFor g) : T ∈ s.state.cache.waitingFor g
      ∨ ∃ w, s'.state.tasks.lookup T = some (.waiting w) ∧ w.fetch? = some g := by
  have hsame {c d : Cache} (h : d.fetches = c.fetches) (mem : T ∈ d.waitingFor g) :
      T ∈ c.waitingFor g :=
    (Cache.reads_congr h g).2.2.1 ▸ mem
  have hset {c : Cache} {f : Nat} {stage : FetchStage}
      (mem : T ∈ (c.setStage f stage).waitingFor g) : T ∈ c.waitingFor g := by
    rwa [Cache.waitingFor_setStage] at mem
  have hadd {c : Cache} {f : Nat} {U : String} (hf : f < c.fetches.length)
      (mem : T ∈ (c.addWaiting f U).waitingFor g) : T ∈ c.waitingFor g ∨ g = f ∧ T = U := by
    rw [Cache.waitingFor_addWaiting _ _ _ _ hf] at mem
    split at mem
    · rename_i hg
      exact (List.mem_append.mp mem).imp_right fun last => ⟨hg, List.mem_singleton.mp last⟩
    · exact Or.inl mem
  cases move with
  | quiet same => exact Or.inl (hsame same.fetches mem)
  | spawned _ | overtaken _ | cancelled _ | answered _ _ | unheard _ _ _ | idle _ | told _
  | released _ => exact Or.inl mem
  | settled => exact Or.inl (hsame (Cache.fetches_settle _ _) mem)
  | pageAnswered _ _ | opened _ | turned _ _ => exact Or.inl (hset mem)
  | ended _ _ spawns => exact Or.inl (hsame spawns.fetches (hset mem))
  | task ready turn =>
    -- nobody but the task whose turn it is can come to wait
    cases turn with
    | finished same _ | asked same _ => exact Or.inl (hsame same.fetches mem)
    | early _ _ => exact Or.inl mem
    | @enlisted mid f w same why running =>
      have hlt := (Cache.isRunning_iff.mp (Cache.running?_eq_some_iff.mp running).2).1
      rcases hadd hlt mem with old | ⟨rfl, rfl⟩
      · exact Or.inl (hsame same.fetches old)
      · right
        rcases why with ⟨p, rfl, -⟩ | ⟨p, rfl, -⟩
        · exact ⟨.fetch g p, by simp, rfl⟩
        · exact ⟨.superseded g p, by simp, rfl⟩
    | @began mid p same why idle =>
      rcases hadd (by simp) mem with old | ⟨rfl, rfl⟩
      · rw [Cache.waitingFor_beginFetch] at old
        exact Or.inl (hsame same.fetches old)
      · exact Or.inr ⟨.fetch _ p, by simp, rfl⟩

theorem lt_of_waiter {c : Cache} {T : String} {g : Nat} (mem : T ∈ c.waitingFor g) :
    g < c.fetches.length := by
  cases h : c.fetches[g]? with
  | none => simp [Cache.waitingFor, h] at mem
  | some x => exact (List.getElem?_eq_some_iff.mp h).1

/-- A fetch has ended if a later one has. -/
theorem Flight.ended_of_le (flight : Flight s) {f g : Nat} (le : g ≤ f)
    {r : Except Failure (List Login)} (ended : s.state.cache.outcome? f = some r) :
    ∃ r', s.state.cache.outcome? g = some r' := by
  have hlt := Cache.lt_of_stage (Cache.outcome?_eq_some_iff.mp ended)
  rcases Cache.isRunning_or_outcome (Nat.lt_of_le_of_lt le hlt) with running | ended'
  · -- what is running is the last of the ledger
    have hlast := flight.succ_eq_length running
    obtain rfl : g = f := by omega
    rw [Cache.not_isRunning_of_outcome ended] at running
    cases running
  · exact ended'

/-- A caller gets no fetch that is older than one of the ledger. -/
theorem Flight.le_joined (flight : Flight s) {g : Nat} (lt : g < s.state.cache.fetches.length) :
    g ≤ s.state.cache.joined := by
  unfold Cache.joined
  cases h : s.state.cache.running? with
  | none => exact Nat.le_of_lt lt
  | some f =>
    have hlast := flight.succ_eq_length (flight.running?_eq_some_iff.mp h)
    simp only [Option.getD_some]
    omega

/-! ## The way from there -/

/-- Whoever once waited for a fetch stands somewhere on the way that leads from there. -/
def Enrolled (s : Session) : Prop :=
  ∀ T g, T ∈ s.state.cache.waitingFor g → s.state.Enlisted T g

theorem Enrolled.step (enrolled : Enrolled s) (inv : Inv s) (move : Move s s') : Enrolled s' := by
  intro T g mem
  rcases move.waiter mem with old | ⟨w, now, fetch⟩
  · have hkept {r : Except Failure (List Login)} (ended : s.state.cache.outcome? g = some r) :
        s'.state.cache.outcome? g = some r :=
      (inv.flight.ledger move).outcome?_kept ended
    have htask := move.task_move T
    -- whoever waited before stays where it is, or goes one step of the way
    cases enrolled T g old with
    | @waits w f now fetch later =>
      cases w with
      | answer e => cases fetch
      | fetch f' p =>
        obtain rfl : f' = f := Option.some.inj fetch
        rcases htask.of_fetch now with now | now | now
        · exact .waits now rfl later
        · exact .stopped now
        · exact .told now later
      | superseded f' p =>
        obtain rfl : f' = f := Option.some.inj fetch
        rcases htask.of_superseded now with now | now | ⟨-, -, now⟩
        · exact .waits now rfl later
        · exact .stopped now
        · exact .released now
    | @told f p now later =>
      rcases htask.of_fetchEnded now with now | now | ⟨r, o, ended, -, now⟩
      · exact .told now later
      · exact .stopped now
      · rcases inv.flight.ended_of_le later ended with ⟨r', ended'⟩
        exact .done now (hkept ended')
    | released now =>
      rcases htask.of_supersededEnded now with now | now | now
      · exact .released now
      · exact .stopped now
      · exact .waits now rfl (inv.flight.le_joined (lt_of_waiter old))
    | stopped now =>
      rcases htask.of_cancelled now with now | now
      · exact .stopped now
      · exact .cancelled now
    | cancelled now => exact .cancelled (htask.of_finished now)
    | done now ended => exact .done (htask.of_finished now) (hkept ended)
  · exact .waits now fetch (Nat.le_refl g)

theorem reached_enrolled (client : Client) (inputs : List Input) :
    Enrolled (reached client inputs) :=
  Inv.run_keeps (reached_inv client []) (fun inv move enrolled => enrolled.step inv move)
    (fun T g mem => by simp [reached, start, State.start, Cache.waitingFor] at mem) inputs

/-- A task that once waited for a fetch, and is finished without having been cancelled, was finished
before and the fetch had ended, or it was told of an end. -/
theorem Enrolled.finished (enrolled : Enrolled s) (move : Move s s') {T : String}
    {g : Nat} {o : Outcome} (mem : T ∈ s'.state.cache.waitingFor g)
    (now : s'.state.tasks.lookup T = some (.finished o)) (uncancelled : o ≠ .cancelled) :
    (s.state.tasks.lookup T = some (.finished o) ∧ T ∈ s.state.cache.waitingFor g
        ∧ ∃ r, s.state.cache.outcome? g = some r)
      ∨ ∃ f p r, s.state.tasks.lookup T = some (.ready (.fetchEnded f p)) ∧ g ≤ f
        ∧ s.state.cache.outcome? f = some r := by
  have htask := move.task_move T
  rcases move.waiter mem with old | ⟨w, waiting, -⟩
  · cases enrolled T g old with
    | @waits w f before fetch later =>
      cases w with
      | answer e => cases fetch
      | fetch f' p => rcases htask.of_fetch before with h | h | h <;> simp [h] at now
      | superseded f' p =>
        rcases htask.of_superseded before with h | h | ⟨-, -, h⟩ <;> simp [h] at now
    | @told f p before later =>
      rcases htask.of_fetchEnded before with h | h | ⟨r, o', ended, -, -⟩
      · simp [h] at now
      · simp [h] at now
      · exact Or.inr ⟨f, p, r, before, later, ended⟩
    | released before => rcases htask.of_supersededEnded before with h | h | h <;> simp [h] at now
    | stopped before =>
      rcases htask.of_cancelled before with h | h
      · simp [h] at now
      · obtain rfl : Outcome.cancelled = o := by simpa [h] using now
        exact absurd rfl uncancelled
    | cancelled before =>
      obtain rfl : Outcome.cancelled = o := by simpa [htask.of_finished before] using now
      exact absurd rfl uncancelled
    | @done o' r before ended =>
      obtain rfl : o' = o := by simpa [htask.of_finished before] using now
      exact Or.inl ⟨before, old, r, ended⟩
  · simp [waiting] at now

end Session

/-! ## Flags that are left behind -/

namespace State

/-- Why a flag may say that the cache is loading: it is; or its last fetch succeeded; or the last
fetch failed, and whoever waited for it and is finished was cancelled. -/
inductive MayShowLoading (s : State) : Prop
  | loads (loading : s.cache.isLoading = true)
  | read {f : Nat} {rows : List Login} (last : f + 1 = s.cache.fetches.length)
      (ended : s.cache.outcome? f = some (.ok rows))
  | untold {f : Nat} {e : Failure} (last : f + 1 = s.cache.fetches.length)
      (ended : s.cache.outcome? f = some (.error e))
      (cancelled : ∀ T ∈ s.cache.waitingFor f, ∀ o, s.tasks.lookup T = some (.finished o) →
        o = .cancelled)

end State

namespace Session

open State

variable {s s' : Session}

/-- With this move a task finishes that was told that a fetch failed. -/
structure TellsFailure (s s' : Session) (T : String) : Prop where
  told : ∃ f p e, s.state.tasks.lookup T = some (.ready (.fetchEnded f p))
    ∧ s.state.cache.outcome? f = some (.error e)
  finished : ∃ o, s'.state.tasks.lookup T = some (.finished o)

/-- What a flag may say, it may say until a task is told that a fetch failed. -/
theorem mayShowLoading_step (inv : Inv s) (enrolled : Enrolled s) (move : Move s s')
    (may : s.state.MayShowLoading) : s'.state.MayShowLoading ∨ ∃ T, TellsFailure s s' T := by
  have inv' := inv.step move
  have hloads {f : Nat} (running : s'.state.cache.isRunning f = true) : s'.state.MayShowLoading :=
    .loads (inv'.loading_iff.mpr ⟨f, running⟩)
  -- a fetch that stays as it is was told of by nobody, unless somebody is told of it now
  have hkept (stage? : ∀ g, s'.state.cache.stage? g = s.state.cache.stage? g)
      (length : s'.state.cache.fetches.length = s.state.cache.fetches.length) :
      s'.state.MayShowLoading ∨ ∃ T, TellsFailure s s' T := by
    cases may with
    | loads loading =>
      rcases inv.loading_iff.mp loading with ⟨f, running⟩
      exact Or.inl (hloads (Cache.isRunning_congr f (stage? f) ▸ running))
    | @read f rows last ended =>
      exact Or.inl (.read (length ▸ last) (Cache.outcome?_congr f (stage? f) ▸ ended))
    | @untold f e last ended cancelled =>
      by_cases h : ∀ T ∈ s'.state.cache.waitingFor f, ∀ o,
        s'.state.tasks.lookup T = some (.finished o) → o = .cancelled
      · exact Or.inl (.untold (length ▸ last) (Cache.outcome?_congr f (stage? f) ▸ ended) h)
      · right
        simp only [Classical.not_forall] at h
        rcases h with ⟨T, mem, o, now, uncancelled⟩
        rcases enrolled.finished move mem now uncancelled with
          ⟨before, old, -⟩ | ⟨f', p, r, before, later, ended'⟩
        · exact absurd (cancelled T old o before) uncancelled
        · have hlt := Cache.lt_of_stage (Cache.outcome?_eq_some_iff.mp ended')
          obtain rfl : f = f' := by omega
          exact ⟨T, ⟨f, p, e, before, ended⟩, o, now⟩
  cases inv.flight.ledger move with
  | kept stage? length _ => exact hkept stage? length
  | letGo _ _ stage? length _ => exact hkept stage? length
  | begun _ stage? _ _ =>
    exact Or.inl (hloads (Cache.isRunning_of_stage ((stage? _).trans (if_pos rfl)) (by simp)))
  | @went f stage running stage? length _ =>
    left
    have hstage : s'.state.cache.stage? f = some stage := (stage? f).trans (if_pos rfl)
    have hlast : f + 1 = s'.state.cache.fetches.length :=
      (inv.flight.succ_eq_length running).trans length.symm
    cases stage with
    | finished outcome =>
      have hended := Cache.outcome?_eq_some_iff.mpr hstage
      cases outcome with
      | ok rows => exact .read hlast hended
      | error e =>
        -- while it was running nobody could be told of its end
        refine .untold hlast hended fun T mem o now => ?_
        refine Classical.byContradiction fun uncancelled => ?_
        have hunended {r : Except Failure (List Login)} : s.state.cache.outcome? f ≠ some r := by
          intro h
          rw [Cache.not_isRunning_of_outcome h] at running
          cases running
        rcases enrolled.finished move mem now uncancelled with
          ⟨-, -, r, ended⟩ | ⟨f', p, r, -, later, ended⟩
        · exact hunended ended
        · rcases inv.flight.ended_of_le later ended with ⟨r', ended'⟩
          exact hunended ended'
    | _ => exact hloads (Cache.isRunning_of_stage hstage (by simp))

end Session

end LoginVault
