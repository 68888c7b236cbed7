import LoginVault.Proofs.Session.Callers

/-!
# Session.Freshness — a fresh call reads what was written before it

A task that insists on a fresh snapshot never gets the outcome of a fetch that had begun before
its call, under any interleaving. It gets the outcome of the very next fetch, for which nothing
was asked before the call. So all who insist while one fetch is unfinished share the next, and
the login that a form has just created is in what is read after it.

Main result: `fresh_call`.
-/

namespace LoginVault.Session

open State

variable {s s' : Session}

/-! ## Requests of fetches -/

/-- A request for a fetch is sent once the fetch has begun. -/
theorem Move.request_new (move : Move s s') {f : Nat} {q : Query}
    (mem : (.fetch f, q) ∈ s'.state.pending) :
    (.fetch f, q) ∈ s.state.pending ∨ f < s.state.cache.fetches.length := by
  have hsent {g : Nat} {stage : FetchStage} {xs : List (Owner × Query)} {q' : Query}
      (stands : s.state.cache.stage? g = some stage)
      (mem : (Owner.fetch f, q) ∈ xs ++ [(.fetch g, q')]) :
      (Owner.fetch f, q) ∈ xs ∨ f < s.state.cache.fetches.length := by
    rcases List.mem_append.mp mem with hbefore | hlast
    · exact Or.inl hbefore
    · obtain ⟨rfl, -⟩ : f = g ∧ q = q' := by simpa using hlast
      exact Or.inr (Cache.lt_of_stage stands)
  cases move with
  | quiet same => exact Or.inl (same.pending ▸ mem)
  | spawned _ | overtaken _ | idle _ | settled | told _ | released _ => exact Or.inl mem
  | ended _ _ spawns => exact Or.inl (spawns.pending ▸ mem)
  | cancelled _ => exact Or.inl (List.mem_filter.mp mem).1
  | answered _ _ | pageAnswered _ _ | unheard _ _ _ => exact Or.inl (List.mem_of_mem_eraseIdx mem)
  | opened begun => exact hsent begun mem
  | turned read _ => exact hsent read mem
  | task ready turn =>
    left
    cases turn with
    | finished same _ => exact same.pending ▸ mem
    | enlisted same _ _ => exact same.pending ▸ mem
    | began same _ _ => exact same.pending ▸ mem
    | early _ _ => exact mem
    | @asked mid e same _ =>
      rcases List.mem_append.mp mem with hbefore | hlast
      · exact same.pending ▸ hbefore
      · simp at hlast

/-- Every pending request of a fetch is one of a fetch that has begun. -/
theorem request_lt (client : Client) (inputs : List Input) {f : Nat} {q : Query}
    (mem : (.fetch f, q) ∈ (reached client inputs).state.pending) :
    f < (reached client inputs).state.cache.fetches.length := by
  refine (reached_inv client []).run_keeps
    (P := fun s => (.fetch f, q) ∈ s.state.pending → f < s.state.cache.fetches.length)
    ?_ (fun h => nomatch h) inputs mem
  intro s s' inv move begun mem
  have hlength := (inv.flight.ledger move).length_le
  rcases move.request_new mem with hbefore | hlt
  · exact Nat.lt_of_lt_of_le (begun hbefore) hlength
  · exact Nat.lt_of_lt_of_le hlt hlength

/-- No schedule shortens the ledger. -/
theorem Inv.length_le_run (inv : Inv s) (inputs : List Input) :
    s.state.cache.fetches.length ≤ (s.run inputs).state.cache.fetches.length :=
  inv.run_keeps (P := fun t => s.state.cache.fetches.length ≤ t.state.cache.fetches.length)
    (fun inv move h => Nat.le_trans h (inv.flight.ledger move).length_le) (Nat.le_refl _) inputs

/-- A fetch that had not asked for its first page and has ended has asked for it in between. -/
theorem asks_first_page {n : Nat} {r : Except Failure (List Login)} (inputs : List Input)
    (unasked : s.state.cache.stage? n = none ∨ s.state.cache.stage? n = some .begun)
    (ended : (s.run inputs).state.cache.outcome? n = some r) :
    ∃ before, before <+: inputs ∧
      (.fetch n, .page none s.state.client.config.pageSize 0) ∈ (s.run before).state.pending := by
  induction inputs generalizing s with
  | nil =>
    rw [run_nil, Cache.outcome?_eq_some_iff] at ended
    simp [ended] at unasked
  | cons i rest ih =>
    have move := s.advance_move i
    have hclient := move.client
    have hlater (now : (s.advance i).state.cache.stage? n = none
        ∨ (s.advance i).state.cache.stage? n = some .begun) :
        ∃ before, before <+: i :: rest ∧
          (.fetch n, .page none s.state.client.config.pageSize 0)
            ∈ (s.run before).state.pending := by
      rcases ih now ended with ⟨before, hprefix, hmem⟩
      exact ⟨i :: before, List.cons_prefix_cons.mpr ⟨rfl, hprefix⟩, hclient ▸ hmem⟩
    cases move.fetch_move n with
    | kept same => exact hlater (by rw [same]; exact unasked)
    | begun _ _ now _ => exact hlater (Or.inr now)
    | opened _ _ _ request =>
      exact ⟨[i], List.cons_prefix_cons.mpr ⟨rfl, List.nil_prefix⟩, hclient ▸ request⟩
    | answered before _ _ => simp [before] at unasked
    | turned before _ _ _ => simp [before] at unasked
    | ended before _ _ => simp [before] at unasked

/-! ## Fresh calls -/

/-- Whether the next turn begins the fetch `n` or none. -/
def BeginsOnly (s : Session) (n : Nat) : Prop :=
  (s.advance .turn).state.cache.fetches.length = s.state.cache.fetches.length
    ∨ (s.state.cache.fetches.length = n ∧ (s.advance .turn).state.cache.fetches.length = n + 1)

/-- What a task `T` relies on that calls for a fresh snapshot, for `p`, in the turn after `first`:
its outcome is that of the fetch `n`. -/
structure FreshCall (client : Client) (first : List Input) (T : String) (p : Purpose) (n : Nat) :
    Prop where
  /-- Up to the call no such fetch was begun, and nothing was asked for it. -/
  unbegun : ∀ before, before <+: first → (reached client before).state.cache.fetches.length ≤ n
    ∧ ∀ q, (.fetch n, q) ∉ (reached client before).state.pending
  /-- It is the next after the fetch that is unfinished at the call. So it is the same one for
  all who call while that fetch is unfinished. -/
  next : ∀ f, (reached client first).state.cache.isRunning f = true → n = f + 1
  /-- The task finishes as this fetch ended, unless it was cancelled; and the first page was
  asked for after the call. -/
  ends : ∀ later o,
    (reached client (first ++ .turn :: later)).state.tasks.lookup T = some (.finished o) →
    o ≠ .cancelled →
    (∃ r, (reached client (first ++ .turn :: later)).state.cache.outcome? n = some r ∧ p.Ends r o)
      ∧ ∃ before, before <+: later ∧ (.fetch n, .page none client.config.pageSize 0)
        ∈ (reached client (first ++ .turn :: before)).state.pending
  /-- The call begins this fetch or none. -/
  begins : (reached client first).BeginsOnly n
  /-- So does every later turn of the task. -/
  costs : ∀ later rest, (reached client (first ++ .turn :: later)).queue = .task T :: rest →
    (reached client (first ++ .turn :: later)).BeginsOnly n
  /-- When no turn is left, the task is finished, or this fetch or the one before waits for an
  answer. -/
  finishes : ∀ later, (reached client (first ++ .turn :: later)).queue = [] →
    (∃ o, (reached client (first ++ .turn :: later)).state.tasks.lookup T = some (.finished o))
      ∨ ∃ f q, (f = n ∨ f + 1 = n)
        ∧ (reached client (first ++ .turn :: later)).state.cache.isRunning f = true
        ∧ (.fetch f, q) ∈ (reached client (first ++ .turn :: later)).state.pending

theorem reached_client (client : Client) (inputs : List Input) :
    (reached client inputs).state.client = client :=
  run_keeps_of_moves (P := fun s => s.state.client = client)
    (fun move h => move.client.trans h) rfl inputs

/-- The turn in which a task calls for a fresh snapshot. -/
theorem Inv.fresh_turn (inv : Inv s) {T : String} {rest : List Turn} {p : Purpose}
    (queue : s.queue = .task T :: rest) (calls : s.state.Calls T true p) :
    (s.advance .turn).state.Pursues T s.state.cache.fetches.length p
      ∧ s.BeginsOnly s.state.cache.fetches.length := by
  rcases s with ⟨state, q⟩
  obtain rfl : q = .task T :: rest := queue
  refine ⟨inv.pursues_of_calls calls, ?_⟩
  cases inv.flight.ledger (take_move state rest (.task T)) with
  | kept _ length _ => exact Or.inl length
  | letGo _ _ _ length _ => exact Or.inl length
  | went _ _ length _ => exact Or.inl length
  | begun _ _ length _ => exact Or.inr ⟨rfl, length⟩

/-- A call for a fresh snapshot gets the outcome of the next fetch to begin, under every
interleaving. -/
theorem fresh_call {client : Client} {first : List Input} {T : String} {rest : List Turn}
    {p : Purpose} (queue : (reached client first).queue = .task T :: rest)
    (calls : (reached client first).state.Calls T true p) :
    FreshCall client first T p (reached client first).state.cache.fetches.length := by
  have inv := reached_inv client first
  rcases inv.fresh_turn queue calls with ⟨hcall, hbegins⟩
  have hinv := inv.step ((reached client first).advance_move .turn)
  have hrun (later : List Input) : reached client (first ++ .turn :: later)
      = ((reached client first).advance .turn).run later := reached_append client first _
  have hpursues (later : List Input) : (reached client (first ++ .turn :: later)).state.Pursues T
      (reached client first).state.cache.fetches.length p := by
    rw [hrun]
    exact hinv.run_pursues hcall later
  exact {
    unbegun := by
      rintro before ⟨after, rfl⟩
      have hlength := (reached_inv client before).length_le_run after
      rw [← reached_append] at hlength
      refine ⟨hlength, fun q mem => ?_⟩
      have hlt := request_lt client before mem
      omega
    next := fun f hf => (inv.flight.succ_eq_length hf).symm
    ends := by
      intro later o finished uncancelled
      rcases ((hpursues later).outcome finished).resolve_left uncancelled with ⟨r, hr, hends⟩
      refine ⟨⟨r, hr, hends⟩, ?_⟩
      obtain ⟨before, hprefix, hmem⟩ := asks_first_page (s := reached client first) (.turn :: later)
        (Or.inl (by simp [Cache.stage?])) (reached_append client first _ ▸ hr)
      rw [reached_client, ← reached_append] at hmem
      cases before with
      | nil =>
        -- nothing is asked for a fetch that has not begun
        rw [List.append_nil] at hmem
        exact absurd (request_lt client first hmem) (Nat.lt_irrefl _)
      | cons i before =>
        rcases List.cons_prefix_cons.mp hprefix with ⟨rfl, hbehind⟩
        exact ⟨before, hbehind, hmem⟩
    begins := hbegins
    costs := by
      intro later rest queue
      have h := hpursues later
      generalize reached client (first ++ .turn :: later) = t at queue h ⊢
      rcases t with ⟨state, q⟩
      obtain rfl : q = .task T :: rest := queue
      exact h.begins
    finishes := by
      intro later rest
      exact (reached_inv client _).finished_or_asking rest (hpursues later) }

/-- A caller that comes while a fetch is unfinished ends as the next one does, not as the failure
of the unfinished one. -/
theorem fresh_call_behind_unfinished :
    let client : Client := ⟨⟨"http://localhost:3625", .whole 30, 100, by decide⟩, ""⟩
    let first : List Input := [.event (.spawn "stale" (.revalidate false)), .turn, .turn,
      .event (.spawn "fresh" (.revalidate true))]
    let lost (message : String) : Input :=
      .event (.respond 0 (.fault (.network .connecting message)))
    let later := [lost "first"] ++ List.replicate 7 .turn ++ [lost "second"]
      ++ List.replicate 4 .turn
    let ended (message : String) : Task := .finished (.raised (.store (.transport
      ⟨.page none 100 0, .network .connecting message⟩)))
    FreshCall client first "fresh" .outcome 1
      ∧ (reached client first).state.cache.isRunning 0 = true
      ∧ (reached client (first ++ .turn :: later)).state.tasks.lookup "stale" = some (ended "first")
      ∧ (reached client (first ++ .turn :: later)).state.tasks.lookup "fresh"
        = some (ended "second") :=
  ⟨fresh_call rfl (.revalidate rfl), rfl, rfl, rfl⟩

end LoginVault.Session
