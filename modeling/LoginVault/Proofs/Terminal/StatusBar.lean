import LoginVault.Proofs.Terminal.Bookkeeping

/-!
# Terminal.StatusBar — how far the status bar can be trusted

The status bar is a copy, made when the view is redrawn. Its numbers are right between any two
inputs, as long as the grid takes all rows. Its flag is not: the observer of the view is called
while the fetch that brings the rows has not ended, so once the logins are loaded the status bar
tells that they still are, until something else has the view redrawn. After a fetch that failed the
flag is right, unless everybody who had waited for the fetch was cancelled.

Main results: `reached_statusBar`, and `loading_left_behind` for the flag after a load.
-/

namespace LoginVault.Terminal

open State Session

/-! ## The start -/

/-- What the session of a terminal goes through at the start: its view is made and mounted, and the
first page is asked for. -/
def opening : List LoginVault.Input :=
  [.event (.newView viewName .grid), .event (.spawn s!"task {0}" (.mount viewName)), .turn, .turn]

/-- The terminal that has just started: the task that mounts its view loads the logins. -/
def opened (client : Client) : Terminal :=
  ⟨(Session.reached client opening).state, false, "", [], .idle, [],
    some (.start, s!"task {0}"), 1, [], none⟩

theorem start_eq (client : Client) : start client = opened client := by
  -- making the view takes no turn; the task that mounts it takes one and its fetch another
  let viewed : State := { State.start client with views := [(viewName, .fresh .grid)] }
  have hviewed : (⟨.start client, false, "", [], .idle, [], none, 0, [], none⟩ : Terminal).perform
      [.newView viewName .grid] = ⟨viewed, false, "", [], .idle, [], none, 0, [], none⟩ :=
    settleWith_of_settledIn (n := 0) rfl
  have hstart : start client = { opened client with session := viewed }.perform
      [.spawn s!"task {0}" (.mount viewName)] := by
    simp only [start, hviewed]
    rfl
  rw [hstart]
  exact settleWith_of_settledIn (n := 2) rfl

/-- The only task at the start is the one that has mounted the view. -/
theorem lookup_start {client : Client} {T : String} {x : Task}
    (h : (start client).session.tasks.lookup T = some x) :
    T = s!"task {0}" ∧ x = .waiting (.fetch 0 (.mounting viewName)) := by
  have htasks : (start client).session.tasks
      = [(s!"task {0}", .waiting (.fetch 0 (.mounting viewName)))] := by
    rw [start_eq]
    rfl
  simp only [htasks, List.lookup_cons, List.lookup_nil] at h
  split at h
  · rename_i hT
    exact ⟨by simpa using hT, by simpa using h.symm⟩
  · cases h

theorem start_sound (client : Client) : Sound (start client) [] where
  reached := ⟨client, opening, by rw [start_eq]; rfl⟩
  serving := by
    refine ⟨⟨{ View.fresh .grid with mounted := true }, ?_, rfl⟩, ?_, fun T x h => ?_⟩
    · rw [start_eq]
      rfl
    · rw [start_eq]
      rfl
    · obtain ⟨-, rfl⟩ := lookup_start h
      exact .waiting (.fetch .mounting)
  named T used := by
    obtain ⟨x, h⟩ := Option.ne_none_iff_exists'.mp used
    exact ⟨0, by rw [start_eq]; exact Nat.one_pos, (lookup_start h).1⟩
  attends T active := by
    obtain ⟨x, h, -⟩ := active
    exact Or.inl ⟨.start, by rw [(lookup_start h).1, start_eq]; rfl⟩
  counts _ := by
    rw [start_eq]
    exact ⟨rfl, rfl⟩
  loading h := by
    rw [start_eq] at h
    cases h

/-! ## At rest -/

/-- The terminal after these inputs. -/
def reached (client : Client) (inputs : List Input) : Terminal :=
  inputs.foldl handle (start client)

theorem reached_sound (client : Client) (inputs : List Input) :
    Sound (reached client inputs) [] := by
  have hrun {t : Terminal} (sound : Sound t []) : Sound (inputs.foldl handle t) [] := by
    induction inputs generalizing t with
    | nil => exact sound
    | cons i rest ih => exact ih (sound.handle i)
  exact hrun (start_sound client)

/-! ## The numbers -/

theorem firstRepeated_of_nodup {known texts : List String} (nodup : texts.Nodup)
    (new : ∀ k ∈ texts, k ∉ known) : firstRepeated known texts = none := by
  induction texts generalizing known with
  | nil => rfl
  | cons k rest ih =>
    obtain ⟨hk, hrest⟩ := List.nodup_cons.mp nodup
    have hnew : ∀ l ∈ rest, l ∉ known ++ [k] := by
      intro l mem again
      rcases List.mem_append.mp again with old | last
      · exact new l (List.mem_cons_of_mem k mem) old
      · exact hk (List.mem_singleton.mp last ▸ mem)
    simpa [firstRepeated, new k List.mem_cons_self] using ih hrest hnew

/-- The grid takes all rows if their identifiers read differently. -/
theorem grid_takes {rows : List Login} (nodup : (rows.map (·.id.text)).Nodup) :
    Observer.grid.fault? rows = none := by
  simp [Observer.fault?, firstRepeated_of_nodup nodup]

/-! ## The flag -/

/-- Why the status bar may tell that logins are being loaded though they are not: the last fetch
succeeded, or it failed and everybody who had waited for it was cancelled. -/
inductive LeftLoading (s : State) : Prop
  | read {f : Nat} {rows : List Login} (last : f + 1 = s.cache.fetches.length)
      (ended : s.cache.outcome? f = some (.ok rows))
  | untold {f : Nat} {e : Failure} (last : f + 1 = s.cache.fetches.length)
      (ended : s.cache.outcome? f = some (.error e))
      (cancelled : ∀ T ∈ s.cache.waitingFor f, s.tasks.lookup T = some (.finished .cancelled))

/-- The inputs that have the view redrawn and do nothing else to the session. -/
inductive Input.Redraws (t : Terminal) : Input → Prop
  | search {text : String} (other : text ≠ t.search) : Redraws t (.search text)
  | newLogin : Redraws t .newLogin
  | cycleOrder : Redraws t .cycleOrder

variable {t : Terminal}

/-- A change of the view at rest puts the flag right. -/
theorem perform_change_bar (serving : t.session.Serving viewName) {e : Event} {f : View → View}
    (changes : ChangesView t e f) (idle : t.session.cache.isLoading = false)
    (runs : (t.perform [e]).crash = none) : (t.perform [e]).bar.loading = false := by
  obtain ⟨s', fault, seen, -, seeing, drawn, performed⟩ := perform_change serving changes
  rw [performed] at runs ⊢
  cases fault with
  | some g => exact absurd runs (crashed_ne_none _ _)
  | none =>
    simp only [drawn, redraw, ← seeing.fault]
    exact seeing.loading.trans idle

/-- How far the status bar can be trusted. -/
structure StatusBarHolds (t : Terminal) : Prop where
  /-- It tells how many logins the view shows and how many the cache holds, as long as the
  identifiers of the rows read differently. -/
  counts : (t.view.table.rows.map (·.id.text)).Nodup →
    t.bar.shown = t.view.table.rows.length ∧ t.bar.total = t.session.cache.snapshot.length
  /-- With no request pending nothing is under way, and nothing is being loaded. -/
  rests : t.session.pending = [] →
    (∀ T x, t.session.tasks.lookup T = some x → ∃ o, x = .finished o)
      ∧ t.session.cache.isLoading = false
  /-- If it tells then that logins are being loaded, this was left behind by the last fetch, -/
  loading : t.crash = none → t.session.pending = [] → t.bar.loading = true →
    LeftLoading t.session
  /-- and the next input that has the view redrawn puts it right. -/
  redrawn : t.session.pending = [] → ∀ i, i.Redraws t → (t.handle i).crash = none →
    (t.handle i).bar.loading = false

/-- With no request pending nothing is under way. -/
theorem Sound.rests (sound : Sound t []) (nothing : t.session.pending = []) :
    (∀ T x, t.session.tasks.lookup T = some x → ∃ o, x = .finished o)
      ∧ t.session.cache.isLoading = false := by
  obtain ⟨client, inputs, reached⟩ := sound.reached
  have hdone := (reached_unstranded client inputs).done
  rw [reached] at hdone
  exact hdone rfl nothing

/-- What the flag tells at rest was left behind by the last fetch. -/
theorem Sound.leftLoading (sound : Sound t []) (runs : t.crash = none)
    (nothing : t.session.pending = []) (loading : t.bar.loading = true) :
    LeftLoading t.session := by
  obtain ⟨finished, idle⟩ := sound.rests nothing
  have hover {T : String} {x : Task} (now : t.session.tasks.lookup T = some x) :
      ∃ o, x = .finished o := finished T x now
  cases sound.loading loading with
  | crashed h => exact absurd runs h
  | refreshes ready => exact absurd ready (sound.not_ready _ _)
  | may h =>
    cases h with
    | loads loads => simp [idle] at loads
    | read last ended => exact .read last ended
    | untold last ended cancelled =>
      refine .untold last ended fun T mem => ?_
      -- whoever waited for the fetch is finished by now
      cases sound.enrolled T _ mem with
      | waits now _ _ | told now _ | released now | stopped now => cases (hover now).choose_spec
      | cancelled now => exact now
      | @done o r now _ =>
        obtain rfl := cancelled T mem o now
        exact now

/-- An input at rest that has the view redrawn puts the flag right. -/
theorem Sound.redraws_bar (sound : Sound t []) (nothing : t.session.pending = []) {i : Input}
    (redraws : i.Redraws t) (runs : (t.handle i).crash = none) :
    (t.handle i).bar.loading = false := by
  obtain ⟨-, idle⟩ := sound.rests nothing
  cases redraws with
  | @search text other =>
    simp only [Terminal.handle, if_neg other] at runs ⊢
    exact perform_change_bar (t := { t with search := text }) sound.serving
      (setFilter_changes _ text) idle runs
  | newLogin => exact perform_change_bar sound.serving (openForm_changes t) idle runs
  | cycleOrder => exact perform_change_bar sound.serving (setOrder_changes t _) idle runs

/-! ## Terminals that got one answer -/

/-- The client of a service on this machine, with the settings it comes with. -/
def localClient : Client :=
  ⟨⟨"http://localhost:3625", .whole 30, 100, by decide⟩, ""⟩

/-- The service answers with this text. -/
def answering (body : String) : Answer :=
  .response ⟨200, body.toUTF8.data.toList⟩

/-- A page of one login, which is all there is. -/
def onePage : Answer :=
  answering ("\x7b\"Data\":[\x7b\"ID\":1,\"URL\":\"u\",\"Username\":\"n\",\"Password\":\"p\"\x7d],"
    ++ "\"FilteredData\":1\x7d")

/-- A page of two logins whose identifiers differ but read alike. -/
def alikePage : Answer :=
  answering ("\x7b\"Data\":[\x7b\"ID\":1,\"URL\":\"u\",\"Username\":\"n\",\"Password\":\"p\"\x7d,"
    ++ "\x7b\"ID\":\"1\",\"URL\":\"v\",\"Username\":\"m\",\"Password\":\"q\"\x7d],"
    ++ "\"FilteredData\":2\x7d")

/-- The terminal after one answer, by as many turns as its session takes to settle. -/
theorem reached_answer {client : Client} {a : Answer} (n : Nat)
    (settled : (performIn n (opened client) [.respond 0 a]).isSome) :
    reached client [.answer 0 a]
      = (performIn n (opened client) [.respond 0 a]).getD (opened client) := by
  simp only [reached, List.foldl, handle, start_eq]
  exact perform_eq_getD settled

/-! ## How far it can be trusted -/

/-- However a terminal is used, its status bar can be trusted as far as this. -/
theorem reached_statusBar (client : Client) (inputs : List Input) :
    StatusBarHolds (reached client inputs) :=
  have sound := reached_sound client inputs
  { counts := fun nodup => sound.counts (grid_takes nodup)
    rests := sound.rests
    loading := sound.leftLoading
    redrawn := fun nothing _ redraws runs => sound.redraws_bar nothing redraws runs }

/-- The grid refuses the second of two rows whose identifiers read alike, so both logins are shown
by the view and held by the cache, but the status bar tells that there are none. -/
example :
    let t := reached localClient [.answer 0 alikePage]
    t.crash = none ∧ t.session.pending = []
      ∧ t.view.table.rows.length = 2 ∧ t.session.cache.snapshot.length = 2
      ∧ t.bar = ⟨false, 0, 0, ""⟩ := by
  intro t
  have hsettled : t = (performIn 4 (opened localClient) [.respond 0 alikePage]).getD
      (opened localClient) := reached_answer 4 (by decide +kernel)
  rw [hsettled]
  decide +kernel

/-- The first page is answered, and holds all there is. Nothing is pending then and nothing is
being loaded, but the status bar tells that logins are. -/
theorem loading_left_behind :
    let t := reached localClient [.answer 0 onePage]
    t.crash = none ∧ t.session.pending = []
      ∧ (∀ T x, t.session.tasks.lookup T = some x → ∃ o, x = .finished o)
      ∧ t.session.cache.isLoading = false
      ∧ t.bar = ⟨true, 1, 1, ""⟩ ∧ t.bar.activity = "[bold green]● loading[/bold green]" := by
  intro t
  have hsettled : t = (performIn 4 (opened localClient) [.respond 0 onePage]).getD
      (opened localClient) := reached_answer 4 (by decide +kernel)
  have hnothing : t.session.pending = [] := by
    rw [hsettled]
    decide +kernel
  obtain ⟨finished, idle⟩ := (reached_sound localClient [.answer 0 onePage]).rests hnothing
  refine ⟨?_, hnothing, finished, idle, ?_, ?_⟩
  · rw [hsettled]
    decide +kernel
  · rw [hsettled]
    decide +kernel
  · rw [hsettled]
    decide +kernel

end LoginVault.Terminal
