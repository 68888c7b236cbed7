import LoginVault.Proofs.Lookup.Protocol

/-!
# Lookup.Endings — where a flow comes to stand

A flow is rendered or failed in the end, as long as its tab and the store answer or fail as the
store does. Any other failure leaves it where the failure came up: at the tab, or at its query,
on whichever page. Nothing is rendered then, and since a flow runs once only, it stands there for
good.

Main results: `lookUp_ending` and `flow_left_behind`.
-/

namespace LoginVault

/-- Whether a failure is none of the store, so that a flow does not handle it. -/
def Failure.Escapes (f : Failure) : Prop := ∀ e, f ≠ .store e

/-- A failure is one of the store, or it escapes. -/
theorem Failure.store_or_escapes (f : Failure) : (∃ e, f = .store e) ∨ f.Escapes := by
  by_cases h : ∃ e, f = .store e
  · exact Or.inl h
  · exact Or.inr (not_exists.mp h)

/-! ## Failures of a search -/

namespace Script

variable {s : Script} {c : Client} {search : Option String} {f : Failure}

/-- The answer that makes a failure escape is a foreign fault. -/
theorem failsAt_escapes_iff {n i : Nat} (escapes : f.Escapes) :
    s.FailsAt search n i f
      ↔ ∃ kind message, s.answer i = .fault (.foreign kind message) ∧ f = .foreign kind message := by
  unfold FailsAt
  cases s.answer i with
  | response r =>
    cases hpage : r.page with
    | ok page => simp [Answer.result, hpage, Except.mapError]
    | error fault =>
      simp only [Answer.result, hpage, Except.mapError, Except.error.injEq]
      exact ⟨fun h => absurd h.symm (escapes _), by simp⟩
  | fault cause =>
    cases cause with
    | foreign kind message => simp [Answer.result, eq_comm]
    | timedOut stage message =>
      simp only [Answer.result, Except.error.injEq]
      exact ⟨fun h => absurd h.symm (escapes _), by simp⟩
    | network fault message =>
      simp only [Answer.result, Except.error.injEq]
      exact ⟨fun h => absurd h.symm (escapes _), by simp⟩

/-- What escapes from a list is the foreign fault of a page that it reaches, the first or a later
one. -/
theorem list_escapes_iff (escapes : f.Escapes) :
    (s.list c search).1 = .error f ↔ ∃ k kind message, s.Reaches c.config.pageSize k
      ∧ s.answer k = .fault (.foreign kind message) ∧ f = .foreign kind message := by
  constructor
  · intro hlist
    rcases s.exists_last search c.config.pageSize with ⟨k, reaches, ends | ⟨f', fails⟩⟩
    · rw [list_of_endsAt reaches ends] at hlist
      cases hlist
    · rw [list_of_failsAt reaches fails] at hlist
      obtain rfl : f' = f := Except.error.inj hlist
      rcases (failsAt_escapes_iff escapes).mp fails with ⟨kind, message, hanswer, hf⟩
      exact ⟨k, kind, message, reaches, hanswer, hf⟩
  · rintro ⟨k, kind, message, reaches, hanswer, rfl⟩
    have fails : s.FailsAt search c.config.pageSize k (.foreign kind message) :=
      (failsAt_escapes_iff escapes).mpr ⟨kind, message, hanswer, rfl⟩
    rw [list_of_failsAt reaches fails]

end Script

/-! ## What a flow seeks -/

/-- What a flow seeks: the address of the tab, and then the logins that the store finds for the
key of the address. An empty key finds none. -/
def sought (c : Client) (tab : Tab) (s : Script) : Except Failure (List Login) :=
  match tab.read with
  | .error f => .error f
  | .ok address =>
    if LookupKey.ofAddress address = "" then .ok []
    else (s.list c (some (LookupKey.ofAddress address))).1

section Sought

variable {c : Client} {tab : Tab} {s : Script} {f : Failure} {address : String}

theorem sought_of_unread (read : tab.read = .error f) : sought c tab s = .error f := by
  simp [sought, read]

theorem sought_of_no_key (read : tab.read = .ok address)
    (empty : LookupKey.ofAddress address = "") : sought c tab s = .ok [] := by
  simp [sought, read, empty]

theorem sought_of_key (read : tab.read = .ok address) (key : LookupKey.ofAddress address ≠ "") :
    sought c tab s = (s.list c (some (LookupKey.ofAddress address))).1 := by
  simp [sought, read, key]

/-- With an address, what escapes is the foreign fault of a page of the search for its key. -/
theorem sought_escapes_iff (read : tab.read = .ok address) (escapes : f.Escapes) :
    sought c tab s = .error f ↔ LookupKey.ofAddress address ≠ "" ∧ ∃ k kind message,
      s.Reaches c.config.pageSize k ∧ s.answer k = .fault (.foreign kind message)
        ∧ f = .foreign kind message := by
  by_cases key : LookupKey.ofAddress address = ""
  · simp [sought_of_no_key read key, key]
  · rw [sought_of_key read key, Script.list_escapes_iff escapes]
    simp [key]

/-- Short of foreign faults nothing escapes. -/
theorem sought_reportable (readable : Reportable tab.read) (ordinary : s.IsOrdinary) :
    Reportable (sought c tab s) := by
  cases read : tab.read with
  | error f =>
    obtain ⟨e, rfl⟩ := (read ▸ readable : Reportable (.error f)).exists_store
    rw [sought_of_unread read]
    exact .failure e
  | ok address =>
    by_cases key : LookupKey.ofAddress address = ""
    · rw [sought_of_no_key read key]
      exact .value []
    · rw [sought_of_key read key]
      exact ordinary.list _

end Sought

/-! ## The first run -/

/-- The steps that a flow can take from state to state. -/
inductive LookupState.Step : LookupState → LookupState → Prop
  | read : Step .idle .readingTab
  | normalize : Step .readingTab .normalizing
  | query : Step .normalizing .querying
  | render : Step .querying .rendered
  | noAddress : Step .readingTab .failed
  | noAnswer : Step .querying .failed

/-- Whether a run took the flow step by step from its first state to the one where it stands. -/
def LookupRun.IsPath (run : LookupRun) : Prop :=
  List.IsChain LookupState.Step (.idle :: run.entered) ∧ run.entered.getLast? = some run.state

/-- Whether a run called a renderer. -/
def LookupRun.Renders (run : LookupRun) : Prop := ∃ r state, (.rendered r, state) ∈ run.events

/-- A failure that a flow does not handle, and the state in which it comes up: the tab fails, or
a page of the search for the key of its address is answered by a foreign fault. -/
inductive Escape (c : Client) (tab : Tab) (s : Script) : LookupState → Failure → Prop
  | atTab {f : Failure} (read : tab.read = .error f) (escapes : f.Escapes) :
      Escape c tab s .readingTab f
  | atQuery {address : String} {k : Nat} {kind : ForeignFault} {message : String}
      (read : tab.read = .ok address) (key : LookupKey.ofAddress address ≠ "")
      (reaches : s.Reaches c.config.pageSize k)
      (answer : s.answer k = .fault (.foreign kind message)) :
      Escape c tab s .querying (.foreign kind message)

/-- These are the failures of what is sought that escape. -/
theorem exists_escape_iff {c : Client} {tab : Tab} {s : Script} {f : Failure} :
    (∃ state, Escape c tab s state f) ↔ sought c tab s = .error f ∧ f.Escapes := by
  constructor
  · rintro ⟨state, escape⟩
    cases escape with
    | atTab read escapes => exact ⟨sought_of_unread read, escapes⟩
    | @atQuery _ k kind message read key reaches answer =>
      have escapes : (Failure.foreign kind message).Escapes := fun e h => by cases h
      exact ⟨(sought_escapes_iff read escapes).mpr ⟨key, k, kind, message, reaches, answer, rfl⟩,
        escapes⟩
  · rintro ⟨failed, escapes⟩
    cases read : tab.read with
    | error f' =>
      obtain rfl : f' = f := by simpa [sought_of_unread read] using failed
      exact ⟨_, .atTab read escapes⟩
    | ok address =>
      obtain ⟨key, k, kind, message, reaches, answer, rfl⟩ :=
        (sought_escapes_iff read escapes).mp failed
      exact ⟨_, .atQuery read key reaches answer⟩

section Idle

variable {c : Client} {tab : Tab} {s : Script} {f : Failure}

/-- A flow that finds what it seeks goes through all its states and is rendered. -/
theorem lookUp_of_found {logins : List Login} (found : sought c tab s = .ok logins) :
    ∃ key events s', ∀ renderer, lookUp c tab renderer .idle s
      = .render renderer [.readingTab, .normalizing, .querying] events s'
        (.ofLogins key logins) := by
  cases read : tab.read with
  | error f => simp [sought_of_unread read] at found
  | ok address =>
    by_cases key : LookupKey.ofAddress address = ""
    · obtain rfl : [] = logins := by simpa [sought_of_no_key read key] using found
      exact ⟨_, _, _, fun _ => lookUp_of_no_key read key⟩
    · rw [sought_of_key read key] at found
      exact ⟨_, _, _, fun _ => lookUp_of_key read key (by rw [found]; rfl)⟩

/-- A flow fails as the store does, at the tab or at its query. -/
theorem lookUp_of_store_failure {e : StoreError} (failed : sought c tab s = .error (.store e)) :
    ∃ entered key events s',
      (entered = [.readingTab] ∨ entered = [.readingTab, .normalizing, .querying])
      ∧ ∀ renderer, lookUp c tab renderer .idle s
        = .render renderer entered events s' (.ofError key e) := by
  cases read : tab.read with
  | error f =>
    obtain rfl : f = .store e := by simpa [sought_of_unread read] using failed
    exact ⟨_, _, _, _, Or.inl rfl, fun _ => lookUp_of_no_address read⟩
  | ok address =>
    by_cases key : LookupKey.ofAddress address = ""
    · simp [sought_of_no_key read key] at failed
    · rw [sought_of_key read key] at failed
      exact ⟨_, _, _, _, Or.inr rfl, fun _ => lookUp_of_key read key (by rw [failed]; rfl)⟩

theorem ofQuery_of_escapes (key : String) (escapes : f.Escapes) :
    LookupResult.ofQuery key (.error f) = .error f := by
  cases f with
  | store e => exact absurd rfl (escapes e)
  | _ => rfl

/-- A failure of the tab that escapes leaves the flow at the tab. -/
theorem lookUp_of_tab_escape (read : tab.read = .error f) (escapes : f.Escapes)
    (renderer : Renderer) : lookUp c tab renderer .idle s
      = ⟨.error f, [.readingTab], .readingTab, [(.tabRead, .readingTab)], s⟩ := by
  simp [lookUp, read, ofQuery_of_escapes "" escapes, LookupRun.conclude]

/-- A failure of the search that escapes leaves the flow at its query. -/
theorem lookUp_of_query_escape {address : String} (read : tab.read = .ok address)
    (failed : sought c tab s = .error f) (escapes : f.Escapes) :
    ∃ s', ∀ renderer, lookUp c tab renderer .idle s
      = ⟨.error f, [.readingTab, .normalizing, .querying], .querying,
        (.tabRead, .readingTab) :: s.askedSince s', s'⟩ := by
  have key : LookupKey.ofAddress address ≠ "" := ((sought_escapes_iff read escapes).mp failed).1
  rw [sought_of_key read key] at failed
  refine ⟨(s.list c (some (LookupKey.ofAddress address))).2, fun renderer => ?_⟩
  simp [lookUp, read, key, failed, ofQuery_of_escapes _ escapes, LookupRun.conclude,
    Script.askedSince]

end Idle

/-! ## Where the flow stands -/

/-- A run of a flow: who asks, what its tab answers, how it is rendered, and what the store
answers. -/
structure Attempt where
  client : Client
  tab : Tab
  renderer : Renderer
  script : Script

/-- The runs of one flow, one after the other. -/
def lookUps (state : LookupState) : List Attempt → List LookupRun
  | [] => []
  | a :: rest =>
    let run := lookUp a.client a.tab a.renderer state a.script
    run :: lookUps run.state rest

/-- A flow that has left its first state stands where it is, however often it is run. -/
theorem lookUps_of_not_idle {state : LookupState} (left : state ≠ .idle)
    (attempts : List Attempt) : lookUps state attempts
      = attempts.map fun a => ⟨.error .secondRun, [], state, [], a.script⟩ := by
  induction attempts with
  | nil => rfl
  | cons a rest ih => simp [lookUps, lookUp_of_not_idle left, ih]

/-- A failure that escapes ends the run where it comes up, before anything is rendered. -/
theorem Escape.lookUp {c : Client} {tab : Tab} {s : Script} {state : LookupState} {f : Failure}
    (escape : Escape c tab s state f) : ∃ entered events s',
      (∀ renderer, lookUp c tab renderer .idle s = ⟨.error f, entered, state, events, s'⟩)
      ∧ LookupRun.IsPath ⟨.error f, entered, state, events, s'⟩
      ∧ ¬ LookupRun.Renders ⟨.error f, entered, state, events, s'⟩ := by
  have hsought := exists_escape_iff.mp ⟨state, escape⟩
  cases escape with
  | atTab read escapes =>
    refine ⟨_, _, _, lookUp_of_tab_escape read escapes, ⟨?_, rfl⟩, ?_⟩
    · exact .cons_cons .read (.singleton _)
    · simp [LookupRun.Renders]
  | atQuery read key reaches answer =>
    obtain ⟨s', hrun⟩ := lookUp_of_query_escape read hsought.1 hsought.2
    refine ⟨_, _, s', hrun, ⟨?_, rfl⟩, ?_⟩
    · exact .cons_cons .read (.cons_cons .normalize (.cons_cons .query (.singleton _)))
    · rintro ⟨r, state, hrendered⟩
      have hasked : (.rendered r, state) ∈ s.askedSince s' := by simpa using hrendered
      rcases List.mem_map.mp hasked with ⟨q, -, h⟩
      cases h

/-- Where the first run of a flow leaves it. -/
structure Ending (c : Client) (tab : Tab) (renderer : Renderer) (s : Script) (run : LookupRun) :
    Prop where
  /-- A flow that finds what it seeks is rendered. -/
  rendered : ∀ logins, sought c tab s = .ok logins → run.state = .rendered
  /-- A flow whose tab or search fails as the store does has failed. -/
  failed : ∀ e, sought c tab s = .error (.store e) → run.state = .failed
  /-- A failure that escapes leaves the flow where it came up. The run fails so, and renders
  nothing. -/
  left : ∀ state f, Escape c tab s state f →
    run.state = state ∧ run.ended = .error f ∧ ¬ run.Renders
  /-- In all other cases the flow comes to its end, and only in these. -/
  isTerminal_iff : run.state = .rendered ∨ run.state = .failed
    ↔ ¬ ∃ state f, Escape c tab s state f
  /-- The flow went step by step to where it stands. -/
  isPath : run.IsPath
  /-- Where it stands does not depend on the renderer, even if that fails. -/
  anyRenderer : ∀ renderer', (lookUp c tab renderer' .idle s).state = run.state
  /-- It stands there for good: it refuses to run again, however often and with whatever. -/
  stays : ∀ attempts, lookUps run.state attempts
    = attempts.map fun a => ⟨.error .secondRun, [], run.state, [], a.script⟩

section Ways

variable {c : Client} {tab : Tab} {renderer : Renderer} {s : Script}

/-- A run that has a result leaves the flow in the state of the result. -/
theorem ending_of_result {entered : List LookupState} {events : List (LookupEvent × LookupState)}
    {s' : Script} {r : LookupResult}
    (runs : ∀ renderer, lookUp c tab renderer .idle s = .render renderer entered events s' r)
    (chain : List.IsChain LookupState.Step (.idle :: (entered ++ [r.state])))
    (result : (∃ logins, sought c tab s = .ok logins) ∧ r.state = .rendered
      ∨ (∃ e, sought c tab s = .error (.store e)) ∧ r.state = .failed) :
    Ending c tab renderer s (lookUp c tab renderer .idle s) := by
  have handled : ∀ state f, ¬ Escape c tab s state f := by
    intro state f escape
    obtain ⟨hsought, escapes⟩ := exists_escape_iff.mp ⟨state, escape⟩
    rcases result with ⟨⟨logins, found⟩, -⟩ | ⟨⟨e, failed⟩, -⟩
    · simp [found] at hsought
    · exact escapes e (by simpa [failed] using hsought.symm)
  have hstate (renderer : Renderer) : (lookUp c tab renderer .idle s).state = r.state := by
    rw [runs, LookupRun.render_eq]
  have left : r.state ≠ .idle := by
    rcases result with ⟨-, h⟩ | ⟨-, h⟩
    · simp [h]
    · simp [h]
  exact {
    rendered := by
      intro logins found
      rw [hstate]
      rcases result with ⟨-, h⟩ | ⟨⟨e, failed⟩, -⟩
      · exact h
      · simp [failed] at found
    failed := by
      intro e failed
      rw [hstate]
      rcases result with ⟨⟨logins, found⟩, -⟩ | ⟨-, h⟩
      · simp [found] at failed
      · exact h
    left := fun state f escape => absurd escape (handled state f)
    isTerminal_iff := by
      rw [hstate]
      refine ⟨fun _ ⟨state, f, escape⟩ => handled state f escape, fun _ => ?_⟩
      exact result.imp And.right And.right
    isPath := by
      rw [runs, LookupRun.render_eq]
      exact ⟨chain, by simp⟩
    anyRenderer := fun renderer' => by rw [hstate, hstate]
    stays := fun attempts => lookUps_of_not_idle (by rw [hstate]; exact left) attempts }

/-- A run that a failure ends leaves the flow where the failure came up. -/
theorem ending_of_escape {state : LookupState} {f : Failure} (escape : Escape c tab s state f) :
    Ending c tab renderer s (lookUp c tab renderer .idle s) := by
  obtain ⟨entered, events, s', runs, isPath, silent⟩ := escape.lookUp
  obtain ⟨hsought, escapes⟩ := exists_escape_iff.mp ⟨state, escape⟩
  rw [runs]
  have standing : state = .readingTab ∨ state = .querying := by
    cases escape with
    | atTab => exact Or.inl rfl
    | atQuery => exact Or.inr rfl
  exact {
    rendered := by simp [hsought]
    failed := fun e failed => absurd (by simpa [hsought] using failed) (escapes e)
    left := by
      intro state' f' escape'
      -- only one failure comes up, and it does so in one state
      have hstate : state' = state := by
        obtain ⟨_, _, _, runs', -, -⟩ := escape'.lookUp
        have := (runs' renderer).symm.trans (runs renderer)
        exact congrArg LookupRun.state this
      have hf : f' = f := by
        have := (exists_escape_iff.mp ⟨state', escape'⟩).1.symm.trans hsought
        exact Except.error.inj this
      exact ⟨hstate.symm, by rw [hf], silent⟩
    isTerminal_iff := by
      refine ⟨fun h => ?_, fun h => absurd ⟨state, f, escape⟩ h⟩
      rcases standing with rfl | rfl
      · simp at h
      · simp at h
    isPath := isPath
    anyRenderer := fun renderer' => by rw [runs]
    stays := fun attempts => lookUps_of_not_idle
      (by rcases standing with rfl | rfl <;> simp) attempts }

end Ways

/-- Whatever the tab, the store and the renderer do, a flow comes to its end unless a failure
escapes that is none of the store. -/
theorem lookUp_ending (c : Client) (tab : Tab) (renderer : Renderer) (s : Script) :
    Ending c tab renderer s (lookUp c tab renderer .idle s) := by
  cases hsought : sought c tab s with
  | ok logins =>
    obtain ⟨key, events, s', runs⟩ := lookUp_of_found hsought
    refine ending_of_result runs ?_ (Or.inl ⟨⟨logins, hsought⟩, rfl⟩)
    exact .cons_cons .read (.cons_cons .normalize (.cons_cons .query
      (.cons_cons .render (.singleton _))))
  | error f =>
    rcases f.store_or_escapes with ⟨e, rfl⟩ | escapes
    · obtain ⟨entered, key, events, s', way, runs⟩ := lookUp_of_store_failure hsought
      refine ending_of_result runs ?_ (Or.inr ⟨⟨e, hsought⟩, rfl⟩)
      rcases way with rfl | rfl
      · exact .cons_cons .read (.cons_cons .noAddress (.singleton _))
      · exact .cons_cons .read (.cons_cons .normalize (.cons_cons .query
          (.cons_cons .noAnswer (.singleton _))))
    · obtain ⟨state, escape⟩ := exists_escape_iff.mpr ⟨hsought, escapes⟩
      exact ending_of_escape escape

/-- The host has no window, and a second page has no valid address: both runs fail so, the flows
are left at the tab and at the query, no renderer is called, and neither flow runs again. -/
theorem flow_left_behind :
    let client : Client := ⟨⟨"http://localhost:3625", .whole 30, 1, by decide⟩, ""⟩
    let page : Answer := .response
      ⟨200, "\x7b\"Data\":[\x7b\"ID\":1\x7d],\"FilteredData\":2\x7d".toUTF8.data.toList⟩
    let windowless : Failure := .foreign .runtime "no window"
    let unreached : RequestFault := .foreign .invalidUrl "bad"
    let s := Script.ofAnswers [page, .fault unreached]
    let tab : Tab := .address (some "https://example.com/")
    let atTab := lookUp client (.fails windowless) .takes .idle s
    let atQuery := lookUp client tab .takes .idle s
    (atTab.ended = .error windowless ∧ atTab.state = .readingTab
      ∧ atTab.events = [(.tabRead, .readingTab)])
    ∧ (atQuery.ended = .error (.foreign .invalidUrl "bad") ∧ atQuery.state = .querying
      ∧ atQuery.events.map Prod.snd = [.readingTab, .querying, .querying])
    ∧ (lookUp client tab .takes atTab.state s).ended = .error .secondRun
    ∧ (lookUp client tab .takes atQuery.state s).ended = .error .secondRun := by
  refine ⟨⟨rfl, rfl, rfl⟩, ⟨?_, ?_, ?_⟩, rfl, ?_⟩
  · decide +kernel
  · decide +kernel
  · decide +kernel
  · decide +kernel

end LoginVault
