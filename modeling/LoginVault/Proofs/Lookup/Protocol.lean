import LoginVault.Lookup
import LoginVault.Proofs.Paging.Failures
import LoginVault.Proofs.Paging.Reference

/-!
# Lookup.Protocol — a flow runs once, and asks for its key only

A flow that comes to know an address goes through all its states, one that does not fails at
once. All that it asks of the store is a search for its key, and for an empty key it asks
nothing. It ends with a result, in the state of the result; a renderer is called once, then, and
with this result. After that the flow refuses to run.

Main result: `lookUp_protocol`.
-/

namespace LoginVault

namespace Script

variable {s : Script} {c : Client} {search : Option String}

/-- A list sends nothing but searches, after what was sent before. -/
theorem list_sent (s : Script) (c : Client) (search : Option String) :
    ∃ asked, (s.list c search).2.sent = s.sent ++ asked
      ∧ ∀ r ∈ asked, ∃ offset, r.query = .page search c.config.pageSize offset := by
  have hafter (k : Nat) : ∃ asked, (s.after c search k).sent = s.sent ++ asked
      ∧ ∀ r ∈ asked, ∃ offset, r.query = .page search c.config.pageSize offset := by
    refine ⟨_, rfl, fun r hr => ?_⟩
    rcases List.mem_map.mp hr with ⟨j, -, rfl⟩
    exact ⟨s.offset j, rfl⟩
  rcases s.exists_last search c.config.pageSize with ⟨k, reaches, ends | ⟨f, fails⟩⟩
  · rw [list_of_endsAt reaches ends]
    exact hafter k
  · rw [list_of_failsAt reaches fails]
    exact hafter k

end Script

/-! ## Results -/

namespace LookupResult

/-- A result is one of logins, or one of a failure and of nothing else. -/
inductive IsFinal (r : LookupResult) : Prop
  | rendered (state : r.state = .rendered) (error : r.error = none)
      (outcome : r.outcome = if r.logins = [] then .noMatch else .found) : IsFinal r
  | failed {e : StoreError} (state : r.state = .failed) (error : r.error = some e)
      (logins : r.logins = [])
      (outcome : r.outcome = if e.errorClass = .noActiveTab then .noActiveTab else .failure) :
      IsFinal r

theorem isFinal_ofLogins (key : String) (logins : List Login) : (ofLogins key logins).IsFinal := by
  refine .rendered rfl rfl ?_
  cases logins with
  | nil => rfl
  | cons l rest => rfl

theorem isFinal_ofError (key : String) (e : StoreError) : (ofError key e).IsFinal :=
  .failed rfl rfl rfl rfl

/-- A search that gives logins or a failure of the store makes a result of either. -/
theorem ofQuery_of_reportable (key : String) {found : Except Failure (List Login)}
    (reportable : Reportable found) :
    ∃ r, ofQuery key found = .ok r ∧ r.IsFinal
      ∧ ((∃ logins, found = .ok logins ∧ r = .ofLogins key logins)
        ∨ ∃ e, found = .error (.store e) ∧ r = .ofError key e) := by
  cases reportable with
  | value logins => exact ⟨_, rfl, isFinal_ofLogins _ _, Or.inl ⟨logins, rfl, rfl⟩⟩
  | failure e => exact ⟨_, rfl, isFinal_ofError _ _, Or.inr ⟨e, rfl, rfl⟩⟩

theorem IsFinal.not_idle {r : LookupResult} (h : r.IsFinal) : r.state ≠ .idle := by
  cases h with
  | rendered state _ _ => simp [state]
  | failed state _ _ _ => simp [state]

end LookupResult

/-! ## The end of a run -/

/-- The calls of a renderer with this result. -/
def Renderer.calls (renderer : Renderer) (r : LookupResult) : List (LookupEvent × LookupState) :=
  if renderer = .absent then [] else [(.rendered r, r.state)]

/-- How a run ends that has this result. -/
def Renderer.ends (renderer : Renderer) (r : LookupResult) : Except Failure LookupResult :=
  if renderer = .fails then .error .rendering else .ok r

/-- With every renderer the flow first enters the state of the result. -/
theorem LookupRun.render_eq (renderer : Renderer) (entered : List LookupState)
    (events : List (LookupEvent × LookupState)) (s : Script) (r : LookupResult) :
    LookupRun.render renderer entered events s r
      = ⟨renderer.ends r, entered ++ [r.state], r.state, events ++ renderer.calls r, s⟩ := by
  cases renderer with
  | absent => rfl
  | takes => rfl
  | fails => rfl

/-- The requests that were sent after those of `s`, each as an event of a query. -/
def Script.askedSince (s s' : Script) : List (LookupEvent × LookupState) :=
  (s'.sent.drop s.sent.length).map fun r => (.asked r, .querying)

section Idle

variable {c : Client} {tab : Tab} {renderer : Renderer} {s : Script}

/-- Without an address the flow fails as the tab did. -/
theorem lookUp_of_no_address {e : StoreError} (read : tab.read = .error (.store e)) :
    lookUp c tab renderer .idle s
      = .render renderer [.readingTab] [(.tabRead, .readingTab)] s (.ofError "" e) := by
  simp [lookUp, read, LookupResult.ofQuery, LookupRun.conclude]

/-- With an address whose key is empty the flow finds nothing. -/
theorem lookUp_of_no_key {address : String} (read : tab.read = .ok address)
    (empty : LookupKey.ofAddress address = "") :
    lookUp c tab renderer .idle s
      = .render renderer [.readingTab, .normalizing, .querying] [(.tabRead, .readingTab)] s
        (.ofLogins "" []) := by
  simp [lookUp, read, empty, LookupResult.ofQuery, LookupRun.conclude]

/-- With an address that has a key the flow ends as the search for the key. -/
theorem lookUp_of_key {address : String} (read : tab.read = .ok address)
    (key : LookupKey.ofAddress address ≠ "") {r : LookupResult}
    (result : LookupResult.ofQuery (LookupKey.ofAddress address)
      (s.list c (some (LookupKey.ofAddress address))).1 = .ok r) :
    lookUp c tab renderer .idle s
      = .render renderer [.readingTab, .normalizing, .querying]
        ((.tabRead, .readingTab) :: s.askedSince (s.list c (some (LookupKey.ofAddress address))).2)
        (s.list c (some (LookupKey.ofAddress address))).2 r := by
  simp [lookUp, read, key, result, LookupRun.conclude, Script.askedSince]

/-- The result of a flow does not depend on the renderer. A result with logins has a key. -/
theorem lookUp_render (c : Client) (readable : Reportable tab.read) (ordinary : s.IsOrdinary) :
    ∃ entered events s' r, r.IsFinal ∧ (r.logins ≠ [] → r.key ≠ "")
      ∧ ∀ renderer, lookUp c tab renderer .idle s = .render renderer entered events s' r := by
  cases hread : tab.read with
  | error f =>
    obtain ⟨e, rfl⟩ := (hread ▸ readable : Reportable (.error f)).exists_store
    exact ⟨_, _, _, _, LookupResult.isFinal_ofError "" e, fun h => absurd rfl h,
      fun _ => lookUp_of_no_address hread⟩
  | ok address =>
    by_cases hkey : LookupKey.ofAddress address = ""
    · exact ⟨_, _, _, _, LookupResult.isFinal_ofLogins "" [], fun h => absurd rfl h,
        fun _ => lookUp_of_no_key hread hkey⟩
    · rcases LookupResult.ofQuery_of_reportable (LookupKey.ofAddress address)
        (ordinary.list (c := c) (some (LookupKey.ofAddress address)))
        with ⟨r, hresult, hfinal, hkeyed⟩
      have hrkey : r.key = LookupKey.ofAddress address := by
        rcases hkeyed with ⟨logins, -, rfl⟩ | ⟨e, -, rfl⟩
        · rfl
        · rfl
      exact ⟨_, _, _, r, hfinal, fun _ => hrkey ▸ hkey,
        fun _ => lookUp_of_key hread hkey hresult⟩

end Idle

/-! ## The protocol -/

/-- What the first run of a flow does, and with which result. -/
structure FirstRun (c : Client) (tab : Tab) (renderer : Renderer) (s : Script) (run : LookupRun)
    (r : LookupResult) : Prop where
  /-- Without an address the flow fails as the tab did, with an empty key, and asks nothing. -/
  unread : ∀ e, tab.read = .error (.store e) →
    r = .ofError "" e ∧ run.entered = [.readingTab, .failed] ∧ run.script = s
  /-- With an address it goes through all its states. -/
  entered : ∀ address, tab.read = .ok address →
    run.entered = [.readingTab, .normalizing, .querying, r.state]
  /-- For an empty key it asks nothing and finds nothing. -/
  unkeyed : ∀ address, tab.read = .ok address → LookupKey.ofAddress address = "" →
    r = .ofLogins "" [] ∧ run.script = s
  /-- For any other key it ends as the search of the store for this key: with the logins that the
  search finds, or with its failure. -/
  keyed : ∀ address, tab.read = .ok address → LookupKey.ofAddress address ≠ "" →
    run.script = (s.list c (some (LookupKey.ofAddress address))).2
      ∧ ((∃ logins, (s.list c (some (LookupKey.ofAddress address))).1 = .ok logins
          ∧ r = .ofLogins (LookupKey.ofAddress address) logins)
        ∨ ∃ e, (s.list c (some (LookupKey.ofAddress address))).1 = .error (.store e)
          ∧ r = .ofError (LookupKey.ofAddress address) e)
  /-- Every request that it sends is a search for the key of the address, which is not empty. -/
  searches : ∃ asked, run.script.sent = s.sent ++ asked ∧ ∀ q ∈ asked, ∃ address offset,
    tab.read = .ok address ∧ LookupKey.ofAddress address ≠ ""
      ∧ q.query = .page (some (LookupKey.ofAddress address)) c.config.pageSize offset
  /-- The result is one of logins or one of a failure, and its outcome says which. -/
  isFinal : r.IsFinal
  /-- The run returns the result, unless the renderer fails. -/
  ended : run.ended = renderer.ends r
  /-- The flow is left in the state of the result, even if the renderer fails. -/
  state : run.state = r.state
  /-- The tab is read, then the requests are sent, and then the renderer is called with the
  result, once, in the state of the result. -/
  events : run.events = (.tabRead, .readingTab) :: s.askedSince run.script ++ renderer.calls r
  /-- After that the flow refuses to run: nothing is entered, read, asked or rendered. -/
  again : ∀ c' tab' renderer' s',
    lookUp c' tab' renderer' run.state s' = ⟨.error .secondRun, [], run.state, [], s'⟩

/-- A flow that has left its first state refuses to run. -/
theorem lookUp_of_not_idle {state : LookupState} (left : state ≠ .idle) (c : Client) (tab : Tab)
    (renderer : Renderer) (s : Script) :
    lookUp c tab renderer state s = ⟨.error .secondRun, [], state, [], s⟩ := by
  simp [lookUp, left]

section Ways

variable {c : Client} {tab : Tab} {renderer : Renderer} {s : Script}

theorem again_of_isFinal {run : LookupRun} {r : LookupResult} (isFinal : r.IsFinal)
    (state : run.state = r.state) (c' : Client) (tab' : Tab) (renderer' : Renderer) (s' : Script) :
    lookUp c' tab' renderer' run.state s' = ⟨.error .secondRun, [], run.state, [], s'⟩ :=
  lookUp_of_not_idle (state ▸ isFinal.not_idle) c' tab' renderer' s'

/-- The first run of a flow whose tab has no address. -/
theorem firstRun_of_no_address {e : StoreError} (read : tab.read = .error (.store e)) :
    FirstRun c tab renderer s (lookUp c tab renderer .idle s) (.ofError "" e) := by
  have hfinal := LookupResult.isFinal_ofError "" e
  rw [lookUp_of_no_address read, LookupRun.render_eq]
  exact {
    unread := by
      intro e' h
      obtain rfl : e = e' := by simpa [read] using h
      exact ⟨rfl, rfl, rfl⟩
    entered := by simp [read]
    unkeyed := by simp [read]
    keyed := by simp [read]
    searches := ⟨[], by simp, by simp⟩
    isFinal := hfinal
    ended := rfl
    state := rfl
    events := by simp [Script.askedSince]
    again := again_of_isFinal hfinal rfl }

/-- The first run of a flow whose tab has an address with an empty key. -/
theorem firstRun_of_no_key {address : String} (read : tab.read = .ok address)
    (key : LookupKey.ofAddress address = "") :
    FirstRun c tab renderer s (lookUp c tab renderer .idle s) (.ofLogins "" []) := by
  have hfinal := LookupResult.isFinal_ofLogins "" []
  rw [lookUp_of_no_key read key, LookupRun.render_eq]
  exact {
    unread := by simp [read]
    entered := fun _ _ => rfl
    unkeyed := fun _ _ _ => ⟨rfl, rfl⟩
    keyed := by
      intro other h absurdly
      obtain rfl : address = other := by simpa [read] using h
      exact absurd key absurdly
    searches := ⟨[], by simp, by simp⟩
    isFinal := hfinal
    ended := rfl
    state := rfl
    events := by simp [Script.askedSince]
    again := again_of_isFinal hfinal rfl }

/-- The first run of a flow whose tab has an address with a key: it ends as the search does, in one
of two ways. -/
theorem firstRun_of_key {address : String} (read : tab.read = .ok address)
    (key : LookupKey.ofAddress address ≠ "") (ordinary : s.IsOrdinary) :
    ∃ r, FirstRun c tab renderer s (lookUp c tab renderer .idle s) r := by
  obtain ⟨r, hresult, hfinal, hkeyed⟩ : ∃ r,
      LookupResult.ofQuery (LookupKey.ofAddress address)
        (s.list c (some (LookupKey.ofAddress address))).1 = .ok r ∧ r.IsFinal
      ∧ ((∃ logins, (s.list c (some (LookupKey.ofAddress address))).1 = .ok logins
          ∧ r = .ofLogins (LookupKey.ofAddress address) logins)
        ∨ ∃ e, (s.list c (some (LookupKey.ofAddress address))).1 = .error (.store e)
          ∧ r = .ofError (LookupKey.ofAddress address) e) :=
    LookupResult.ofQuery_of_reportable _ (ordinary.list _)
  rw [lookUp_of_key read key hresult, LookupRun.render_eq]
  refine ⟨r, ?_⟩
  exact {
    unread := by simp [read]
    entered := fun _ _ => rfl
    unkeyed := by
      intro other h absurdly
      obtain rfl : address = other := by simpa [read] using h
      exact absurd absurdly key
    keyed := by
      intro other h _
      obtain rfl : address = other := by simpa [read] using h
      exact ⟨rfl, hkeyed⟩
    searches := by
      rcases s.list_sent c (some (LookupKey.ofAddress address)) with ⟨asked, hsent, hasked⟩
      refine ⟨asked, hsent, fun q hq => ?_⟩
      rcases hasked q hq with ⟨offset, hquery⟩
      exact ⟨address, offset, read, key, hquery⟩
    isFinal := hfinal
    ended := rfl
    state := rfl
    events := rfl
    again := again_of_isFinal hfinal rfl }

end Ways

/-- Whatever the tab and the store answer, short of foreign faults, and whatever the renderer
does, the first run of a flow keeps to its protocol. -/
theorem lookUp_protocol (c : Client) (tab : Tab) (renderer : Renderer) (s : Script)
    (readable : Reportable tab.read) (ordinary : s.IsOrdinary) :
    ∃ r, FirstRun c tab renderer s (lookUp c tab renderer .idle s) r := by
  cases hread : tab.read with
  | error f =>
    obtain ⟨e, rfl⟩ := (hread ▸ readable : Reportable (.error f)).exists_store
    exact ⟨.ofError "" e, firstRun_of_no_address hread⟩
  | ok address =>
    by_cases hkey : LookupKey.ofAddress address = ""
    · exact ⟨.ofLogins "" [], firstRun_of_no_key hread hkey⟩
    · exact firstRun_of_key hread hkey ordinary

/-- The second page of a search runs out of time, and the renderer fails. The flow has failed
with the key, keeps nothing of the first page, and does not run again. -/
theorem lookUp_protocol_second_page :
    let client : Client := ⟨⟨"http://localhost:3625", .whole 30, 1, by decide⟩, ""⟩
    let tab : Tab := .address (some "https://example.com/login")
    let page : Answer := .response
      ⟨200, "\x7b\"Data\":[\x7b\"ID\":1\x7d],\"FilteredData\":2\x7d".toUTF8.data.toList⟩
    let late : RequestFault := .timedOut .reading ""
    let query (offset : Nat) : Query := .page (some "example.com") 1 offset
    let s := Script.ofAnswers [page, .fault late]
    let run := lookUp client tab .fails .idle s
    let result := LookupResult.ofError "example.com" (.transport ⟨query 1, late⟩)
    (∃ r, FirstRun client tab .fails s run r)
      ∧ run.entered = [.readingTab, .normalizing, .querying, .failed]
      ∧ run.events = [(.tabRead, .readingTab), (.asked (client.request (query 0)), .querying),
        (.asked (client.request (query 1)), .querying), (.rendered result, .failed)]
      ∧ run.state = .failed
      ∧ (lookUp client tab .takes run.state s).events = [] := by
  intro client tab page late query s run result
  have readable : Reportable tab.read := .value "https://example.com/login"
  have ordinary : s.IsOrdinary := by
    intro a ha kind message
    obtain rfl | rfl : a = page ∨ a = .fault late := by simpa [s, Script.ofAnswers] using ha
    · simp [page]
    · simp [late]
  refine ⟨lookUp_protocol _ _ _ _ readable ordinary, ?_, ?_, ?_, ?_⟩
  · decide +kernel
  · decide +kernel
  · decide +kernel
  · decide +kernel

end LoginVault
