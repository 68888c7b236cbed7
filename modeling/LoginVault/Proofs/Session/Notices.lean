import LoginVault.Proofs.Session.Followers
import LoginVault.Proofs.Session.Provenance

/-!
# Session.Notices — who is told of a snapshot

When a fetch succeeds, the snapshot is replaced first, and then those are told of it who follow
the cache at that moment, each once and in order (`State.Tells`). What a follower does when it is
told changes neither who is told after it, nor of what, nor how the fetch ends: a follower leaves
the notices of the others as they were (`notice_tell`), although it may edit the very list of
followers. Nothing else notifies a callback.

Main result: `reached_notifies`.
-/

namespace LoginVault

/-- Whether the entry is a call of a callback. -/
def Entry.isNotice : Entry → Bool
  | .notified _ _ => true
  | _ => false

/-- What a view becomes that is told of these rows: it shows them, and no failure any more. -/
def View.told (rows : List Login) (v : View) : View :=
  { v with lastError := none, table := v.table.setSnapshot rows }

/-- Only the rows of which a view was told last matter. -/
theorem View.told_told (first rows : List Login) (v : View) :
    (v.told first).told rows = v.told rows := rfl

namespace State

variable (s : State)

/-! ## One follower -/

/-- How a follower is called that is told of these rows, unless it is a view without an
observer. -/
def notice (rows : List Login) : Subscriber → Option Entry
  | .callback name => some (.notified name rows)
  | .view name =>
    (((s.withSnapshot rows).updateView name (View.told rows)).redrawing? name).map (.redrawn name)

/-- Whatever a callback does, it calls nobody and changes no view. -/
theorem act_sight (actions : List Action) :
    (s.act actions).1.called = s.called ∧ (s.act actions).1.views = s.views := by
  fun_induction act s actions with
  | case1 s => exact ⟨rfl, rfl⟩
  | case2 s rest => exact ⟨rfl, rfl⟩
  | case3 s name rest ih => exact ih
  | case4 s name rest ih => exact ih
  | case5 s task fresh rest next started hspawn after tasks hact ih =>
    rw [hact] at ih
    have hsame := s.spawn_sameSight task (.revalidate fresh)
    rw [hspawn] at hsame
    exact ⟨ih.1.trans hsame.called, ih.2.trans hsame.views⟩

theorem tell_called (x : Subscriber) :
    (s.tell x).1.called = s.called ++ (s.notice s.cache.snapshot x).toList := by
  cases x with
  | view name => exact s.change_called name _
  | callback name =>
    refine (act_sight _ _).1.trans ?_
    simp [called, note, notice, Entry.isCall]

theorem tell_lookup (x : Subscriber) (w : String) :
    (s.tell x).1.views.lookup w
      = if x = .view w then (s.views.lookup w).map (View.told s.cache.snapshot)
        else s.views.lookup w := by
  cases x with
  | view name =>
    have hviews : (s.tell (.view name)).1.views
        = s.views.update name (View.told s.cache.snapshot) := s.change_views name _
    rw [hviews, Named.lookup_update]
    by_cases hw : w = name
    · simp [hw]
    · simp [hw, Ne.symm hw]
  | callback name =>
    rw [if_neg (by simp)]
    exact congrArg (List.lookup w) (act_sight _ _).2

/-- Starting tasks does not change whether a fetch is in flight. -/
theorem Spawns.isLoading {s t : State} {names : List String} (h : Spawns s t names) :
    t.cache.isLoading = s.cache.isLoading := by
  have hrunning : t.cache.isRunning = s.cache.isRunning := by
    funext f
    exact (Cache.reads_congr h.fetches f).2.2.2
  simp only [Cache.isLoading, Cache.running?, h.inflight, hrunning]

/-- Whatever a follower does when it is told, the others are called as before. -/
theorem notice_tell (rows : List Login) (x y : Subscriber) :
    (s.tell x).1.notice rows y = s.notice rows y := by
  cases y with
  | callback name => rfl
  | view name =>
    refine congrArg (Option.map _) (redrawing?_congr ?_ rfl (s.tell_spawns x).isLoading)
    simp only [updateView, withSnapshot, Named.lookup_update, if_true, tell_lookup]
    split
    · -- a view that was told before shows these rows all the same
      cases s.views.lookup name with
      | none => rfl
      | some v => rfl
    · rfl

/-! ## All followers -/

theorem tellAll_called (xs : List Subscriber) :
    (s.tellAll xs).1.called = s.called ++ xs.filterMap (s.notice s.cache.snapshot) := by
  induction xs generalizing s with
  | nil => simp [tellAll]
  | cons x rest ih =>
    have hsnapshot : (s.tell x).1.cache.snapshot = s.cache.snapshot := (s.tell_spawns x).snapshot
    have hothers : (s.tell x).1.notice s.cache.snapshot = s.notice s.cache.snapshot := by
      funext y
      exact s.notice_tell _ x y
    have hrest := ih (s.tell x).1
    rw [hsnapshot, hothers, tell_called] at hrest
    refine hrest.trans ?_
    cases h : s.notice s.cache.snapshot x <;> simp [h]

theorem tellAll_lookup (xs : List Subscriber) (w : String) :
    (s.tellAll xs).1.views.lookup w
      = if .view w ∈ xs then (s.views.lookup w).map (View.told s.cache.snapshot)
        else s.views.lookup w := by
  induction xs generalizing s with
  | nil => simp [tellAll]
  | cons x rest ih =>
    have hsnapshot : (s.tell x).1.cache.snapshot = s.cache.snapshot := (s.tell_spawns x).snapshot
    refine (ih (s.tell x).1).trans ?_
    rw [hsnapshot, tell_lookup]
    by_cases hx : x = .view w
    · subst hx
      cases s.views.lookup w with
      | none => simp
      | some v => simp [View.told_told]
    · simp [hx, Ne.symm hx]

/-- The followers of this moment are told of these rows. -/
structure Tells (s s' : State) (rows : List Login) : Prop where
  /-- Each is called once, in order, with the rows; nobody else is called. -/
  called : s'.called = s.called ++ s.cache.subscribers.filterMap (s.notice rows)
  /-- When its turn comes, the cache holds the rows, whatever those before it have done. -/
  reads : ∀ first x rest, s.cache.subscribers = first ++ x :: rest →
    ((s.withSnapshot rows).tellAll first).1.cache.snapshot = rows
  /-- The views among them show the rows; the others are left as they were. -/
  views : ∀ w, s'.views.lookup w = if .view w ∈ s.cache.subscribers
    then (s.views.lookup w).map (View.told rows) else s.views.lookup w
  snapshot : s'.cache.snapshot = rows

theorem replaceSnapshot_tells (rows : List Login) : Tells s (s.replaceSnapshot rows).1 rows where
  called := by
    have hnotice : (s.withSnapshot rows).notice rows = s.notice rows := by
      funext x
      cases x with
      | callback name => rfl
      | view name => rfl
    have hcalled := (s.withSnapshot rows).tellAll_called s.cache.subscribers
    rw [show (s.withSnapshot rows).cache.snapshot = rows from rfl, hnotice] at hcalled
    exact hcalled
  reads first x rest _ := ((s.withSnapshot rows).tellAll_spawns first).snapshot
  views := (s.withSnapshot rows).tellAll_lookup s.cache.subscribers
  snapshot := ((s.withSnapshot rows).tellAll_spawns s.cache.subscribers).snapshot

/-! ## Notices in a turn -/

/-- Two states between which no callback was notified. -/
def Unnotified (s s' : State) : Prop :=
  s'.called.filter Entry.isNotice = s.called.filter Entry.isNotice

theorem Unnotified.of_called {s s' : State} (h : s'.called = s.called) : Unnotified s s' :=
  congrArg _ h

/-- To redraw a view notifies no callback. -/
theorem change_unnotified (view : String) (f : View → View) :
    Unnotified s (s.change view f).1 := by
  rw [Unnotified, change_called]
  cases (s.updateView view f).redrawing? view with
  | none => simp
  | some seen => simp [Entry.isNotice]

variable {s}

/-- No callback is notified by what a task does to views. -/
theorem ViewTurn.unnotified {r : Resumption} {mid : State} (work : ViewTurn s r mid) :
    Unnotified s mid := by
  cases work with
  | apart => exact .of_called rfl
  | mounted _ _ => exact .of_called (s.mount_called _)
  | unmounted _ => exact .of_called (s.unmount_called _)
  | formed _ => exact s.change_unnotified _ _
  | reported => exact s.change_unnotified _ _
  | @left view e _ =>
    have hunmount : Unnotified (s.report view e).1 ((s.report view e).1.unmount view) :=
      .of_called (unmount_called _ view)
    exact hunmount.trans (s.change_unnotified view _)

/-- No callback is notified by an event. -/
theorem EventSight.unnotified {s' : State} (sight : EventSight s s') : Unnotified s s' := by
  cases sight with
  | aside same => exact .of_called same.called
  | subscribed => exact .of_called rfl
  | unsubscribed => exact .of_called rfl
  | made => exact .of_called rfl
  | unmounted => exact .of_called (s.unmount_called _)
  | edited _ _ => exact s.change_unnotified _ _
  | formed _ => exact s.change_unnotified _ _

/-- The turn of a fetch that reads its last page. -/
theorem take_of_fetched {f : Nat} {rows : List Login}
    (fetched : s.fetched? (.page f) = some rows) :
    (s.take (.page f)).1 = { (s.replaceSnapshot rows).1 with
      cache := (s.replaceSnapshot rows).1.cache.setStage f (.finished (.ok rows)) } := by
  cases s.take_sight (.page f) with
  | resumed turn _ _ _ => cases turn
  | aside _ unfetched _ =>
    rw [fetched] at unfetched
    cases unfetched
  | @told g more turn read after =>
    obtain rfl : f = g := by simpa using turn
    obtain rfl : rows = more := by simpa using fetched.symm.trans read
    exact after

/-- A fetch that reads its last page succeeds with the rows that it has read. -/
theorem outcome?_of_fetched {f : Nat} {rows : List Login}
    (fetched : s.fetched? (.page f) = some rows) :
    s.cache.outcome? f = none ∧ (s.take (.page f)).1.cache.outcome? f = some (.ok rows) := by
  have hstage : ∃ p a, s.cache.stage? f = some (.answered p a) := by
    simp only [fetched?] at fetched
    split at fetched
    · exact ⟨_, _, ‹_›⟩
    · cases fetched
  obtain ⟨p, a, hstage⟩ := hstage
  have hrunning : s.cache.isRunning f = true := Cache.isRunning_of_stage hstage (by simp)
  have hspawns : Spawns (s.withSnapshot rows) (s.replaceSnapshot rows).1
      (s.replaceSnapshot rows).2 := tellAll_spawns _ _
  have hlt : f < (s.replaceSnapshot rows).1.cache.fetches.length := by
    rw [hspawns.fetches]
    exact Cache.lt_of_stage hstage
  refine ⟨(Cache.isRunning_iff.mp hrunning).2, ?_⟩
  rw [take_of_fetched fetched, Cache.outcome?_finish f _ hlt, if_pos rfl]

/-- A fetch succeeds only by reading its last page. -/
theorem fetched_of_outcome? {f : Nat} {rows : List Login}
    (before : s.cache.outcome? f ≠ some (.ok rows))
    (now : (s.take (.page f)).1.cache.outcome? f = some (.ok rows)) :
    s.fetched? (.page f) = some rows := by
  cases hf : s.cache.fetches[f]? with
  | none =>
    have hread : s.readFetch f = (s, [], none) := by simp [readFetch, hf]
    simp only [take, hread] at now
    exact absurd now before
  | some fetch =>
    rcases fetch with ⟨stage, waiting⟩
    have hstage : s.cache.stage? f = some stage := by simp [Cache.stage?, hf]
    cases stage with
    | answered p a =>
      have hrunning : s.cache.isRunning f = true := Cache.isRunning_of_stage hstage (by simp)
      cases hadvance : p.advance s.client.config.pageSize a with
      | error e =>
        simp only [take, readFetch, hf, hadvance, Cache.outcome?_finish f _ (Cache.lt_of_stage hstage),
          if_true] at now
        cases now
      | ok progress =>
        cases progress with
        | more next =>
          have hkept : (s.askPage f next).cache.outcome? f = s.cache.outcome? f :=
            Cache.outcome?_setStage f hrunning (by simp)
          simp only [take, readFetch, hf, hadvance, hkept] at now
          exact absurd now before
        | complete more =>
          have hfetched : s.fetched? (.page f) = some more := by simp [fetched?, hstage, hadvance]
          have hmore := (outcome?_of_fetched hfetched).2
          rw [now] at hmore
          obtain rfl : rows = more := by simpa using hmore
          exact hfetched
    | _ =>
      have hread : s.readFetch f = (s, [], none) := by simp [readFetch, hf]
      simp only [take, hread] at now
      exact absurd now before

end State

namespace Session

open State

variable {s : Session} {i : Input} {f : Nat} {rows : List Login}

/-- In this input the fetch `f` succeeds, and has read these rows. -/
def Succeeds (s : Session) (i : Input) (f : Nat) (rows : List Login) : Prop :=
  s.state.cache.outcome? f ≠ some (.ok rows)
    ∧ (s.advance i).state.cache.outcome? f = some (.ok rows)

/-- A fetch succeeds in a turn of its own, in which it reads its last page. -/
theorem succeeds_iff : s.Succeeds i f rows
    ↔ i = .turn ∧ s.queue.head? = some (.page f) ∧ s.state.fetched? (.page f) = some rows := by
  rcases s with ⟨s, q⟩
  constructor
  · rintro ⟨before, now⟩
    cases i with
    | event e =>
      -- no fetch reads a page where no turn is taken
      cases (apply_move s [] e).snapshot_move with
      | kept _ successes => exact absurd (successes f rows now) before
      | replaced head _ _ _ _ => cases head
    | turn =>
      cases (advance_move ⟨s, q⟩ .turn).snapshot_move with
      | kept _ successes => exact absurd (successes f rows now) before
      | @replaced g more head _ _ others _ =>
        by_cases hg : f = g
        · subst hg
          obtain ⟨rest, rfl⟩ := List.head?_eq_some_iff.mp head
          exact ⟨rfl, rfl, fetched_of_outcome? before now⟩
        · exact absurd ((others f hg).symm.trans now) before
  · rintro ⟨rfl, head, fetched⟩
    obtain ⟨rest, rfl⟩ := List.head?_eq_some_iff.mp head
    obtain ⟨before, now⟩ := outcome?_of_fetched fetched
    exact ⟨by simp [before], now⟩

/-- Whoever follows the cache when a fetch succeeds is told of its rows. -/
theorem Succeeds.tells (succeeds : s.Succeeds i f rows) :
    Tells s.state (s.advance i).state rows := by
  obtain ⟨rfl, head, fetched⟩ := succeeds_iff.mp succeeds
  rcases s with ⟨s, q⟩
  obtain ⟨rest, rfl⟩ := List.head?_eq_some_iff.mp head
  have htells := s.replaceSnapshot_tells rows
  rw [advance_turn_cons, take_of_fetched fetched]
  exact ⟨htells.called, htells.reads, htells.views, htells.snapshot⟩

/-- Where no fetch succeeds, no callback is notified. -/
theorem advance_unnotified (failing : ∀ f rows, ¬ s.Succeeds i f rows) :
    Unnotified s.state (s.advance i).state := by
  cases i with
  | event e => exact (s.state.apply_sight e).unnotified
  | turn =>
    rcases s with ⟨s, q⟩
    cases q with
    | nil => exact .of_called rfl
    | cons t rest =>
      rw [advance_turn_cons]
      cases s.take_sight t with
      | aside same _ _ => exact .of_called same.called
      | resumed _ _ work after => exact (Unnotified.of_called after.called).trans work.unnotified
      | @told f rows turn fetched _ =>
        subst turn
        exact absurd (succeeds_iff.mpr ⟨rfl, rfl, fetched⟩) (failing f rows)

/-- By what law the followers of a session are told of snapshots, after these calls to follow the
cache or to follow it no longer. -/
structure Notifies (calls : List FollowerCall) (s : Session) : Prop where
  /-- The followers stand in the order in which they were last added, each once. -/
  lists : Lists calls s.state.cache.subscribers
  /-- A fetch that has read its last page succeeds, whatever its followers do. -/
  succeeds : ∀ f rows, s.queue.head? = some (.page f) → s.state.fetched? (.page f) = some rows →
    s.Succeeds .turn f rows
  /-- Those who follow the cache when a fetch succeeds are told of its rows, each once and in
  order, whatever they do. -/
  tells : ∀ i f rows, s.Succeeds i f rows → Tells s.state (s.advance i).state rows
  /-- Otherwise no callback is notified. -/
  silent : ∀ i, (∀ f rows, ¬ s.Succeeds i f rows) →
    (s.advance i).state.called.filter Entry.isNotice = s.state.called.filter Entry.isNotice

/-- In every reachable session the followers are told of each snapshot by this law. -/
theorem reached_notifies (client : Client) (inputs : List Input) :
    Notifies ((start client).history inputs) (reached client inputs) where
  lists := reached_lists client inputs
  succeeds _ _ head fetched := succeeds_iff.mpr ⟨rfl, head, fetched⟩
  tells _ _ _ succeeds := succeeds.tells
  silent _ failing := advance_unnotified failing

/-- A callback that takes another one away, adds a third and then fails: all that follow the cache
are told this time, and the next snapshot is told to those that follow it then. -/
theorem reached_notifies_while_edited :
    let client : Client := ⟨⟨"http://localhost:3625", .whole 30, 100, by decide⟩, ""⟩
    let row := "\x7b\"ID\":1,\"URL\":\"u\",\"Username\":\"n\",\"Password\":\"p\"\x7d"
    let page : Answer := .response
      ⟨200, ("\x7b\"Data\":[" ++ row ++ "],\"FilteredData\":1\x7d").toUTF8.data.toList⟩
    let rows : List Login := [⟨.number 1, "u", "n", "p"⟩]
    let edits : List Action := [.unsubscribe "b", .subscribe "c", .fail, .unsubscribe "a"]
    let fetch (task : String) : List Input := [.event (.spawn task (.revalidate false)), .turn,
      .turn, .event (.respond 0 page)] ++ List.replicate 4 .turn
    let first : List Input := [.event (.subscribe "a" edits), .event (.subscribe "b" [])]
      ++ fetch "first"
    let second := first ++ fetch "second"
    Notifies ((start client).history second) (reached client second)
      ∧ (start client).history first = [.subscribe (.callback "a"), .subscribe (.callback "b"),
        .unsubscribe (.callback "b"), .subscribe (.callback "c")]
      ∧ (reached client first).state.called = [.notified "a" rows, .notified "b" rows]
      ∧ (reached client first).state.cache.subscribers = [.callback "a", .callback "c"]
      ∧ (reached client second).state.called
        = [.notified "a" rows, .notified "b" rows, .notified "a" rows, .notified "c" rows] := by
  refine ⟨reached_notifies _ _, ?_, ?_, ?_, ?_⟩
  · decide +kernel
  · decide +kernel
  · decide +kernel
  · decide +kernel

end Session

end LoginVault
