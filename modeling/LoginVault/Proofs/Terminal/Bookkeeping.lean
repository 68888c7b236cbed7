import LoginVault.Proofs.Session.Rest
import LoginVault.Proofs.Terminal.Following

/-!
# Terminal.Bookkeeping — what holds between the inputs of a terminal

The session of a terminal serves its view, all tasks in it have names of the terminal, and the
terminal attends to each of them until it gives it up. So it learns of every failure of a fetch
(`Terminal.Sound`), and its status bar tells the right numbers whenever the grid takes all rows.

`Sound.turn` says that this outlives a turn, and `Sound.handle` that it outlives an input.
-/

namespace LoginVault

/-! ## Tasks under way -/

/-- Whether a task is under way that was not cancelled. -/
def Task.isActive : Task → Bool
  | .ready .cancelled | .finished _ => false
  | _ => true

/-- Whether a task of this name is under way that was not cancelled. -/
def State.Active (s : State) (T : String) : Prop :=
  ∃ x, s.tasks.lookup T = some x ∧ x.isActive = true

theorem Resumption.IsOwn.isActive {r : Resumption} (own : r.IsOwn) :
    (Task.ready r).isActive = true := by
  cases r <;> first | rfl | exact own.elim

theorem Resumption.Joins.isActive {r : Resumption} {p : Purpose} (joins : r.Joins p) :
    (Task.ready r).isActive = true := by
  cases r <;> first | rfl | exact joins.elim

/-- No move makes a task active again. -/
theorem Session.TaskMove.active {s s' : Session} {T : String} (move : TaskMove s s' T)
    (active : s'.state.Active T) : s.state.Active T ∨ s.state.tasks.lookup T = none := by
  obtain ⟨x, now, active⟩ := active
  have hbefore {y : Task} (before : s.state.tasks.lookup T = some y) (h : y.isActive = true) :
      s.state.Active T ∨ s.state.tasks.lookup T = none := Or.inl ⟨y, before, h⟩
  have hnow {y : Task} (now' : s'.state.tasks.lookup T = some y) : y.isActive = true := by
    obtain rfl : y = x := by simpa using now'.symm.trans now
    exact active
  cases move with
  | kept same => exact hbefore (same.symm.trans now) active
  | started new _ _ => exact Or.inr new
  | overtaken _ now' _ | cancelled _ now' _ | finished _ _ now' => cases hnow now'
  | answered waiting _ _ | told waiting _ _ _ | released waiting _ _ _ _ =>
    exact hbefore waiting rfl
  | asked ready why _ _ | superseded ready why _ _ _ _ => exact hbefore ready why.isActive
  | joined ready why _ _ _ => exact hbefore ready why.isActive

namespace State

theorem cancel_journal (s : State) (T : String) : (s.cancel T).1.journal = s.journal := by
  unfold State.cancel
  split <;> rfl

theorem cancel_unused {s : State} {T U : String} (new : s.tasks.lookup U = none) :
    (s.cancel T).1.tasks.lookup U = none := by
  have hU {x : Task} (used : s.tasks.lookup T = some x) : U ≠ T := by
    rintro rfl
    simp [new] at used
  unfold State.cancel
  split
  · rename_i r ready
    simp [hU ready, new]
  · rename_i w waiting
    simp [hU waiting, new]
  · exact new

/-- A task that was cancelled is not active. -/
theorem cancel_inactive (s : State) (T : String) : ¬ (s.cancel T).1.Active T := by
  rintro ⟨x, now, active⟩
  unfold State.cancel at now
  split at now
  · obtain rfl : Task.ready .cancelled = x := by simpa using now
    cases active
  · obtain rfl : Task.ready .cancelled = x := by simpa using now
    cases active
  · rename_i unready unwaiting
    cases x with
    | ready r => exact unready r now
    | waiting w => exact unwaiting w now
    | finished o => cases active

theorem spawn_journal (s : State) (T : String) (c : Call) :
    (s.spawn T c).1.journal = s.journal := by
  unfold State.spawn
  split <;> rfl

end State

namespace Terminal

open State Session

/-! ## The books -/

/-- The names of tasks are all different. -/
theorem taskName_injective {j k : Nat} (h : s!"task {j}" = s!"task {k}") : j = k := by
  have hdigits : Nat.toDigits 10 j = Nat.toDigits 10 k := by
    simpa [toString, Nat.repr] using congrArg String.toList h
  have hnumber := congrArg (Nat.ofDigitChars 10 · 0) hdigits
  simpa [Nat.ofDigitChars_toDigits] using hnumber

/-- Why the status bar may tell that logins are being loaded: the terminal has crashed, or a flag
of the cache may say so, or a refresh is about to begin. -/
inductive Excused (t : Terminal) : Prop
  | crashed (h : t.crash ≠ none)
  | may (h : t.session.MayShowLoading)
  | refreshes {T v : String}
      (ready : t.session.tasks.lookup T = some (.ready (.begin (.refresh v))))

/-- What the terminal keeps right while these turns are to come. -/
structure Sound (t : Terminal) (q : List Turn) : Prop where
  reached : ∃ client inputs, Session.reached client inputs = ⟨t.session, q⟩
  serving : t.session.Serving viewName
  named : ∀ T, t.session.tasks.lookup T ≠ none → ∃ k < t.started, T = s!"task {k}"
  attends : ∀ T, t.session.Active T → t.Attends T
  counts : Observer.grid.fault? t.view.table.rows = none →
    t.bar.shown = t.view.table.rows.length ∧ t.bar.total = t.session.cache.snapshot.length
  loading : t.bar.loading = true → t.Excused

section Sound

variable {t u : Terminal} {q : List Turn}

theorem Sound.inv (sound : Sound t q) : Inv ⟨t.session, q⟩ := by
  obtain ⟨client, inputs, reached⟩ := sound.reached
  exact reached ▸ reached_inv client inputs

theorem Sound.enrolled (sound : Sound t q) : Enrolled ⟨t.session, q⟩ := by
  obtain ⟨client, inputs, reached⟩ := sound.reached
  exact reached ▸ reached_enrolled client inputs

theorem Sound.reached_next (sound : Sound t q) (i : LoginVault.Input) :
    ∃ client inputs, Session.reached client inputs = Session.advance ⟨t.session, q⟩ i := by
  obtain ⟨client, inputs, reached⟩ := sound.reached
  exact ⟨client, inputs ++ [i], by rw [reached_concat, reached]⟩

/-- What does not touch the session is sound if the terminal still attends to all active tasks. -/
theorem Sound.congr (sound : Sound t q) (session : u.session = t.session)
    (started : u.started = t.started) (bar : u.bar = t.bar)
    (crash : t.crash ≠ none → u.crash ≠ none)
    (attends : ∀ T, t.session.Active T → t.Attends T → u.Attends T) : Sound u q := by
  have hview : u.view = t.view := view_congr session
  refine ⟨session ▸ sound.reached, session ▸ sound.serving, ?_, ?_, ?_, fun loading => ?_⟩
  · rw [session, started]
    exact sound.named
  · rw [session]
    exact fun T active => attends T active (sound.attends T active)
  · rw [hview, session, bar]
    exact sound.counts
  · cases sound.loading (bar ▸ loading) with
    | crashed h => exact .crashed (crash h)
    | may h => exact .may (session ▸ h)
    | refreshes ready => exact .refreshes (session ▸ ready)

/-- What excuses the flag of the status bar excuses it after a move of the session, unless the
status bar is drawn anew. -/
theorem Sound.excused_next (sound : Sound t q) {q' : List Turn}
    (move : Move ⟨t.session, q⟩ ⟨u.session, q'⟩) (crash : t.crash ≠ none → u.crash ≠ none)
    (refreshes : ∀ T v, t.session.tasks.lookup T = some (.ready (.begin (.refresh v))) →
      u.session.tasks.lookup T = some (.ready (.begin (.refresh v)))
        ∨ u.session.cache.isLoading = true)
    (told : ∀ T, TellsFailure ⟨t.session, q⟩ ⟨u.session, q'⟩ T → u.crash ≠ none ∨ u.Current)
    (excused : t.Excused) : u.Excused ∨ u.Current := by
  cases excused with
  | crashed h => exact Or.inl (.crashed (crash h))
  | refreshes ready =>
    rcases refreshes _ _ ready with kept | loads
    · exact Or.inl (.refreshes kept)
    · exact Or.inl (.may (.loads loads))
  | may h =>
    rcases mayShowLoading_step sound.inv sound.enrolled move h with may | ⟨T, tells⟩
    · exact Or.inl (.may may)
    · exact (told T tells).imp_left .crashed

/-- An input of the session of which notes are written keeps the terminal sound that follows. -/
theorem Sound.next (sound : Sound t q) {s' : State} {q' : List Turn} {n : Notes}
    (i : LoginVault.Input)
    (advance : Session.advance ⟨t.session, q⟩ i = ⟨s', q'⟩)
    (noted : Noted t.session s' viewName n) (absorbs : Absorbs t u s' n)
    (unused : ∀ T, t.session.tasks.lookup T = none → s'.tasks.lookup T = none)
    (refreshes : ∀ T v, t.session.tasks.lookup T = some (.ready (.begin (.refresh v))) →
      s'.tasks.lookup T = some (.ready (.begin (.refresh v))) ∨ s'.cache.isLoading = true) :
    Sound u q' := by
  have hmove : Move ⟨t.session, q⟩ ⟨s', q'⟩ := advance ▸ advance_move _ i
  obtain rfl : u.session = s' := absorbs.follows.session
  have hactive (T : String) (active : u.session.Active T) : t.session.Active T := by
    refine ((hmove.task_move T).active active).resolve_right fun new => ?_
    obtain ⟨x, now, -⟩ := active
    simp [unused T new] at now
  have hnamed (T : String) (used : u.session.tasks.lookup T ≠ none) :
      ∃ k < u.started, T = s!"task {k}" := by
    rw [absorbs.follows.started]
    exact sound.named T fun new => used (unused T new)
  have hattends (T : String) (active : u.session.Active T) : u.Attends T := by
    rcases absorbs.follows.attends T (sound.attends T (hactive T active)) with kept | ⟨o, ended⟩
    · exact kept
    · -- a task that has ended is not active
      obtain ⟨x, now, hx⟩ := active
      obtain rfl : Task.finished o = x := by simpa [noted.ended _ ended] using now
      cases hx
  have hsound (counts : Observer.grid.fault? u.view.table.rows = none →
        u.bar.shown = u.view.table.rows.length ∧ u.bar.total = u.session.cache.snapshot.length)
      (loading : u.bar.loading = true → u.Excused) : Sound u q' :=
    ⟨advance ▸ sound.reached_next i, noted.serving, hnamed, hattends, counts, loading⟩
  have hcurrent (current : u.Current) : Sound u q' :=
    hsound (fun _ => ⟨current.shown, current.total⟩) fun loading => .may (current.loading loading)
  rcases absorbs.follows.bar with bar | current
  · by_cases hstale : u.Current
    · exact hcurrent hstale
    -- the status bar was not drawn anew, as the view was not, or the grid refused its rows
    refine hsound (fun filled => ?_) fun loading => ?_
    · cases hseen : n.seen? with
      | none =>
        obtain ⟨views, snapshot⟩ := noted.unseen hseen
        have hview : u.view = t.view := by simp only [view, views]
        rw [hview] at filled
        rw [hview, snapshot, bar]
        exact sound.counts filled
      | some seen =>
        obtain ⟨x, hlookup, hrows⟩ := Option.map_eq_some_iff.mp (noted.seen seen hseen).rows
        rw [view_eq_of_lookup hlookup, hrows] at filled
        exact absurd (absorbs.seen seen hseen filled) hstale
    · refine (sound.excused_next hmove absorbs.follows.crash refreshes (fun T tells => ?_)
        (sound.loading (bar ▸ loading))).resolve_right hstale
      -- whoever is told of a failure is attended to
      obtain ⟨f, p, e, ready, failed⟩ := tells.told
      obtain ⟨o, finished⟩ := tells.finished
      rcases noted.told T f p e o ready failed finished with ⟨seen, hseen, filled⟩ | ⟨g, ended⟩
      · exact Or.inr (absorbs.seen seen hseen filled)
      · exact absorbs.failed T g ended (sound.attends T ⟨_, ready, rfl⟩)
  · exact hcurrent current

/-! ## Turns -/

theorem Sound.turn {x : Turn} (sound : Sound t (x :: q)) :
    (t.absorb (t.session.take x).1).session = (t.session.take x).1
      ∧ Sound (t.absorb (t.session.take x).1) (q ++ (t.session.take x).2) := by
  obtain ⟨n, noted⟩ := sound.serving.noted sound.inv
  have habsorbs := absorb_absorbs noted
  refine ⟨habsorbs.follows.session, sound.next .turn (advance_turn_cons _ _ _) noted habsorbs
    (fun T => sound.serving.take_unused x) fun T v ready => ?_⟩
  by_cases hturn : x = .task T
  · -- a refresh begins to wait for a fetch
    have hresume : t.session.resume T = t.session.awaitFetch T .outcome := by
      simp [State.resume, ready, State.begin, State.revalidate]
    subst hturn
    have hwaits : BeginsToWait t.session (t.session.resume T).1 viewName T :=
      hresume ▸ awaitFetch_waits T .outcome
    exact Or.inr hwaits.loads
  · exact Or.inl (sound.serving.take_ready x ready hturn)

/-- When no turn is left, the terminal is still sound. -/
theorem Sound.settled (sound : Sound t q) :
    Sound (Session.settleWith (fun t _ s => t.absorb s) t t.session q).1 [] :=
  settled_keeps (fun _ _ _ sound => sound.turn) sound

theorem perform_sound (t : Terminal) (events : List Event)
    (sound : Sound (t.applyAll events).1 (t.applyAll events).2) : Sound (t.perform events) [] :=
  sound.settled

/-! ## Events -/

/-- At rest no task has a turn coming. -/
theorem Sound.not_ready (sound : Sound t []) (T : String) (r : Resumption) :
    t.session.tasks.lookup T ≠ some (.ready r) :=
  sound.inv.not_ready rfl r

/-- An event of which notes are written, at rest, and which starts no task. -/
theorem Sound.event (sound : Sound t []) {e : Event} {n : Notes}
    (noted : Noted t.session (t.session.apply e).state viewName n)
    (unused : ∀ T, t.session.tasks.lookup T = none →
      (t.session.apply e).state.tasks.lookup T = none) :
    Sound (t.absorb (t.session.apply e).state) (t.session.apply e).turns :=
  sound.next (.event e) rfl noted (absorb_absorbs noted) unused
    fun T _ ready => absurd ready (sound.not_ready T _)

/-- Whether all that this event does to the session is to change the view. -/
structure ChangesView (t : Terminal) (e : Event) (f : View → View) : Prop where
  kept : KeepsObserver f
  apply : t.session.apply e
    = ⟨(t.session.change viewName f).1, [], (t.session.change viewName f).2⟩

/-- What a terminal makes of a change of its view: it draws what is to be seen, and crashes if its
grid does not take the rows. -/
theorem perform_change (serving : t.session.Serving viewName) {e : Event} {f : View → View}
    (changes : ChangesView t e f) :
    ∃ s' fault seen, (t.session.apply e).state = s' ∧ Seeing t.session s' viewName fault seen
      ∧ t.absorb s' = redraw { t with session := s' } seen
      ∧ t.perform [e] = match fault with
        | none => t.absorb s'
        | some g => (t.absorb s').crashed (.handler g) := by
  obtain ⟨kept, apply⟩ := changes
  cases hchange : t.session.change viewName f with
  | mk s' fault =>
    rw [hchange] at apply
    obtain ⟨seen, seeing⟩ := serving.change kept hchange
    refine ⟨s', fault, seen, by rw [apply], seeing, absorb_notes seeing.noted, ?_⟩
    cases fault with
    | none => simp only [perform, applyAll, apply, List.append_nil, Session.settleWith]
    | some g => simp only [perform, applyAll, apply, Session.settleWith]

theorem setFilter_changes (t : Terminal) (text : String) :
    ChangesView t (.setFilter viewName text)
      fun v => { v with table := v.table.setFilter text } :=
  ⟨fun _ => rfl, rfl⟩

theorem setOrder_changes (t : Terminal) (order : Option SortOrder) :
    ChangesView t (.setOrder viewName (order.map (·.name)))
      fun v => { v with table := v.table.setOrder order } := by
  refine ⟨fun _ => rfl, ?_⟩
  cases order with
  | none => rfl
  | some order => cases order <;> rfl

theorem openForm_changes (t : Terminal) :
    ChangesView t (.openForm viewName) fun v => { v with form := .opened } :=
  ⟨fun _ => rfl, rfl⟩

theorem closeForm_changes (t : Terminal) :
    ChangesView t (.closeForm viewName) fun v => { v with form := .closed } :=
  ⟨fun _ => rfl, rfl⟩

/-- A change of the view at rest. -/
theorem Sound.change (sound : Sound t []) {e : Event} {f : View → View}
    (changes : ChangesView t e f) : Sound (t.perform [e]) [] := by
  obtain ⟨s', fault, seen, state, seeing, -, performed⟩ := perform_change sound.serving changes
  have hafter : Sound (t.absorb s') [] := by
    have hevent := sound.event (e := e) (n := ⟨some seen, [], none⟩)
    rw [state, show (t.session.apply e).turns = [] by rw [changes.apply]] at hevent
    exact hevent seeing.noted fun T new => by rw [seeing.tasks, new]
  rw [performed]
  cases fault with
  | none => exact hafter
  | some g => exact hafter.congr rfl rfl rfl (fun _ => crashed_ne_none _ _) fun _ _ h => h

/-- An answer of the store at rest. -/
theorem Sound.answered (sound : Sound t []) (index : Nat) (a : Answer) :
    Sound (t.perform [.respond index a]) [] := by
  obtain ⟨quiet, wakes⟩ := sound.serving.respond_quiet index a
  obtain ⟨queries, noted⟩ := quiet.noted sound.serving wakes.readies
  have hunused (T : String) (new : t.session.tasks.lookup T = none) :
      (t.session.respond index a).1.tasks.lookup T = none := by
    rcases wakes T with same | ⟨wait, r, waiting, -, -⟩
    · exact same.trans new
    · simp [new] at waiting
  have hafter : Sound (t.absorb (t.session.respond index a).1) (t.session.respond index a).2 :=
    sound.event (e := .respond index a) noted hunused
  refine perform_sound t _ ?_
  simpa [applyAll, State.apply] using hafter

/-- The session after the task is cancelled that is given up, and the turns to come. -/
def giveUp (s : State) : Option String → State × List Turn
  | some T => s.cancel T
  | none => (s, [])

theorem applyAll_giveUp (t : Terminal) (old : Option String) (events : List Event) :
    t.applyAll (old.toList.map Event.cancel ++ events)
      = let r := giveUp t.session old
        let after := ({ t with session := r.1 } : Terminal).applyAll events
        (after.1, r.2 ++ after.2) := by
  cases old with
  | none => rfl
  | some T =>
    simp only [Option.toList_some, List.map_cons, List.map_nil, List.cons_append, List.nil_append,
      applyAll, State.apply, absorb_silent (cancel_journal t.session T), giveUp]

/-- A terminal that gives up a task is sound, and the task is no longer active. -/
theorem Sound.givenUp (sound : Sound t []) (old : Option String) :
    Sound { t with session := (giveUp t.session old).1 } (giveUp t.session old).2
      ∧ Unnoticed t.session (giveUp t.session old).1
      ∧ ∀ T, old = some T → ¬ (giveUp t.session old).1.Active T := by
  cases old with
  | none => exact ⟨sound, .refl _, by simp⟩
  | some T =>
    obtain ⟨quiet, readies⟩ := cancel_quiet (w := viewName) (s := t.session) T
    obtain ⟨queries, noted⟩ := quiet.noted sound.serving readies
    have hafter := sound.event (e := .cancel T) noted fun U new => cancel_unused new
    rw [State.apply, absorb_silent (cancel_journal t.session T)] at hafter
    refine ⟨hafter, quiet, ?_⟩
    rintro _ ⟨⟩
    exact cancel_inactive t.session T

/-! ## New tasks -/

theorem Sound.nextTask_unused (sound : Sound t q) :
    t.session.tasks.lookup t.nextTask = none := by
  cases h : t.session.tasks.lookup t.nextTask with
  | none => rfl
  | some x =>
    obtain ⟨k, lt, name⟩ := sound.named t.nextTask (by simp [h])
    have hk := taskName_injective name
    omega

theorem Sound.spawn_eq (sound : Sound t q) (c : Call) : t.session.spawn t.nextTask c
    = (t.session.setTask t.nextTask (.ready (.begin c)), true) := by
  simp [State.spawn, sound.nextTask_unused]

/-- A terminal that starts a task and attends to it is sound. -/
theorem Sound.spawned (sound : Sound t q) {c : Call} (found : (Resumption.begin c).Serves viewName)
    (session : u.session = (t.session.spawn t.nextTask c).1) (started : u.started = t.started + 1)
    (crash : t.crash ≠ none → u.crash ≠ none)
    (attends : ∀ T, t.session.Active T → t.Attends T → u.Attends T) (new : u.Attends t.nextTask)
    (bar : u.bar = t.bar ∨ (∃ v, c = .refresh v) ∧ u.bar.shown = t.view.table.rows.length
      ∧ u.bar.total = t.session.cache.snapshot.length) :
    Sound u (q ++ [.task t.nextTask]) := by
  have hunused := sound.nextTask_unused
  have hspawn := sound.spawn_eq c
  have hadvance : Session.advance ⟨t.session, q⟩ (.event (.spawn t.nextTask c))
      = ⟨u.session, q ++ [.task t.nextTask]⟩ := by
    simp [Session.advance, Session.apply, State.apply, hspawn, session]
  obtain ⟨quiet, readies⟩ := spawn_quiet (s := t.session) t.nextTask found
  obtain ⟨queries, noted⟩ := quiet.noted sound.serving readies
  rw [hspawn] at session noted
  have hlookup (T : String) : u.session.tasks.lookup T
      = if T = t.nextTask then some (.ready (.begin c)) else t.session.tasks.lookup T := by
    rw [session]
    exact lookup_setTask t.session t.nextTask T _
  have hview : u.view = t.view := by
    simp only [view, session]
    rfl
  have hsnapshot : u.session.cache.snapshot = t.session.cache.snapshot := by rw [session]; rfl
  refine ⟨hadvance ▸ sound.reached_next _, session ▸ noted.serving, fun T used => ?_,
    fun T active => ?_, fun filled => ?_, fun loading => ?_⟩
  · by_cases hT : T = t.nextTask
    · exact ⟨t.started, by omega, hT⟩
    · rw [hlookup, if_neg hT] at used
      obtain ⟨k, lt, name⟩ := sound.named T used
      exact ⟨k, by omega, name⟩
  · by_cases hT : T = t.nextTask
    · exact hT ▸ new
    · rw [State.Active, hlookup, if_neg hT] at active
      exact attends T active (sound.attends T active)
  · -- the status bar is as before, or was written for the refresh that begins
    rw [hview] at filled
    rw [hview, hsnapshot]
    rcases bar with bar | ⟨-, shown, total⟩
    · exact bar ▸ sound.counts filled
    · exact ⟨shown, total⟩
  · rcases bar with bar | ⟨⟨v, rfl⟩, -, -⟩
    · have hmove : Move ⟨t.session, q⟩ ⟨u.session, q ++ [.task t.nextTask]⟩ :=
        hadvance ▸ advance_move _ _
      refine (sound.excused_next hmove crash (fun T v ready => ?_) (fun T tells => ?_)
        (sound.loading (bar ▸ loading))).elim id fun current => .may (current.loading loading)
      · have hT : T ≠ t.nextTask := by
          rintro rfl
          simp [hunused] at ready
        exact Or.inl (by rw [hlookup, if_neg hT, ready])
      · -- nobody finishes here
        obtain ⟨f, p, e, ready, failed⟩ := tells.told
        obtain ⟨o, finished⟩ := tells.finished
        rw [session] at finished
        simpa using noted.told T f p e o ready failed finished
    · exact .refreshes (T := t.nextTask) (v := v) (by rw [hlookup, if_pos rfl])

theorem applyAll_spawn (t : Terminal) (T : String) (c : Call) :
    t.applyAll [.spawn T c] = ({ t with session := (t.session.spawn T c).1 },
      if (t.session.spawn T c).2 then [.task T] else []) := by
  simp only [applyAll, State.apply, absorb_silent (spawn_journal t.session T c), List.append_nil]

/-- One task is given up and another started. -/
theorem Sound.applyAll_replaced (sound : Sound t []) (c : Call) (old : Option String)
    (session : u.session = t.session) :
    u.applyAll (old.toList.map Event.cancel ++ [.spawn t.nextTask c])
      = ({ u with session := (giveUp t.session old).1.setTask t.nextTask (.ready (.begin c)) },
        (giveUp t.session old).2 ++ [.task t.nextTask]) := by
  obtain ⟨hgiven, -, -⟩ := sound.givenUp old
  have hspawn : (giveUp t.session old).1.spawn t.nextTask c
      = ((giveUp t.session old).1.setTask t.nextTask (.ready (.begin c)), true) :=
    hgiven.spawn_eq c
  simp only [applyAll_giveUp, applyAll_spawn, session]
  simp only [hspawn, if_true]

/-- A task takes the place of another. -/
theorem Sound.replaced (sound : Sound t []) {c : Call} (old : Option String)
    (found : (Resumption.begin c).Serves viewName) (session : u.session = t.session)
    (started : u.started = t.started + 1) (crash : u.crash = t.crash)
    (attends : ∀ T, old ≠ some T → t.Attends T → u.Attends T) (new : u.Attends t.nextTask)
    (bar : u.bar = t.bar ∨ (∃ v, c = .refresh v) ∧ u.bar.shown = t.view.table.rows.length
      ∧ u.bar.total = t.session.cache.snapshot.length) :
    Sound (u.perform (old.toList.map Event.cancel ++ [.spawn t.nextTask c])) [] := by
  obtain ⟨hgiven, quiet, hold⟩ := sound.givenUp old
  let r := giveUp t.session old
  have hview : ({ t with session := r.1 } : Terminal).view = t.view := by
    simp only [view, r, quiet.views]
  have hspawned : Sound { u with session := r.1.setTask t.nextTask (.ready (.begin c)) }
      (r.2 ++ [.task t.nextTask]) := by
    refine hgiven.spawned (c := c) found ?_ started (fun h => crash ▸ h)
      (fun T active attended => ?_) new ?_
    · exact (congrArg Prod.fst (hgiven.spawn_eq c)).symm
    · refine attends T ?_ attended
      rintro rfl
      exact hold T rfl active
    · exact bar.imp_right fun h => ⟨h.1, hview ▸ h.2.1, quiet.snapshot ▸ h.2.2⟩
  refine perform_sound u _ ?_
  rw [sound.applyAll_replaced c old session]
  exact hspawned

/-! ## Inputs -/

theorem Sound.refresh (sound : Sound t []) : Sound t.refresh [] := by
  have hearlier : (t.loader.toList.map fun p => Event.cancel p.2)
      = (t.loader.map (·.2)).toList.map Event.cancel := by
    cases t.loader <;> rfl
  simp only [Terminal.refresh, load, hearlier]
  refine sound.replaced _ .refresh rfl rfl rfl (fun T other attended => ?_)
    (Or.inl ⟨.refresh, rfl⟩) (Or.inr ⟨⟨_, rfl⟩, rfl, rfl⟩)
  rcases attended with ⟨loader, loads⟩ | saves
  · simp [loads] at other
  · exact Or.inr saves

/-- Another dialog that waits for the same task can take the place of the topmost. -/
theorem attends_of_top {d d' : Dialog} {rest : List Dialog} {T : String}
    (dialogs : t.dialogs = d :: rest) (attended : t.Attends T) (loader : u.loader = t.loader)
    (dialogs' : u.dialogs = d' :: rest)
    (save : d.save = some T → d'.save = some T) : u.Attends T := by
  rcases attended with loads | ⟨e, mem, saves⟩
  · exact Or.inl (loader ▸ loads)
  · rw [dialogs] at mem
    refine Or.inr ?_
    rw [dialogs']
    rcases List.mem_cons.mp mem with rfl | mem
    · exact ⟨d', List.mem_cons_self, save saves⟩
    · exact ⟨e, List.mem_cons_of_mem _ mem, saves⟩

theorem Sound.submit (sound : Sound t []) : Sound t.submit [] := by
  unfold Terminal.submit
  split
  · exact sound
  · rename_i d rest hdialogs
    simp only
    split
    · refine sound.congr rfl rfl rfl id fun T _ attended => ?_
      exact attends_of_top hdialogs attended rfl rfl id
    · refine sound.replaced d.save .submit rfl rfl rfl (fun T other attended => ?_)
        (Or.inr ⟨_, List.mem_cons_self, rfl⟩) (Or.inl rfl)
      exact attends_of_top hdialogs attended rfl rfl fun saves => absurd saves other

/-- A change of the view leaves the dialogs as they are. -/
theorem perform_change_dialogs (serving : t.session.Serving viewName) {e : Event} {f : View → View}
    (changes : ChangesView t e f) : (t.perform [e]).dialogs = t.dialogs := by
  obtain ⟨s', fault, seen, -, -, drawn, performed⟩ := perform_change serving changes
  have hdrawn : (t.absorb s').dialogs = t.dialogs := by
    rw [drawn, redraw]
    split <;> rfl
  rw [performed]
  cases fault with
  | none => exact hdrawn
  | some g => exact hdrawn

theorem Sound.dismiss (sound : Sound t []) : Sound t.dismiss [] := by
  -- the form is closed first, and then the save of the topmost dialog is given up
  unfold Terminal.dismiss
  split
  · exact sound
  · rename_i d rest hdialogs
    have hclosed : Sound (t.perform [.closeForm viewName]) [] :=
      sound.change (closeForm_changes t)
    have hkept : (t.perform [.closeForm viewName]).dialogs = d :: rest := by
      rw [perform_change_dialogs sound.serving (closeForm_changes t), hdialogs]
    simp only
    generalize t.perform [.closeForm viewName] = u at hclosed hkept
    obtain ⟨hgiven, -, hold⟩ := hclosed.givenUp d.save
    refine perform_sound _ _ ?_
    have happly := applyAll_giveUp { u with dialogs := rest } d.save []
    simp only [List.append_nil] at happly
    simp only [happly, applyAll, List.append_nil]
    refine hgiven.congr rfl rfl rfl id fun T active attended => ?_
    rcases attended with loads | ⟨e, mem, saves⟩
    · exact Or.inl loads
    · have hmem : e ∈ d :: rest := hkept ▸ mem
      rcases List.mem_cons.mp hmem with rfl | hmem
      · exact absurd active (hold T saves)
      · exact Or.inr ⟨e, hmem, saves⟩

/-- Every input keeps the terminal sound. -/
theorem Sound.handle (sound : Sound t []) (i : Terminal.Input) : Sound (t.handle i) [] := by
  have hsame {u : Terminal} (session : u.session = t.session) (started : u.started = t.started)
      (bar : u.bar = t.bar) (crash : u.crash = t.crash) (attends : ∀ T, t.Attends T → u.Attends T) :
      Sound u [] :=
    sound.congr session started bar (fun h => crash ▸ h) fun T _ => attends T
  cases i with
  | answer index a => exact sound.answered index a
  | search text =>
    simp only [Terminal.handle]
    split
    · exact sound
    · have hsearch : Sound { t with search := text } [] := hsame rfl rfl rfl rfl fun _ h => h
      exact hsearch.change (setFilter_changes _ text)
  | refresh => exact sound.refresh
  | newLogin =>
    have hopened : Sound (t.perform [.openForm viewName]) [] :=
      sound.change (openForm_changes t)
    refine hopened.congr rfl rfl rfl id fun T _ attended => ?_
    exact attended.imp_right fun ⟨d, mem, saves⟩ => ⟨d, List.mem_cons_of_mem _ mem, saves⟩
  | cycleOrder =>
    exact sound.change (setOrder_changes t _)
  | togglePasswords =>
    simp only [Terminal.handle, Terminal.togglePasswords]
    split
    · exact sound.congr rfl rfl rfl (fun _ => crashed_ne_none _ _) fun _ _ h => h
    · exact hsame rfl rfl rfl rfl fun _ h => h
  | fill url username password =>
    simp only [Terminal.handle]
    split
    · exact sound
    · rename_i d rest hdialogs
      refine hsame rfl rfl rfl rfl fun T attended => ?_
      exact attends_of_top hdialogs attended rfl rfl id
  | enter => exact sound.submit
  | save =>
    simp only [Terminal.handle]
    split
    · exact sound
    · exact sound.submit
  | dismiss => exact sound.dismiss

end Sound

end Terminal

end LoginVault
