import LoginVault.Proofs.Session.Repeats
import LoginVault.Proofs.Terminal.Dialogs

/-!
# Terminal.Grid — what the grid shows

The grid takes the rows of the view one by one, each under the text of its identifier, and stops at
the first whose text it has already. Identifiers differ, but a number reads like the text that
spells it, so the grid shows all rows exactly if there is no such pair among them. As long as no
fetch has read such a pair, every redraw succeeds, and none ends the terminal.

`Drawn.handle` says that the grid follows the view through every input. Main results:
`reached_grid`, and `row_left_out` for a page with such a pair.
-/

namespace LoginVault

/-! ## Identifiers that read alike -/

theorem nat_of_repr_eq {n m : Nat} (h : n.repr = m.repr) : n = m := by
  have hdigits : Nat.toDigits 10 n = Nat.toDigits 10 m := by
    rw [← Nat.toList_repr, ← Nat.toList_repr, h]
  rw [← @Nat.ofDigitChars_ten_toDigits n, hdigits, Nat.ofDigitChars_ten_toDigits]

/-- No digit is a minus. -/
theorem repr_ne_minus (n m : Nat) : n.repr ≠ "-" ++ m.repr := by
  intro h
  have hminus : '-' ∈ Nat.toDigits 10 n := by
    rw [← Nat.toList_repr, h]
    simp
  have hdigit := Nat.isDigit_of_mem_toDigits (by decide) (by decide) hminus
  cases hdigit

/-- Different numbers have different texts. -/
theorem int_repr_inj {n m : Int} : n.repr = m.repr ↔ n = m := by
  refine ⟨fun h => ?_, fun h => h ▸ rfl⟩
  cases n with
  | ofNat n =>
    cases m with
    | ofNat m => rw [nat_of_repr_eq h]
    | negSucc m => exact absurd h (repr_ne_minus n m.succ)
  | negSucc n =>
    cases m with
    | ofNat m => exact absurd h.symm (repr_ne_minus m n.succ)
    | negSucc m =>
      -- the minus is the same, so the digits are
      have hrepr : n.succ.repr = m.succ.repr := by simpa [Int.repr] using h
      rw [Nat.succ.inj (nat_of_repr_eq hrepr)]

/-- Two identifiers read alike if they are the same, or a number and the text that spells it. -/
theorem LoginId.text_eq_iff (a b : LoginId) : a.text = b.text ↔ a = b
    ∨ ∃ n : Int, (a = .number n ∧ b = .name (toString n))
      ∨ (b = .number n ∧ a = .name (toString n)) := by
  cases a with
  | number n =>
    cases b with
    | number m => simp [LoginId.text, int_repr_inj]
    | name s => simp [LoginId.text, eq_comm]
  | name s =>
    cases b with
    | number m => simp [LoginId.text]
    | name s' => simp [LoginId.text]

/-- Whether a number and the text that spells it are both identifiers of these logins. -/
def ReadAlike (logins : List Login) : Prop :=
  ∃ n : Int, .number n ∈ logins.map (·.id) ∧ .name (toString n) ∈ logins.map (·.id)

/-- The texts of different identifiers differ, unless two of them read alike. -/
theorem nodup_texts_iff {logins : List Login} (ids : (logins.map (·.id)).Nodup) :
    (logins.map (·.id.text)).Nodup ↔ ¬ ReadAlike logins := by
  have htexts : logins.map (·.id.text) = (logins.map (·.id)).map LoginId.text := by simp
  rw [htexts]
  constructor
  · rintro nodup ⟨n, number, name⟩
    have hsame := List.inj_on_of_nodup_map nodup number name rfl
    cases hsame
  · intro unlike
    refine List.Nodup.map_on (fun a ha b hb alike => ?_) ids
    rcases (LoginId.text_eq_iff a b).mp alike with same | ⟨n, ⟨rfl, rfl⟩ | ⟨rfl, rfl⟩⟩
    · exact same
    · exact absurd ⟨n, ha, hb⟩ unlike
    · exact absurd ⟨n, hb, ha⟩ unlike

theorem ReadAlike.of_project {filter : String} {order : Option SortOrder} {snapshot : List Login}
    (alike : ReadAlike (project filter order snapshot)) : ReadAlike snapshot := by
  have hmem {id : LoginId} (mem : id ∈ (project filter order snapshot).map (·.id)) :
      id ∈ snapshot.map (·.id) := by
    obtain ⟨l, hl, rfl⟩ := List.mem_map.mp mem
    exact List.mem_map_of_mem (mem_of_mem_project hl)
  obtain ⟨n, number, name⟩ := alike
  exact ⟨n, hmem number, hmem name⟩

/-- The grid takes all logins exactly if their texts differ from each other and from those that are
taken. -/
theorem fillGrid_eq_map_iff {reveal : Bool} {taken : List String} {logins : List Login} :
    fillGrid reveal taken logins = logins.map (·.gridRow reveal)
      ↔ (logins.map (·.id.text)).Nodup ∧ ∀ k ∈ logins.map (·.id.text), k ∉ taken := by
  induction logins generalizing taken with
  | nil => simp [fillGrid]
  | cons l rest ih =>
    by_cases known : l.id.text ∈ taken
    · simp [fillGrid, known]
    · have hfirst : fillGrid reveal taken (l :: rest)
          = l.gridRow reveal :: fillGrid reveal (taken ++ [l.id.text]) rest := by
        simp [fillGrid, known]
      rw [hfirst, List.map_cons, List.cons_inj_right, ih, List.map_cons, List.nodup_cons]
      constructor
      · rintro ⟨nodup, new⟩
        refine ⟨⟨fun again => new _ again (by simp), nodup⟩, fun k mem => ?_⟩
        rcases List.mem_cons.mp mem with rfl | later
        · exact known
        · exact fun old => new k later (List.mem_append_left _ old)
      · rintro ⟨⟨new, nodup⟩, others⟩
        refine ⟨nodup, fun k mem old => ?_⟩
        rcases List.mem_append.mp old with before | last
        · exact others k (List.mem_cons_of_mem _ mem) before
        · exact new (List.mem_singleton.mp last ▸ mem)

/-- The failure that has ended a terminal. -/
def Crash.failure : Crash → Failure
  | .task g | .handler g => g

namespace State

/-- Whether no fetch has read two identifiers that read alike. -/
def Legible (s : State) : Prop :=
  ∀ f rows, s.cache.outcome? f = some (.ok rows) → ¬ ReadAlike rows

end State

namespace Session

open State

variable {s : Session} {rows : List Login}

/-- The identifiers of what is shown differ. -/
theorem Proper.nodup_ids (proper : s.Proper) (derives : s.state.Derives rows) :
    (rows.map (·.id)).Nodup := by
  obtain ⟨filter, order, snapshot, fetched, rfl⟩ := derives
  apply nodup_project
  rcases fetched with rfl | ⟨f, read⟩
  · exact List.nodup_nil
  · exact proper.distinct read

/-- In a legible session no two of them read alike, so the grid takes all rows. -/
theorem Proper.nodup_texts (proper : s.Proper) (legible : s.state.Legible)
    (derives : s.state.Derives rows) : (rows.map (·.id.text)).Nodup := by
  refine (nodup_texts_iff (proper.nodup_ids derives)).mpr fun alike => ?_
  obtain ⟨filter, order, snapshot, fetched, rfl⟩ := derives
  have hsnapshot : ReadAlike snapshot := alike.of_project
  rcases fetched with rfl | ⟨f, read⟩
  · obtain ⟨n, number, -⟩ := hsnapshot
    cases number
  · exact legible f snapshot read hsnapshot

theorem Proper.takes (proper : s.Proper) (legible : s.state.Legible)
    (derives : s.state.Derives rows) : Observer.grid.fault? rows = none :=
  Terminal.grid_takes (proper.nodup_texts legible derives)

end Session

namespace Terminal

open State

variable {t u : Terminal} {q : List Turn}

/-! ## Filling the grid -/

/-- Whether the grid shows what it takes of the rows of the view. -/
def Filled (t : Terminal) : Prop := t.grid = fillGrid t.reveal [] t.view.table.rows

/-- What leaves the session, the grid and the passwords in it as they are. -/
structure SameGrid (t u : Terminal) : Prop where
  session : u.session = t.session
  reveal : u.reveal = t.reveal
  grid : u.grid = t.grid

theorem SameGrid.filled (same : SameGrid t u) (filled : t.Filled) : u.Filled := by
  unfold Filled
  rw [same.grid, same.reveal, view_congr same.session]
  exact filled

theorem redraw_filled {seen : Seen} (rows : t.view.table.rows = seen.rows) :
    (t.redraw seen).Filled := by
  unfold redraw
  split
  · exact congrArg (fillGrid t.reveal []) rows.symm
  · exact congrArg (fillGrid t.reveal []) rows.symm

theorem Filled.loadEnded (filled : t.Filled) (loader : Loader) (o : Outcome) :
    (t.loadEnded loader o).Filled := by
  unfold Terminal.loadEnded
  split
  · split
    · exact SameGrid.filled ⟨rfl, rfl, rfl⟩ filled
    · exact filled
  · rename_i e
    let u := t.notify ⟨.error, some 10, s!"Refresh failed: {e.message}"⟩
    have hdrawn : (u.redraw (u.session.seen u.view)).Filled := redraw_filled rfl
    simp only
    split
    · exact SameGrid.filled ⟨rfl, rfl, rfl⟩ hdrawn
    · exact hdrawn
  · exact SameGrid.filled ⟨rfl, rfl, rfl⟩ filled
  · exact filled

theorem saveEnded_sameGrid (t : Terminal) (T : String) (o : Outcome) :
    SameGrid t (t.saveEnded T o) := by
  unfold saveEnded
  split
  · split <;> exact ⟨rfl, rfl, rfl⟩
  · exact ⟨rfl, rfl, rfl⟩
  · exact ⟨rfl, rfl, rfl⟩
  · exact ⟨rfl, rfl, rfl⟩

theorem Filled.taskEnded (filled : t.Filled) (T : String) (o : Outcome) :
    (t.taskEnded T o).Filled := by
  have hsave : (if t.dialogs.any (·.save = some T) then t.saveEnded T o else t).Filled := by
    split
    · exact (saveEnded_sameGrid t T o).filled filled
    · exact filled
  unfold Terminal.taskEnded
  split
  · split
    · exact Filled.loadEnded (t := { t with loader := none }) filled _ o
    · exact hsave
  · exact hsave

/-- A terminal that follows the session shows the rows that the view has then. -/
theorem Filled.absorb (filled : t.Filled) {s : State} {n : Notes}
    (noted : Noted t.session s viewName n) : (t.absorb s).Filled := by
  have hdrawn : (drawn { t with session := s } n.seen?).Filled := by
    cases hseen : n.seen? with
    | none =>
      -- the view was not redrawn, so it has not changed
      have hview : ({ t with session := s } : Terminal).view = t.view := by
        simp only [view, (noted.unseen hseen).1]
      simp only [drawn, Filled, hview]
      exact filled
    | some seen =>
      obtain ⟨x, hlookup, hrows⟩ := Option.map_eq_some_iff.mp (noted.seen seen hseen).rows
      have hview : ({ t with session := s } : Terminal).view = x := view_eq_of_lookup hlookup
      exact redraw_filled (hview ▸ hrows)
  rw [absorb_notes noted]
  cases n.ended? with
  | none => exact hdrawn
  | some ended => exact hdrawn.taskEnded ended.1 ended.2

/-! ## Events for the view -/

/-- The events that a terminal has applied: they are for its view. -/
inductive Serves : Event → Prop
  | respond {index : Nat} {a : Answer} : Serves (.respond index a)
  | cancel {T : String} : Serves (.cancel T)
  | spawn {T : String} {c : Call} (found : (Resumption.begin c).Serves viewName) :
      Serves (.spawn T c)
  | change {e : Event} {f : View → View} (changes : ∀ t, ChangesView t e f) : Serves e

theorem Serves.noted {e : Event} (serves : Serves e) (serving : t.session.Serving viewName) :
    ∃ n, Noted t.session (t.session.apply e).state viewName n
      ∧ Readies t.session (t.session.apply e).state viewName := by
  have hquiet (h : Unnoticed t.session (t.session.apply e).state
      ∧ Readies t.session (t.session.apply e).state viewName) :
      ∃ n, Noted t.session (t.session.apply e).state viewName n
        ∧ Readies t.session (t.session.apply e).state viewName :=
    (h.1.noted serving h.2).elim fun _ noted => ⟨_, noted, h.2⟩
  cases serves with
  | @respond index a =>
    obtain ⟨quiet, wakes⟩ := serving.respond_quiet index a
    exact hquiet ⟨quiet, wakes.readies⟩
  | @cancel T => exact hquiet (cancel_quiet T)
  | @spawn T c found => exact hquiet (spawn_quiet T found)
  | change changes =>
    obtain ⟨s', fault, seen, rfl, seeing, -, -⟩ := perform_change serving (changes t)
    exact ⟨_, seeing.noted, fun T => Or.inl (by rw [seeing.tasks])⟩

/-- An event for the view fails only if the grid does not take what is drawn then. -/
theorem Serves.failure {e : Event} (serves : Serves e) (serving : t.session.Serving viewName)
    {g : Failure} (failed : (t.session.apply e).failure = some g) :
    ∃ seen, .redrawn viewName seen ∈ (t.session.apply e).state.journal
      ∧ Observer.grid.fault? seen.rows = some g := by
  cases serves with
  | respond | cancel | spawn _ => cases failed
  | @change _ f changes =>
    obtain ⟨kept, apply⟩ := changes t
    cases hchange : t.session.change viewName f with
    | mk s' fault =>
      obtain ⟨seen, seeing⟩ := serving.change kept hchange
      rw [apply, hchange] at failed ⊢
      obtain rfl : fault = some g := failed
      refine ⟨seen, ?_, seeing.fault.symm⟩
      rw [seeing.journal]
      exact List.mem_append_right _ List.mem_cons_self

/-! ## What ends a terminal -/

/-- Whether the terminal was not ended by a grid that was given a row twice. -/
def Unbroken (t : Terminal) : Prop := ∀ c, t.crash = some c → ¬ c.failure.IsRepeat

theorem Unbroken.congr (unbroken : t.Unbroken) (crash : u.crash = t.crash) : u.Unbroken :=
  fun c ended => unbroken c (crash ▸ ended)

theorem Unbroken.crashed (unbroken : t.Unbroken) {c : Crash} (other : ¬ c.failure.IsRepeat) :
    (t.crashed c).Unbroken := by
  intro c' ended
  cases h : t.crash with
  | none =>
    obtain rfl : c = c' := by simpa [Terminal.crashed, h] using ended
    exact other
  | some first =>
    obtain rfl : first = c' := by simpa [Terminal.crashed, h] using ended
    exact unbroken first h

theorem redraw_crash (t : Terminal) (seen : Seen) : (t.redraw seen).crash = t.crash := by
  unfold redraw
  split <;> rfl

section Ended

variable {o : Outcome} (unbroken : t.Unbroken) (other : ∀ g, o = .raised g → ¬ g.IsRepeat)
include unbroken other

theorem Unbroken.saveEnded (T : String) : (t.saveEnded T o).Unbroken := by
  unfold Terminal.saveEnded
  split
  · split <;> exact unbroken.congr rfl
  · exact unbroken.congr rfl
  · rename_i g
    have hreleased : Unbroken { t with dialogs := releaseDialog T id t.dialogs } :=
      unbroken.congr rfl
    exact hreleased.crashed (other g rfl)
  · exact unbroken.congr rfl

theorem Unbroken.loadEnded (takes : Observer.grid.fault? t.view.table.rows = none)
    (loader : Loader) : (t.loadEnded loader o).Unbroken := by
  unfold Terminal.loadEnded
  split
  · split
    · exact unbroken.congr rfl
    · exact unbroken
  · rename_i e
    let u := t.notify ⟨.error, some 10, s!"Refresh failed: {e.message}"⟩
    have hdrawn : (u.redraw (u.session.seen u.view)).crash = t.crash :=
      redraw_crash u _
    have hview : (u.redraw (u.session.seen u.view)).view = t.view :=
      view_congr (redraw_sameDialogs u _).session
    have hmatch : Observer.grid.fault? (u.redraw (u.session.seen u.view)).view.table.rows
        = none := by
      rw [hview]
      exact takes
    simp only
    rw [hmatch]
    exact unbroken.congr hdrawn
  · rename_i g _
    exact unbroken.crashed (other g rfl)
  · exact unbroken

theorem Unbroken.taskEnded (takes : Observer.grid.fault? t.view.table.rows = none) (T : String) :
    (t.taskEnded T o).Unbroken := by
  have hsave : (if t.dialogs.any (·.save = some T) then t.saveEnded T o else t).Unbroken := by
    split
    · exact unbroken.saveEnded other T
    · exact unbroken
  unfold Terminal.taskEnded
  split
  · split
    · have hgiven : Unbroken { t with loader := none } := unbroken.congr rfl
      exact hgiven.loadEnded other takes _
    · exact hsave
  · exact hsave

end Ended

/-- A terminal that follows the session is not ended by its grid if that takes the rows. -/
theorem Unbroken.absorb (unbroken : t.Unbroken) {s : State} {n : Notes}
    (noted : Noted t.session s viewName n)
    (takes : ∀ v, s.views.lookup viewName = some v → Observer.grid.fault? v.table.rows = none)
    (other : ∀ T g, s.tasks.lookup T = some (.finished (.raised g)) → ¬ g.IsRepeat) :
    (t.absorb s).Unbroken := by
  let u := drawn { t with session := s } n.seen?
  have hu : u.crash = t.crash ∧ u.session = s := by
    cases hseen : n.seen? with
    | none => simp only [u, hseen, drawn, and_self]
    | some seen =>
      simp only [u, hseen, drawn]
      exact ⟨redraw_crash _ seen, (redraw_sameDialogs _ seen).session⟩
  have hunbroken : u.Unbroken := unbroken.congr hu.1
  rw [absorb_notes noted]
  cases hended : n.ended? with
  | none => exact hunbroken
  | some ended =>
    obtain ⟨T, o⟩ := ended
    obtain ⟨v, found, -⟩ := noted.serving.view
    have hview : u.view = v := view_eq_of_lookup (by rw [hu.2]; exact found)
    refine hunbroken.taskEnded ?_ (hview ▸ takes v found) T
    rintro g rfl
    exact other T g (noted.ended _ hended)

/-! ## The grid follows the view -/

/-- What holds of the grid while these turns are to come: it shows what it takes of the rows of the
view, and whatever was drawn so far was derived from what a fetch has read. So no grid has ended a
task or the terminal, unless the session is not legible. -/
structure Drawn (t : Terminal) (q : List Turn) : Prop where
  reached : ∃ client inputs, Session.reached client inputs = ⟨t.session, q⟩
  serving : t.session.Serving viewName
  filled : t.Filled
  calls : ∀ view seen, .redrawn view seen ∈ t.session.journal → t.session.Derives seen.rows
  repeats : ∀ T, Repeats viewName T t.session
  unbroken : t.session.Legible → t.Unbroken

theorem Drawn.proper (drawn : Drawn t q) : Session.Proper ⟨t.session, q⟩ := by
  obtain ⟨client, inputs, reached⟩ := drawn.reached
  exact reached ▸ Session.reached_proper client inputs

/-- In a session that serves the view, the rows are those of the snapshot. -/
theorem derives_rows {s : State} (reached : ∃ client inputs, Session.reached client inputs = ⟨s, q⟩)
    (serving : s.Serving viewName) {v : View} (found : s.views.lookup viewName = some v) :
    v.table.rows = project v.table.filter v.table.order s.cache.snapshot
      ∧ s.Derives v.table.rows := by
  obtain ⟨client, inputs, reached⟩ := reached
  have hrows := @Session.reached_rows client inputs viewName v
  have hfetched := Session.reached_fetched client inputs
  rw [reached] at hrows hfetched
  have hproject := hrows found (by simp [serving.subscribers])
  exact ⟨hproject, _, _, _, hfetched, hproject⟩

/-- The rows that the terminal shows. -/
theorem Drawn.derives (drawn : Drawn t q) : t.view.table.rows
    = project t.view.table.filter t.view.table.order t.session.cache.snapshot
      ∧ t.session.Derives t.view.table.rows := by
  obtain ⟨v, found, -⟩ := drawn.serving.view
  rw [view_eq_of_lookup found]
  exact derives_rows drawn.reached drawn.serving found

theorem Drawn.next (drawn : Drawn t q) (i : LoginVault.Input) {s : State} {q' : List Turn}
    {n : Notes} (advance : Session.advance ⟨t.session, q⟩ i = ⟨s, q'⟩)
    (noted : Noted t.session s viewName n) (repeats : ∀ T, Repeats viewName T s) :
    Drawn (t.absorb s) q' := by
  obtain ⟨client, inputs, hreached⟩ := drawn.reached
  have hnext : Session.reached client (inputs ++ [i]) = ⟨s, q'⟩ := by
    rw [Session.reached_concat, hreached, advance]
  have hproper : Session.Proper ⟨s, q'⟩ := hnext ▸ Session.reached_proper client (inputs ++ [i])
  have hmove : Session.Move ⟨t.session, q⟩ ⟨s, q'⟩ := advance ▸ Session.advance_move _ i
  have inv : Session.Inv ⟨t.session, q⟩ := hreached ▸ Session.reached_inv client inputs
  have hrows {v : View} (found : s.views.lookup viewName = some v) : s.Derives v.table.rows :=
    (derives_rows ⟨client, _, hnext⟩ noted.serving found).2
  have hcalls (view : String) (seen : Seen) (mem : .redrawn view seen ∈ s.journal) :
      s.Derives seen.rows := by
    rw [noted.journal] at mem
    rcases List.mem_append.mp mem with old | new
    · -- what was drawn before is still derived from what was read before
      obtain ⟨filter, order, snapshot, fetched, rows⟩ := drawn.calls view seen old
      exact ⟨filter, order, snapshot, inv.fetched_kept hmove fetched, rows⟩
    · have hseen : n.seen? = some seen := Notes.seen?_of_mem new
      obtain ⟨v, found, rows⟩ := Option.map_eq_some_iff.mp (noted.seen seen hseen).rows
      exact rows ▸ hrows found
  have hunbroken (legible : s.Legible) : (t.absorb s).Unbroken := by
    -- what was read before is read still, so the session was legible before
    have hlegible : t.session.Legible := fun f rows read =>
      legible f rows ((inv.flight.ledger hmove).outcome?_kept read)
    refine (drawn.unbroken hlegible).absorb noted (fun v found => ?_) fun T g now isRepeat => ?_
    · exact hproper.takes legible (hrows found)
    · obtain ⟨seen, mem, fault⟩ := repeats T g now isRepeat
      have htakes : Observer.grid.fault? seen.rows = none :=
        hproper.takes legible (hcalls viewName seen mem)
      simp [htakes] at fault
  constructor
  · rw [absorb_session]
    exact ⟨client, _, hnext⟩
  · rw [absorb_session]
    exact noted.serving
  · exact drawn.filled.absorb noted
  · rw [absorb_session]
    exact hcalls
  · rw [absorb_session]
    exact repeats
  · rw [absorb_session]
    exact hunbroken

theorem Drawn.turn {x : Turn} (drawn : Drawn t (x :: q)) :
    Drawn (t.absorb (t.session.take x).1) (q ++ (t.session.take x).2) := by
  obtain ⟨client, inputs, hreached⟩ := drawn.reached
  have inv : Session.Inv ⟨t.session, x :: q⟩ := hreached ▸ Session.reached_inv client inputs
  obtain ⟨n, noted⟩ := drawn.serving.noted inv
  refine drawn.next .turn (Session.advance_turn_cons _ _ _) noted fun T => ?_
  exact drawn.serving.take_repeats x (fun _ _ => drawn.proper.not_repeat) ⟨_, noted.journal⟩
    (drawn.repeats T)

theorem Drawn.settled (drawn : Drawn t q) :
    Drawn (Session.settleWith (fun t _ s => t.absorb s) t t.session q).1 [] :=
  settled_keeps (fun t _ _ drawn => ⟨absorb_session t _, drawn.turn⟩) drawn

/-- What leaves the session, the grid and the end of the terminal as they are leaves it drawn. -/
theorem Drawn.congr (drawn : Drawn t q) (same : SameGrid t u) (crash : u.crash = t.crash) :
    Drawn u q where
  reached := same.session ▸ drawn.reached
  serving := same.session ▸ drawn.serving
  filled := same.filled drawn.filled
  calls := same.session ▸ drawn.calls
  repeats := same.session ▸ drawn.repeats
  unbroken legible := (drawn.unbroken (same.session ▸ legible)).congr crash

/-- A terminal that is ended by a grid is drawn if the session is not legible. -/
theorem Drawn.crashed (drawn : Drawn t q) {c : Crash}
    (other : t.session.Legible → ¬ c.failure.IsRepeat) : Drawn (t.crashed c) q where
  reached := drawn.reached
  serving := drawn.serving
  filled := drawn.filled
  calls := drawn.calls
  repeats := drawn.repeats
  unbroken legible := (drawn.unbroken legible).crashed (other legible)

theorem Drawn.applyAll {events : List Event} (serves : ∀ e ∈ events, Serves e)
    (drawn : Drawn t q) : Drawn (t.applyAll events).1 (q ++ (t.applyAll events).2) := by
  induction events generalizing t q with
  | nil => exact (List.append_nil q).symm ▸ drawn
  | cons e rest ih =>
    have hserves := serves e List.mem_cons_self
    obtain ⟨n, noted, readies⟩ := hserves.noted drawn.serving
    have hafter : Drawn (t.absorb (t.session.apply e).state) (q ++ (t.session.apply e).turns) :=
      drawn.next (.event e) rfl noted fun T =>
        readies.repeats (drawn.repeats T) ⟨_, noted.journal⟩
    simp only [Terminal.applyAll]
    split
    · rename_i g failed
      refine hafter.crashed fun legible _ => ?_
      -- the grid did not take what was drawn
      obtain ⟨seen, mem, fault⟩ := hserves.failure drawn.serving failed
      rw [absorb_session] at legible
      have hcall := hafter.calls viewName seen (by rw [absorb_session]; exact mem)
      have htakes := hafter.proper.takes (absorb_session t _ ▸ legible) hcall
      simp [htakes] at fault
    · have hrest := ih (fun e' mem => serves e' (List.mem_cons_of_mem e mem)) hafter
      rw [List.append_assoc] at hrest
      exact hrest

theorem Drawn.perform {events : List Event} (drawn : Drawn t [])
    (serves : ∀ e ∈ events, Serves e) : Drawn (t.perform events) [] := by
  have happlied := drawn.applyAll serves
  exact happlied.settled

/-- Giving up one task for another is for the view, if the other task is. -/
theorem serves_replaced {old : List String} {T : String} {c : Call}
    (found : (Resumption.begin c).Serves viewName) :
    ∀ e ∈ old.map Event.cancel ++ [.spawn T c], Serves e := by
  intro e mem
  rcases List.mem_append.mp mem with cancels | starts
  · obtain ⟨U, -, rfl⟩ := List.mem_map.mp cancels
    exact .cancel
  · obtain rfl := List.mem_singleton.mp starts
    exact .spawn found

theorem Drawn.change (drawn : Drawn t []) {e : Event} {f : View → View}
    (changes : ∀ t, ChangesView t e f) : Drawn (t.perform [e]) [] :=
  drawn.perform fun _ mem => List.mem_singleton.mp mem ▸ .change changes

theorem Drawn.submit (drawn : Drawn t []) : Drawn t.submit [] := by
  unfold Terminal.submit
  split
  · exact drawn
  · simp only
    split
    · exact drawn.congr ⟨rfl, rfl, rfl⟩ rfl
    · refine Drawn.perform ?_ (serves_replaced .submit)
      exact drawn.congr ⟨rfl, rfl, rfl⟩ rfl

/-- Showing or hiding the passwords draws all rows anew. -/
theorem Drawn.togglePasswords (drawn : Drawn t []) : Drawn t.togglePasswords [] := by
  have hfilled : Drawn ({ t with reveal := !t.reveal }.fill t.view.table.rows) [] :=
    ⟨drawn.reached, drawn.serving, rfl, drawn.calls, drawn.repeats, drawn.unbroken⟩
  simp only [Terminal.togglePasswords]
  split
  · rename_i g fault
    refine hfilled.crashed fun legible _ => ?_
    have htakes := drawn.proper.takes legible drawn.derives.2
    simp [htakes] at fault
  · exact hfilled

/-- The grid follows the view through every input. -/
theorem Drawn.handle (drawn : Drawn t []) (i : Terminal.Input) : Drawn (t.handle i) [] := by
  cases i with
  | answer index a => exact drawn.perform fun _ mem => List.mem_singleton.mp mem ▸ .respond
  | search text =>
    simp only [Terminal.handle]
    split
    · exact drawn
    · have hsearch : Drawn { t with search := text } [] := drawn.congr ⟨rfl, rfl, rfl⟩ rfl
      exact hsearch.change fun t => setFilter_changes t text
  | refresh =>
    have hearlier : (t.loader.toList.map fun p => Event.cancel p.2)
        = (t.loader.toList.map (·.2)).map Event.cancel := by simp
    simp only [Terminal.handle, Terminal.refresh, load, hearlier]
    refine Drawn.perform ?_ (serves_replaced .refresh)
    exact drawn.congr ⟨rfl, rfl, rfl⟩ rfl
  | newLogin =>
    have hopened : Drawn (t.perform [.openForm viewName]) [] := drawn.change openForm_changes
    exact hopened.congr ⟨rfl, rfl, rfl⟩ rfl
  | cycleOrder => exact drawn.change fun u => setOrder_changes u (nextOrder t.view.table.order)
  | togglePasswords => exact drawn.togglePasswords
  | fill url username password =>
    simp only [Terminal.handle]
    split
    · exact drawn
    · exact drawn.congr ⟨rfl, rfl, rfl⟩ rfl
  | enter => exact drawn.submit
  | save =>
    simp only [Terminal.handle]
    split
    · exact drawn
    · exact drawn.submit
  | dismiss =>
    simp only [Terminal.handle, dismiss]
    split
    · exact drawn
    · have hclosed : Drawn (t.perform [.closeForm viewName]) [] := drawn.change closeForm_changes
      refine Drawn.perform (hclosed.congr ⟨rfl, rfl, rfl⟩ rfl) fun e mem => ?_
      obtain ⟨T, -, rfl⟩ := List.mem_map.mp mem
      exact .cancel

theorem start_drawn (client : Client) : Drawn (start client) [] where
  reached := (start_sound client).reached
  serving := (start_sound client).serving
  filled := by
    rw [start_eq]
    rfl
  calls view seen mem := by
    have hjournal : (start client).session.journal
        = [.sent ((Paging.start none).query client.config.pageSize)] := by
      rw [start_eq]
      rfl
    simp [hjournal] at mem
  repeats T := by
    refine unfinished_repeats fun o now => ?_
    obtain ⟨-, waiting⟩ := lookup_start now
    cases waiting
  unbroken _ c ended := by
    rw [start_eq] at ended
    cases ended

theorem reached_drawn (client : Client) (inputs : List Input) :
    Drawn (reached client inputs) [] := by
  have hrun {t : Terminal} (drawn : Drawn t []) : Drawn (inputs.foldl handle t) [] := by
    induction inputs generalizing t with
    | nil => exact drawn
    | cons i rest ih => exact ih (drawn.handle i)
  exact hrun (start_drawn client)

/-! ## Whole grids -/

/-- How far the grid can be trusted. -/
structure GridHolds (t : Terminal) : Prop where
  /-- The view shows the snapshot under its filter and its order, -/
  rows : t.view.table.rows
    = project t.view.table.filter t.view.table.order t.session.cache.snapshot
  /-- the grid shows these rows up to the first whose identifier reads like an earlier one, -/
  filled : t.grid = fillGrid t.reveal [] t.view.table.rows
  /-- and all of them exactly if there is no such row. -/
  whole : t.grid = t.view.table.rows.map (·.gridRow t.reveal) ↔ ¬ ReadAlike t.view.table.rows
  /-- As long as the session is legible, the grid shows all rows, -/
  legible : t.session.Legible → t.grid = t.view.table.rows.map (·.gridRow t.reveal)
  /-- every redraw so far succeeded, -/
  draws : t.session.Legible →
    ∀ view seen, .redrawn view seen ∈ t.session.journal → Observer.grid.fault? seen.rows = none
  /-- and no redraw has ended the terminal. -/
  unbroken : t.session.Legible → ∀ key,
    t.crash ≠ some (.task (.duplicateRow key)) ∧ t.crash ≠ some (.handler (.duplicateRow key))

/-- However a terminal is used, its grid can be trusted as far as this. -/
theorem reached_grid (client : Client) (inputs : List Input) :
    GridHolds (reached client inputs) := by
  have drawn := reached_drawn client inputs
  generalize reached client inputs = t at drawn
  obtain ⟨hrows, hderives⟩ := drawn.derives
  have hgrid : t.grid = fillGrid t.reveal [] t.view.table.rows := drawn.filled
  have hwhole : t.grid = t.view.table.rows.map (·.gridRow t.reveal)
      ↔ (t.view.table.rows.map (·.id.text)).Nodup := by
    rw [hgrid, fillGrid_eq_map_iff]
    simp
  refine ⟨hrows, hgrid, ?_, fun legible => ?_, fun legible view seen mem => ?_,
    fun legible key => ?_⟩
  · exact hwhole.trans (nodup_texts_iff (drawn.proper.nodup_ids hderives))
  · exact hwhole.mpr (drawn.proper.nodup_texts legible hderives)
  · exact drawn.proper.takes legible (drawn.calls view seen mem)
  · have hunbroken := drawn.unbroken legible
    exact ⟨fun ended => hunbroken _ ended trivial, fun ended => hunbroken _ ended trivial⟩

/-! ## A row that is left out -/

/-- The first page holds two logins whose identifiers read alike, and that is all there is. Both are
rows of the view then, but the grid shows the first only; and to show the passwords ends the
terminal. -/
theorem row_left_out :
    let t := reached localClient [.answer 0 alikePage]
    t.crash = none ∧ t.session.pending = []
      ∧ t.view.table.rows = [⟨.number 1, "u", "n", "p"⟩, ⟨.name "1", "v", "m", "q"⟩]
      ∧ t.grid = [⟨"u", "n", passwordMask⟩]
      ∧ (t.handle .togglePasswords).crash = some (.handler (.duplicateRow "1")) := by
  intro t
  have hsettled : t = (performIn 4 (opened localClient) [.respond 0 alikePage]).getD
      (opened localClient) := reached_answer 4 (by decide +kernel)
  rw [hsettled]
  refine ⟨?_, ?_, ?_, ?_, ?_⟩
  · decide +kernel
  · decide +kernel
  · decide +kernel
  · decide +kernel
  · decide +kernel

end Terminal

end LoginVault
