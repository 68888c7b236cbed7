import LoginVault.Proofs.Session.Creations
import LoginVault.Proofs.Terminal.Dialogs

/-!
# Terminal.Saves — what the dialogs of a terminal post

The store is asked to create a login when the topmost dialog is submitted, by its button or by
Enter, and by no other input (`Terminal.posts`). While the dialog saves, its button is disabled, so
nobody can submit it again by the button. Enter is not disabled: it submits the dialog again and
gives up the save that is under way, though the store was asked already.

Main results: `reached_saves`, and `posted_twice` for Enter.
-/

namespace LoginVault.Terminal

open State

/-- The login that the store is asked to create if the topmost dialog is submitted. A login that is
refused is not asked for, and none is if the grid does not take the rows that are shown, which ends
the terminal. -/
def submission? (t : Terminal) : Option NewLogin :=
  match t.dialogs with
  | [] => none
  | d :: _ =>
    if d.record.problem?.isSome || (Observer.grid.fault? t.view.table.rows).isSome then none
    else some d.record

/-- The logins that the store is asked to create when this is done. -/
def posts (t : Terminal) : Input → List NewLogin
  | .enter => t.submission?.toList
  | .save => if (t.dialogs.head?.map (·.saveDisabled)) = some true then [] else t.submission?.toList
  | _ => []

variable {t u : Terminal} {q : List Turn}

/-! ## Inputs that submit nothing -/

theorem Sound.calm (sound : Sound t []) : t.session.Calm := fun T r _ ready =>
  absurd ready (sound.not_ready T r)

/-- Taking turns has the store asked to create nothing if no task is about to. -/
theorem settled_calm (calm : t.session.Calm) :
    (Session.settleWith (fun t _ s => t.absorb s) t t.session q).1.session.creations
      = t.session.creations := by
  refine (settled_keeps (P := fun u _ => u.session.Calm
    ∧ u.session.creations = t.session.creations) ?_ ⟨calm, rfl⟩).2
  intro u x rest ⟨calm, same⟩
  obtain ⟨after, now⟩ := calm.take x
  rw [absorb_session]
  exact ⟨rfl, after, now.trans same⟩

theorem applyAll_calm {events : List Event} (calm : t.session.Calm)
    (starts : ∀ e ∈ events, ∀ T c record, e = .spawn T c → ¬ (Resumption.begin c).Creates record) :
    (t.applyAll events).1.session.Calm
      ∧ (t.applyAll events).1.session.creations = t.session.creations := by
  induction events generalizing t with
  | nil => exact ⟨calm, rfl⟩
  | cons e rest ih =>
    have hcalm : (t.absorb (t.session.apply e).state).session.Calm := by
      rw [absorb_session]
      exact calm.apply (starts e List.mem_cons_self)
    have hsame : (t.absorb (t.session.apply e).state).session.creations = t.session.creations := by
      rw [absorb_session]
      simpa using (t.session.apply_adds e).creations
    simp only [applyAll]
    split
    · exact ⟨hcalm, hsame⟩
    · obtain ⟨after, now⟩ := ih hcalm fun e' mem => starts e' (List.mem_cons_of_mem e mem)
      exact ⟨after, now.trans hsame⟩

theorem perform_calm {events : List Event} (calm : t.session.Calm)
    (starts : ∀ e ∈ events, ∀ T c record, e = .spawn T c → ¬ (Resumption.begin c).Creates record) :
    (t.perform events).session.creations = t.session.creations := by
  obtain ⟨after, now⟩ := applyAll_calm calm starts
  exact (settled_calm after).trans now

/-! ## The turn that submits -/

section Submit

variable {s : State} {T : String} {record : NewLogin}

/-- The view of a terminal fails to be drawn if its grid does not take the rows. -/
theorem Sound.fault (sound : Sound t q) :
    t.session.fault? viewName = Observer.grid.fault? t.view.table.rows := by
  obtain ⟨x, view, grid⟩ := sound.serving.view
  simp [State.fault?, view_eq_of_lookup view, view, grid]

/-- Whether the task `T` is about to submit this login, and nobody else is about to create one. -/
structure AboutToSubmit (s : State) (T : String) (record : NewLogin) : Prop where
  ready : s.tasks.lookup T = some (.ready (.begin (.submit viewName (.ok record))))
  others : ∀ U r other, U ≠ T → s.tasks.lookup U = some (.ready r) → ¬ r.Creates other

/-- In its first turn the task asks the store, unless the view fails to be drawn. -/
theorem AboutToSubmit.take (about : AboutToSubmit s T record) (complete : record.problem? = none) :
    (s.take (.task T)).1.Calm ∧ (s.take (.task T)).1.creations = s.creations
      ++ if (s.fault? viewName).isSome then [] else [record] := by
  have hturn := resume_turn about.ready
  constructor
  · intro U r other ready creates
    by_cases hU : U = T
    · exact hturn.unready (by simp) r (hU ▸ ready)
    · exact about.others U r other hU ((hturn.others hU).symm.trans ready) creates
  · have hresume : (s.take (.task T)).1 = (s.resume T).1 := rfl
    rw [hresume]
    cases (resume_submit about.ready).2 with
    | asked _ draws creations _ => simp [creations, draws]
    | refused why creations _ _ =>
      have hfault : (s.fault? viewName).isSome := by
        rw [Option.isSome_iff_ne_none]
        exact why.resolve_left fun h => h complete
      simp [creations, hfault]

end Submit

/-! ## Submitting -/

theorem settled_cons (t : Terminal) (x : Turn) (q : List Turn) :
    (Session.settleWith (fun t _ s => t.absorb s) t t.session (x :: q)).1
      = (Session.settleWith (fun t _ s => t.absorb s) (t.absorb (t.session.take x).1)
          (t.absorb (t.session.take x).1).session (q ++ (t.session.take x).2)).1 := by
  rw [Session.settleWith, absorb_session]

/-- A terminal in which a task is about to submit a login posts it, unless the view fails to be
drawn. -/
theorem settled_submits {T : String} {record : NewLogin}
    (about : AboutToSubmit t.session T record) (complete : record.problem? = none) :
    (Session.settleWith (fun t _ s => t.absorb s) t t.session [.task T]).1.session.creations
      = t.session.creations ++ if (t.session.fault? viewName).isSome then [] else [record] := by
  obtain ⟨calm, sent⟩ := about.take complete
  rw [settled_cons]
  refine (settled_calm ?_).trans ?_
  · rw [absorb_session]
    exact calm
  · rw [absorb_session]
    exact sent

/-- What a terminal at rest does to give up a task: it cancels the task, if that waits. -/
inductive GaveUp (s : State) (old : Option String) : State × List Turn → Prop
  | nothing (idle : ∀ T w, old = some T → s.tasks.lookup T ≠ some (.waiting w)) :
      GaveUp s old (s, [])
  | cancelled {T : String} {w : Wait} (gone : old = some T)
      (waiting : s.tasks.lookup T = some (.waiting w)) :
      GaveUp s old ({ s with pending := s.pending.filter (!ownedBy (.task T) ·) }.setTask T
        (.ready .cancelled), [.task T])

theorem Sound.gaveUp (sound : Sound t []) (old : Option String) :
    GaveUp t.session old (giveUp t.session old) := by
  cases old with
  | none => exact .nothing (by simp)
  | some T =>
    simp only [giveUp, State.cancel]
    split
    · rename_i r ready
      exact absurd ready (sound.not_ready T r)
    · rename_i w waiting
      exact .cancelled rfl waiting
    · rename_i unready unwaiting
      refine .nothing fun U w gone => ?_
      obtain rfl : T = U := Option.some.inj gone
      exact unwaiting w

/-- A task that has ended has ended for good. -/
theorem settled_finished {T : String} {o : Outcome}
    (ended : t.session.tasks.lookup T = some (.finished o)) :
    (Session.settleWith (fun t _ s => t.absorb s) t t.session q).1.session.tasks.lookup T
      = some (.finished o) := by
  refine settled_keeps (P := fun u _ => u.session.tasks.lookup T = some (.finished o)) ?_ ended
  intro u x rest ended
  rw [absorb_session]
  exact ⟨rfl, ((Session.take_move u.session [] x).task_move T).of_finished ended⟩

/-- A task that was cancelled ends in its turn, and the turns to come go on from there. -/
theorem settled_cancelled {T : String}
    (ready : t.session.tasks.lookup T = some (.ready .cancelled)) (q : List Turn) :
    ∃ u : Terminal, u.session = t.session.finish T .cancelled
      ∧ (Session.settleWith (fun t _ s => t.absorb s) t t.session (.task T :: q)).1
        = (Session.settleWith (fun t _ s => t.absorb s) u u.session q).1 := by
  have hturn : t.session.take (.task T) = (t.session.finish T .cancelled, []) := by
    simp [State.take, State.resume, ready]
  refine ⟨t.absorb (t.session.finish T .cancelled), absorb_session t _, ?_⟩
  rw [settled_cons, hturn, List.append_nil]

/-- The terminal whose topmost dialog begins to save in a new task. -/
def beginSave (t : Terminal) (d : Dialog) (rest : List Dialog) : Terminal :=
  let saving : Dialog :=
    { d with status := Dialog.savingLine, saveDisabled := true, save := some t.nextTask }
  { t with dialogs := saving :: rest, started := t.started + 1 }

section Dialog

variable {d : Dialog} {rest : List Dialog}

theorem submit_saves (dialogs : t.dialogs = d :: rest) (complete : d.record.problem? = none) :
    t.submit = (t.beginSave d rest).perform (d.save.toList.map Event.cancel
      ++ [.spawn t.nextTask (.submit viewName (.ok d.record))]) := by
  simp [Terminal.submit, dialogs, complete, beginSave]

theorem submit_refused (dialogs : t.dialogs = d :: rest)
    (refused : d.record.problem?.isSome = true) : t.submit.session = t.session := by
  simp [Terminal.submit, dialogs, refused]

/-- What comes of a dialog that begins to save: the store is asked, unless the grid does not take
the rows, and a save that was under way ends as cancelled. -/
theorem Sound.submit_saves (sound : Sound t []) (dialogs : t.dialogs = d :: rest)
    (complete : d.record.problem? = none) :
    t.submit.session.creations = t.session.creations
        ++ (if (Observer.grid.fault? t.view.table.rows).isSome then [] else [d.record])
      ∧ ∀ T w, d.save = some T → t.session.tasks.lookup T = some (.waiting w) →
        t.submit.session.tasks.lookup T = some (.finished .cancelled) := by
  rw [Terminal.submit_saves dialogs complete, ← sound.fault]
  have happly := sound.applyAll_replaced (u := t.beginSave d rest)
    (.submit viewName (.ok d.record)) d.save rfl
  have hgave := sound.gaveUp d.save
  have hunused := sound.nextTask_unused
  simp only [perform, happly]
  generalize giveUp t.session d.save = r at hgave
  cases hgave with
  | nothing idle =>
    have about : AboutToSubmit (t.session.setTask t.nextTask
        (.ready (.begin (.submit viewName (.ok d.record))))) t.nextTask d.record := by
      refine ⟨by simp, fun U r other hU ready => ?_⟩
      exact absurd (by simpa [hU] using ready) (sound.not_ready U r)
    refine ⟨?_, fun T w save waiting => absurd waiting (idle T w save)⟩
    exact settled_submits (t := { t.beginSave d rest with session := _ }) about complete
  | @cancelled T w gone waiting =>
    have hT : T ≠ t.nextTask := by
      rintro rfl
      simp [hunused] at waiting
    let s : State := ({ t.session with
        pending := t.session.pending.filter (!ownedBy (.task T) ·) }.setTask T
      (.ready .cancelled)).setTask t.nextTask (.ready (.begin (.submit viewName (.ok d.record))))
    -- the save that was cancelled takes its turn first, and ends
    obtain ⟨u, hsession, hsettled⟩ := settled_cancelled (T := T)
      (t := { t.beginSave d rest with session := s }) (by simp [s, hT]) [.task t.nextTask]
    have about : AboutToSubmit u.session t.nextTask d.record := by
      rw [hsession]
      refine ⟨by simp [s, hT.symm], fun U r other hU ready => ?_⟩
      by_cases hUT : U = T
      · simp [hUT] at ready
      · exact absurd (by simpa [s, hU, hUT] using ready) (sound.not_ready U r)
    have hsame : u.session.creations = t.session.creations := by
      rw [hsession, finish_creations]
      rfl
    have hfault : u.session.fault? viewName = t.session.fault? viewName := by
      rw [hsession]
      rfl
    refine ⟨?_, fun U w' save _ => ?_⟩
    · refine (congrArg (·.session.creations) hsettled).trans ?_
      rw [settled_submits about complete, hsame, hfault]
    · obtain rfl : T = U := Option.some.inj (gone.symm.trans save)
      refine (congrArg (·.session.tasks.lookup T) hsettled).trans ?_
      exact settled_finished (by simp [hsession])

end Dialog

/-! ## What is posted -/

theorem Sound.submit_creations (sound : Sound t []) :
    t.submit.session.creations = t.session.creations ++ t.submission?.toList := by
  unfold submission?
  split
  · rename_i hdialogs
    simp [Terminal.submit, hdialogs]
  · rename_i d rest hdialogs
    cases hproblem : d.record.problem? with
    | some problem => simp [submit_refused hdialogs (Option.isSome_iff_exists.mpr ⟨_, hproblem⟩)]
    | none =>
      rw [(sound.submit_saves hdialogs hproblem).1]
      cases Observer.grid.fault? t.view.table.rows <;> rfl

/-- An input has the store asked for what it posts, and for nothing else. -/
theorem Sound.handle_creations (sound : Sound t []) (i : Input) :
    (t.handle i).session.creations = t.session.creations ++ t.posts i := by
  have hquiet {u : Terminal} {events : List Event} (calm : u.session.Calm)
      (same : u.session.creations = t.session.creations)
      (starts : ∀ e ∈ events, ∀ T c record, e = .spawn T c →
        ¬ (Resumption.begin c).Creates record) :
      (u.perform events).session.creations = t.session.creations ++ [] := by
    rw [perform_calm calm starts, same, List.append_nil]
  have hcancels (task : Option String) : ∀ e ∈ task.toList.map Event.cancel, ∀ T c record,
      e = .spawn T c → ¬ (Resumption.begin c).Creates record := by
    cases task <;> simp
  cases i with
  | answer index a => exact hquiet sound.calm rfl (by simp)
  | search text =>
    simp only [Terminal.handle, posts]
    split
    · simp
    · exact hquiet (u := { t with search := text }) sound.calm rfl (by simp)
  | refresh =>
    refine hquiet (u := { t with bar := _, loader := _, started := _ }) sound.calm rfl ?_
    intro e mem T c record spawned creates
    rcases List.mem_append.mp mem with cancels | starts
    · obtain ⟨p, -, rfl⟩ := List.mem_map.mp cancels
      cases spawned
    · obtain rfl := List.mem_singleton.mp starts
      cases spawned
      cases creates
  | newLogin => exact hquiet sound.calm rfl (by simp)
  | cycleOrder => exact hquiet sound.calm rfl (by simp)
  | togglePasswords =>
    simp only [Terminal.handle, posts, Terminal.togglePasswords]
    split <;> simp [Terminal.fill, crashed]
  | fill url username password =>
    simp only [Terminal.handle, posts]
    split <;> simp
  | enter => exact sound.submit_creations
  | save =>
    simp only [Terminal.handle, posts]
    split
    · simp
    · exact sound.submit_creations
  | dismiss =>
    simp only [Terminal.handle, posts, Terminal.dismiss]
    split
    · simp
    · rename_i d rest _
      have hclosed := sound.change (closeForm_changes t)
      have hsame : (t.perform [.closeForm viewName]).session.creations = t.session.creations :=
        perform_calm sound.calm (by simp)
      exact hquiet (u := { t.perform [.closeForm viewName] with dialogs := rest }) hclosed.calm
        hsame (hcancels d.save)

/-! ## One save at a time -/

/-- The dialog at this height; the lowest one is at the height 0. -/
def dialogAt? (t : Terminal) (height : Nat) : Option Dialog := t.dialogs.reverse[height]?

/-- What is posted from the dialog at this height when this is done: only the topmost dialog can be
submitted. -/
def postsFrom (t : Terminal) (height : Nat) (i : Input) : List NewLogin :=
  if t.dialogs.length = height + 1 then t.posts i else []

/-- What is posted from the dialog at this height in the course of these inputs. -/
def postedFrom (height : Nat) : Terminal → List Input → List NewLogin
  | _, [] => []
  | t, i :: rest => t.postsFrom height i ++ postedFrom height (t.handle i) rest

/-- Whether the dialog at this height waits for the save `T` before this is done, and this is not
the Enter that would submit the dialog again. -/
def SavesThrough (t : Terminal) (height : Nat) (T : String) (i : Input) : Prop :=
  (∃ d, t.dialogAt? height = some d ∧ d.save = some T)
    ∧ ¬ (i = .enter ∧ t.dialogs.length = height + 1)

/-- How a terminal saves. -/
structure SavesHold (t : Terminal) : Prop where
  /-- An input has the store asked for what it posts, and for nothing else. -/
  posts : ∀ i, (t.handle i).session.creations = t.session.creations ++ t.posts i
  /-- The button of a dialog is disabled exactly while its save is under way, -/
  button : ∀ d ∈ t.dialogs, d.saveDisabled = true
    ↔ ∃ T w, d.save = some T ∧ t.session.tasks.lookup T = some (.waiting w)
  /-- and no two dialogs wait for one save. -/
  distinct : (t.dialogs.filterMap (·.save)).Nodup
  /-- As long as a dialog waits for a save, nothing is posted from it but by Enter. -/
  once : ∀ height T inputs, (∀ before i, before ++ [i] <+: inputs →
    SavesThrough (before.foldl handle t) height T i) → postedFrom height t inputs = []
  /-- Enter posts the login again, and the save that was under way ends as cancelled. -/
  again : ∀ d T, t.dialogs.head? = some d → d.save = some T → d.record.problem? = none →
    t.posts .enter = (if (Observer.grid.fault? t.view.table.rows).isSome then [] else [d.record])
      ∧ (t.handle .enter).session.tasks.lookup T = some (.finished .cancelled)

theorem dialogAt?_top {d : Dialog} {rest : List Dialog} (dialogs : t.dialogs = d :: rest) :
    t.dialogAt? rest.length = some d := by
  rw [dialogAt?, dialogs, List.reverse_cons]
  simp

/-- From a dialog that waits for a save nothing is posted but by Enter. -/
theorem Guarded.postsFrom_eq_nil (guarded : t.Guarded) {height : Nat} {T : String} {i : Input}
    (saves : SavesThrough t height T i) : t.postsFrom height i = [] := by
  obtain ⟨⟨d, hdialog, hsave⟩, other⟩ := saves
  unfold postsFrom
  split
  · rename_i top
    cases hdialogs : t.dialogs with
    | nil => simp [hdialogs] at top
    | cons first rest =>
      -- the dialog is the topmost, so its button is disabled
      have hheight : rest.length = height := by simpa [hdialogs] using top
      obtain rfl : first = d :=
        Option.some.inj ((dialogAt?_top hdialogs).symm.trans (hheight ▸ hdialog))
      have hdisabled : first.saveDisabled = true := by
        rw [guarded.button first (by simp [hdialogs]), hsave]
        rfl
      cases i with
      | enter => exact absurd ⟨rfl, top⟩ other
      | save => simp [Terminal.posts, hdialogs, hdisabled]
      | _ => rfl
  · rfl

theorem reached_append (client : Client) (first rest : List Input) :
    reached client (first ++ rest) = rest.foldl handle (reached client first) :=
  List.foldl_append

/-- Nothing is posted twice by a button. -/
theorem reached_once (client : Client) (inputs : List Input) (height : Nat) (T : String)
    (more : List Input) (saves : ∀ before i, before ++ [i] <+: more →
      SavesThrough (before.foldl handle (reached client inputs)) height T i) :
    postedFrom height (reached client inputs) more = [] := by
  induction more generalizing inputs with
  | nil => rfl
  | cons i rest ih =>
    have hfirst : (reached client inputs).postsFrom height i = [] :=
      (reached_guarded client inputs).postsFrom_eq_nil
        (saves [] i (List.prefix_append [i] rest))
    have hnext : (reached client inputs).handle i = reached client (inputs ++ [i]) :=
      (reached_append client inputs [i]).symm
    rw [postedFrom, hfirst, hnext, List.nil_append]
    refine ih (inputs ++ [i]) fun before j within => ?_
    rw [← hnext]
    exact saves (i :: before) j ((List.prefix_cons_inj i).mpr within)

/-- The save that a dialog waits for is under way. -/
theorem reached_waiting {client : Client} {inputs : List Input} {d : Dialog} {T : String}
    (mem : d ∈ (reached client inputs).dialogs) (save : d.save = some T) :
    ∃ w, (reached client inputs).session.tasks.lookup T = some (.waiting w) := by
  obtain ⟨x, now, unfinished⟩ := (reached_guarded client inputs).underWay T
    (List.mem_append_right _ (List.mem_filterMap.mpr ⟨d, mem, save⟩))
  cases x with
  | ready r => exact absurd now ((reached_sound client inputs).not_ready T r)
  | waiting w => exact ⟨w, now⟩
  | finished o => exact absurd rfl (unfinished o)

/-- However a terminal is used, its dialogs save so. -/
theorem reached_saves (client : Client) (inputs : List Input) :
    SavesHold (reached client inputs) := by
  have sound := reached_sound client inputs
  have guarded := reached_guarded client inputs
  refine ⟨sound.handle_creations, fun d mem => ?_, ?_, reached_once client inputs, ?_⟩
  · rw [guarded.button d mem]
    constructor
    · intro saves
      obtain ⟨T, save⟩ := Option.isSome_iff_exists.mp saves
      obtain ⟨w, waiting⟩ := reached_waiting mem save
      exact ⟨T, w, save, waiting⟩
    · rintro ⟨T, w, save, -⟩
      simp [save]
  · exact guarded.distinct.sublist (List.sublist_append_right _ _)
  · intro d T top save complete
    obtain ⟨rest, hdialogs⟩ := List.head?_eq_some_iff.mp top
    have hmem : d ∈ (reached client inputs).dialogs := hdialogs ▸ List.mem_cons_self
    obtain ⟨w, waiting⟩ := reached_waiting hmem save
    constructor
    · simp only [Terminal.posts, submission?, hdialogs, complete]
      cases Observer.grid.fault? (reached client inputs).view.table.rows <;> rfl
    · exact (sound.submit_saves hdialogs complete).2 T w save waiting

/-! ## Enter while a dialog saves -/

/-- The dialog of a terminal that has just started, with its fields filled. -/
def filled (client : Client) : Terminal :=
  let t := (performIn 0 (opened client) [.openForm viewName]).getD (opened client)
  { t with dialogs := [⟨"u", "n", "p", "", false, none⟩] }

theorem reached_filled : reached localClient [.newLogin, .fill (some "u") (some "n") (some "p")]
    = filled localClient := by
  have hopened : (opened localClient).perform [.openForm viewName]
      = (performIn 0 (opened localClient) [.openForm viewName]).getD (opened localClient) :=
    perform_eq_getD (by decide +kernel)
  simp only [reached, List.foldl, handle, start_eq, hopened]
  rfl

/-- The terminal once the dialog of `filled` was submitted. -/
def saving (client : Client) : Terminal :=
  let t := (filled client).beginSave ⟨"u", "n", "p", "", false, none⟩ []
  (performIn 1 t [.spawn (filled client).nextTask (.submit viewName (.ok ⟨"u", "n", "p"⟩))]).getD t

theorem reached_saving :
    reached localClient [.newLogin, .fill (some "u") (some "n") (some "p"), .enter]
      = saving localClient := by
  have happend := reached_append localClient
    [.newLogin, .fill (some "u") (some "n") (some "p")] [.enter]
  have hsubmit : (filled localClient).submit = saving localClient := by
    rw [submit_saves (d := ⟨"u", "n", "p", "", false, none⟩) rfl (by decide)]
    exact perform_eq_getD (n := 1) (by decide +kernel)
  rw [reached_filled] at happend
  exact happend.trans hsubmit

/-- A login is being saved, and the store was asked for it. Enter has the store asked again, though
the save has not ended. -/
theorem posted_twice :
    let t := reached localClient [.newLogin, .fill (some "u") (some "n") (some "p"), .enter]
    (∃ d w, t.dialogAt? 0 = some d ∧ d.saveDisabled = true ∧ d.save = some s!"task {1}"
        ∧ t.session.tasks.lookup s!"task {1}" = some (.waiting w))
      ∧ t.session.creations = [⟨"u", "n", "p"⟩] ∧ t.postsFrom 0 .enter = [⟨"u", "n", "p"⟩]
      ∧ (t.handle .enter).session.creations = [⟨"u", "n", "p"⟩, ⟨"u", "n", "p"⟩] := by
  intro t
  have hsaving : t = saving localClient := reached_saving
  have hdialogs : t.dialogs = [⟨"u", "n", "p", Dialog.savingLine, true, some s!"task {1}"⟩] := by
    rw [hsaving]
    decide +kernel
  have hcreations : t.session.creations = [⟨"u", "n", "p"⟩] := by
    rw [hsaving]
    decide +kernel
  have hposts : t.posts .enter = [⟨"u", "n", "p"⟩] := by
    rw [hsaving]
    decide +kernel
  obtain ⟨w, waiting⟩ : ∃ w, t.session.tasks.lookup s!"task {1}" = some (.waiting w) :=
    reached_waiting (hdialogs ▸ List.mem_cons_self) rfl
  have hagain : (t.handle .enter).session.creations = t.session.creations ++ t.posts .enter :=
    (reached_sound localClient _).handle_creations .enter
  refine ⟨⟨_, w, dialogAt?_top hdialogs, rfl, rfl, waiting⟩, hcreations, ?_, ?_⟩
  · simpa [postsFrom, hdialogs] using hposts
  · rw [hagain, hcreations, hposts]
    rfl

end LoginVault.Terminal
