import LoginVault.Proofs.Session.Attendance

/-!
# Session.Isolation — cancelling callers disturbs nobody else

Two runs are compared: in one, callers that wait for the outcome of a fetch are cancelled, in the
other they are not. The two have different turns, because a caller that is cancelled takes its
turn at once and one that is not takes it after the fetch has ended. Apart from these turns
(`othersOf`) both do the same to what there is besides the callers (`run_besides`), so they agree
on all of that after every schedule, and after every sequence of steps.

Main result: `cancelled_isolated`.
-/

namespace LoginVault

namespace Session

open State

variable {s s' : Session} {ts : List String}

/-! ## Schedules without some of the tasks -/

/-- The session with these tasks taken for cancelled, their ends not told of and their turns left
out. -/
def besides (s : Session) (ts : List String) : Session :=
  ⟨s.state.besides ts, s.queue.filter (!Turn.isOf ts ·)⟩

/-- Whether the input is the turn of one of these tasks. -/
def isTurnOf (s : Session) (ts : List String) : Input → Bool
  | .event _ => false
  | .turn => s.queue.head?.any (Turn.isOf ts)

/-- The inputs of a schedule but for the turns of these tasks. -/
def othersOf (ts : List String) : Session → List Input → List Input
  | _, [] => []
  | s, i :: rest =>
    if s.isTurnOf ts i then othersOf ts (s.advance i) rest
    else i :: othersOf ts (s.advance i) rest

/-- The turn of one of these tasks changes nothing besides them, and makes no turn. -/
theorem advance_own (att : s.state.Attended ts) (own : s.isTurnOf ts .turn = true) :
    (s.advance .turn).besides ts = s.besides ts ∧ (s.advance .turn).queue = s.queue.tail := by
  rcases s with ⟨s, q⟩
  cases q with
  | nil => cases own
  | cons t rest =>
    have hown : t.isOf ts = true := by simpa [isTurnOf] using own
    cases t with
    | task T =>
      have hT : T ∈ ts := by simpa [Turn.isOf] using hown
      rcases att.resume_besides hT with ⟨hstate, hnone⟩
      rw [advance_turn_cons]
      simp [besides, State.take, hstate, hnone, hown]
    | _ => cases hown

theorem apply_besides (att : s.state.Attended ts) (e : Event) :
    (s.besides ts).apply e = ((s.apply e).1.besides ts, (s.apply e).2) := by
  have happly := att.apply_besides e
  simp only [apply, besides, happly, List.filter_append]

/-- What another input does besides these tasks, it does without them. -/
theorem advance_other (att : s.state.Attended ts) {i : Input} (other : s.isTurnOf ts i = false) :
    (s.advance i).besides ts = (s.besides ts).advance i := by
  rcases s with ⟨s, q⟩
  cases i with
  | event e => exact (congrArg Prod.fst (apply_besides att e)).symm
  | turn =>
    cases q with
    | nil => rfl
    | cons t rest =>
      have hother : t.isOf ts = false := by simpa [isTurnOf] using other
      have htake := State.Attended.take_besides att hother
      have hqueue : (t :: rest).filter (!Turn.isOf ts ·)
          = t :: rest.filter (!Turn.isOf ts ·) := by simp [hother]
      rw [advance_turn_cons]
      simp only [besides, hqueue]
      rw [advance_turn_cons]
      simp only at htake
      rw [htake, List.filter_append]

/-- A task that attends to a fetch goes on to do so until it has ended. -/
theorem TaskMove.attends {T : String} (move : TaskMove s s' T) {t : Task}
    (stands : s.state.tasks.lookup T = some t) (attends : t.Attends) :
    ∃ t', s'.state.tasks.lookup T = some t' ∧ t'.Attends := by
  -- so no move is possible but those of a task that waits, was told, or was cancelled
  have hlost {u : Task} (h : s.state.tasks.lookup T = some u) : u.Attends := by
    obtain rfl : t = u := Option.some.inj (stands.symm.trans h)
    exact attends
  cases move with
  | kept same => exact ⟨t, same.trans stands, attends⟩
  | started new _ _ => cases new.symm.trans stands
  | overtaken _ now _ => exact ⟨_, now, .cancelled⟩
  | cancelled _ now _ => exact ⟨_, now, .cancelled⟩
  | finished _ _ now => exact ⟨_, now, .finished⟩
  | answered waiting _ _ => cases hlost waiting
  | released waiting _ _ _ _ => cases hlost waiting
  | told waiting _ now _ =>
    cases hlost waiting
    exact ⟨_, now, .told⟩
  | asked ready why _ _ => cases hlost ready <;> cases why
  | joined ready why _ _ _ => cases hlost ready <;> cases why
  | superseded ready why _ _ _ _ => cases hlost ready <;> cases why

theorem attended_advance (att : s.state.Attended ts) (i : Input) :
    (s.advance i).state.Attended ts where
  attends T hT := by
    rcases att.attends T hT with ⟨t, ht, attends⟩
    exact ((s.advance_move i).task_move T).attends ht attends
  accounts T hT := (s.advance_move i).accounts (att.accounts T hT)

theorem attended_run (att : s.state.Attended ts) (inputs : List Input) :
    (s.run inputs).state.Attended ts :=
  run_keeps (P := fun s => s.state.Attended ts) (fun _ i att => attended_advance att i) att inputs

/-- What a schedule does besides these tasks, it does without them and their turns. -/
theorem run_besides (att : s.state.Attended ts) (inputs : List Input) :
    (s.run inputs).besides ts = (s.besides ts).run (othersOf ts s inputs) := by
  induction inputs generalizing s with
  | nil => rfl
  | cons i rest ih =>
    rw [run_cons, ih (attended_advance att i), othersOf]
    cases h : s.isTurnOf ts i with
    | false => simp [advance_other att h]
    | true =>
      cases i with
      | event e => cases h
      | turn => simp [(advance_own att h).1]

theorem othersOf_append (first rest : List Input) :
    othersOf ts s (first ++ rest) = othersOf ts s first ++ othersOf ts (s.run first) rest := by
  induction first generalizing s with
  | nil => rfl
  | cons i first ih =>
    simp only [List.cons_append, othersOf, run_cons]
    split
    · exact ih
    · simp [ih]

/-- The turns of these tasks that come first can be taken. -/
theorem exists_drained (att : s.state.Attended ts) :
    ∃ first, othersOf ts s first = [] ∧ (s.run first).isTurnOf ts .turn = false := by
  generalize hn : s.queue.length = n
  induction n generalizing s with
  | zero =>
    have hempty : s.queue = [] := List.length_eq_zero_iff.mp hn
    exact ⟨[], rfl, by simp [isTurnOf, hempty]⟩
  | succ n ih =>
    cases h : s.isTurnOf ts .turn with
    | false => exact ⟨[], rfl, h⟩
    | true =>
      have hlength : (s.advance .turn).queue.length = n := by
        rw [(advance_own att h).2, List.length_tail, hn]
        rfl
      rcases ih (attended_advance att .turn) hlength with ⟨first, hfirst, hother⟩
      exact ⟨.turn :: first, by simp [othersOf, h, hfirst], hother⟩

/-- Whatever the others are to do, some schedule does it. -/
theorem exists_schedule (att : s.state.Attended ts) (others : List Input) :
    ∃ inputs, othersOf ts s inputs = others := by
  induction others generalizing s with
  | nil => exact ⟨[], rfl⟩
  | cons i rest ih =>
    obtain ⟨first, hfirst, hother⟩ :
        ∃ first, othersOf ts s first = [] ∧ (s.run first).isTurnOf ts i = false := by
      cases i with
      | event e => exact ⟨[], rfl, rfl⟩
      | turn => exact exists_drained att
    rcases ih (attended_advance (attended_run att first) i) with ⟨inputs, hinputs⟩
    refine ⟨first ++ i :: inputs, ?_⟩
    simp [othersOf_append, hfirst, othersOf, hother, hinputs]

/-! ## Steps -/

/-- Turns up to the last are those that settle a session. -/
theorem run_turns_eq_settle {n : Nat} (h : (s.run (List.replicate n .turn)).queue = []) :
    s.run (List.replicate n .turn) = s.settle := by
  have hnext (s : Session) : (s.advance .turn).settle = s.settle := by
    rcases s with ⟨s, q⟩
    cases q with
    | nil => rfl
    | cons t rest =>
      rw [advance_turn_cons]
      simp only [settle]
      conv => rhs; unfold settleWith
  induction n generalizing s with
  | zero =>
    rcases s with ⟨s, q⟩
    obtain rfl : q = [] := h
    simp [settle, settleWith]
  | succ n ih =>
    rw [List.replicate_succ, run_cons] at h ⊢
    rw [ih h, hnext]

theorem othersOf_sublist (ts : List String) (s : Session) (inputs : List Input) :
    (othersOf ts s inputs).Sublist inputs := by
  induction inputs generalizing s with
  | nil => exact .slnil
  | cons i rest ih =>
    rw [othersOf]
    split
    · exact (ih _).cons i
    · exact (ih _).cons_cons i

/-- All turns are taken without these tasks as with them. -/
theorem settle_besides (att : s.state.Attended ts) :
    s.settle.besides ts = (s.besides ts).settle := by
  rcases settle_eq_run s.state s.queue with ⟨n, hn⟩
  rcases List.sublist_replicate_iff.mp (othersOf_sublist ts s (List.replicate n .turn))
    with ⟨m, -, hm⟩
  have hrun := run_besides att (List.replicate n .turn)
  rw [← hn, hm] at hrun
  have hempty : ((s.besides ts).run (List.replicate m .turn)).queue = [] := by
    rw [← hrun]
    rfl
  exact hrun.trans (run_turns_eq_settle hempty)

theorem applyAll_besides (att : s.state.Attended ts) (events : List Event) :
    (s.besides ts).applyAll events
      = ((s.applyAll events).1.besides ts, (s.applyAll events).2) := by
  induction events generalizing s with
  | nil => rfl
  | cons e rest ih =>
    have hnext := attended_advance att (.event e)
    simp only [advance] at hnext
    simp only [applyAll, apply_besides att]
    rcases happly : s.apply e with ⟨next, failure⟩
    rw [happly] at hnext
    cases failure with
    | none => exact ih hnext
    | some f => rfl

/-- A whole step is taken without these tasks as with them. -/
theorem step_besides (att : s.state.Attended ts) (events : List Event) :
    (s.besides ts).step events = ((s.step events).1.besides ts, (s.step events).2) := by
  rcases s.applyAll_eq_run events with ⟨inputs, hinputs⟩
  have hmid : (s.applyAll events).1.state.Attended ts := hinputs ▸ attended_run att inputs
  simp only [step, applyAll_besides att, settle_besides hmid]

/-! ## Cancelling -/

/-- The session after these tasks were cancelled. -/
def cancelAll (s : Session) (ts : List String) : Session :=
  s.run (ts.map fun T => .event (.cancel T))

/-- The session after these steps. -/
def steps (s : Session) (batches : List (List Event)) : Session :=
  batches.foldl (fun s events => (s.step events).1) s

theorem steps_besides (att : s.state.Attended ts) (batches : List (List Event)) :
    (s.steps batches).besides ts = (s.besides ts).steps batches
      ∧ (s.steps batches).state.Attended ts := by
  induction batches generalizing s with
  | nil => exact ⟨rfl, att⟩
  | cons events rest ih =>
    rcases s.step_eq_run events with ⟨inputs, hinputs⟩
    have hnext : (s.step events).1.state.Attended ts := hinputs ▸ attended_run att inputs
    have hstep := congrArg Prod.fst (step_besides att events)
    simp only at hstep
    simp only [steps, List.foldl_cons, hstep]
    exact ih hnext

/-- Besides the tasks that are cancelled nothing changes. -/
theorem cancelAll_besides (att : s.state.Attended ts) {us : List String} (sub : us ⊆ ts) :
    (s.cancelAll us).besides ts = s.besides ts := by
  induction us generalizing s with
  | nil => rfl
  | cons U rest ih =>
    have hU : U ∈ ts := sub List.mem_cons_self
    have hidle : (s.besides ts).advance (.event (.cancel U)) = s.besides ts := by
      have hcancel : (s.state.besides ts).cancel U = (s.state.besides ts, []) := by
        simp only [State.cancel, lookup_besides_mem att.uses hU]
      simp [advance, apply, State.apply, besides, hcancel]
    have hrest := ih (attended_advance att (.event (.cancel U))) fun V hV =>
      sub (List.mem_cons_of_mem U hV)
    rw [advance_other att rfl, hidle] at hrest
    exact hrest

/-- A task that is not finished has a turn coming in which it finds that it was cancelled. -/
theorem lookup_cancelAll (us : List String) {T : String} {t : Task}
    (stands : s.state.tasks.lookup T = some t) (unfinished : ∀ o, t ≠ .finished o) :
    (s.cancelAll us).state.tasks.lookup T
      = if T ∈ us then some (.ready .cancelled) else some t := by
  induction us generalizing s t with
  | nil => simpa [cancelAll] using stands
  | cons U rest ih =>
    have hnow : (s.advance (.event (.cancel U))).state.tasks.lookup T
        = if T = U then some (.ready .cancelled) else some t := by
      show (s.state.cancel U).1.tasks.lookup T = _
      by_cases hT : T = U
      · subst hT
        unfold State.cancel
        rw [stands]
        cases t with
        | ready r => simp
        | waiting w => simp
        | finished o => exact absurd rfl (unfinished o)
      · rw [if_neg hT, ← stands]
        unfold State.cancel
        split <;> simp [hT]
    show ((s.advance (.event (.cancel U))).cancelAll rest).state.tasks.lookup T = _
    -- a task that is cancelled again stays cancelled
    by_cases hT : T = U
    · rw [if_pos hT] at hnow
      rw [ih hnow (by simp)]
      simp [hT]
    · rw [if_neg hT] at hnow
      rw [ih hnow unfinished]
      simp [hT]

/-- A task that was cancelled ends as cancelled. -/
theorem run_cancelled {T : String} (h : s.state.tasks.lookup T = some (.ready .cancelled))
    (inputs : List Input) : (s.run inputs).state.tasks.lookup T = some (.ready .cancelled)
      ∨ (s.run inputs).state.tasks.lookup T = some (.finished .cancelled) := by
  refine run_keeps_of_moves (P := fun s => s.state.tasks.lookup T = some (.ready .cancelled)
    ∨ s.state.tasks.lookup T = some (.finished .cancelled)) ?_ (Or.inl h) inputs
  intro s s' move h
  -- it waits for nothing and asks for nothing, so all that is left to it is to end
  have hlost {t : Task} (ht : s.state.tasks.lookup T = some t) :
      t = .ready .cancelled ∨ t = .finished .cancelled := by
    rcases h with h | h
    · exact Or.inl (Option.some.inj (ht.symm.trans h))
    · exact Or.inr (Option.some.inj (ht.symm.trans h))
  cases move.task_move T with
  | kept same => rwa [same]
  | overtaken _ now _ => exact Or.inl now
  | cancelled _ now _ => exact Or.inl now
  | started new _ _ => rcases h with h | h <;> cases new.symm.trans h
  | answered waiting _ _ | told waiting _ _ _ | released waiting _ _ _ _ =>
    rcases hlost waiting with heq | heq <;> cases heq
  | finished ready why now =>
    rcases hlost ready with heq | heq
    · cases heq
      obtain rfl : _ = Outcome.cancelled := why
      exact Or.inr now
    · cases heq
  | asked ready why _ _ | joined ready why _ _ _ | superseded ready why _ _ _ _ =>
    rcases hlost ready with heq | heq
    · cases heq
      cases why
    · cases heq

/-- The two sessions agree on all but these tasks: on the snapshot, the fetches and the followers,
on views, on requests, on every other task, on everything that was seen from outside in its order
and on the turns to come. -/
structure AgreeBesides (ts : List String) (s s' : Session) : Prop where
  cache : s'.state.cache = s.state.cache
  views : s'.state.views = s.state.views
  callbacks : s'.state.callbacks = s.state.callbacks
  pending : s'.state.pending = s.state.pending
  tasks : ∀ U, U ∉ ts → s'.state.tasks.lookup U = s.state.tasks.lookup U
  journal : s'.state.journal.filter (!Entry.tellsEndOf ts ·)
    = s.state.journal.filter (!Entry.tellsEndOf ts ·)
  queue : s'.queue.filter (!Turn.isOf ts ·) = s.queue.filter (!Turn.isOf ts ·)

theorem agreeBesides_of_eq (h : s'.besides ts = s.besides ts) : AgreeBesides ts s s' := by
  have hstate : s'.state.besides ts = s.state.besides ts := congrArg Session.state h
  have hcache : (s'.state.besides ts).cache = (s.state.besides ts).cache := by rw [hstate]
  have hviews : (s'.state.besides ts).views = (s.state.besides ts).views := by rw [hstate]
  have hcallbacks : (s'.state.besides ts).callbacks = (s.state.besides ts).callbacks := by
    rw [hstate]
  have hpending : (s'.state.besides ts).pending = (s.state.besides ts).pending := by rw [hstate]
  have hjournal : (s'.state.besides ts).journal = (s.state.besides ts).journal := by rw [hstate]
  refine ⟨hcache, hviews, hcallbacks, hpending, ?_, hjournal, congrArg Session.queue h⟩
  intro U hU
  rw [← lookup_besides hU, hstate, lookup_besides hU]

/-- What can be said of these tasks, should they all be cancelled now. -/
structure Isolated (s : Session) (ts : List String) : Prop where
  /-- If the same happens from then on, turns of these tasks apart, all else is the same. -/
  agree : ∀ kept cut, othersOf ts s kept = othersOf ts (s.cancelAll ts) cut →
    AgreeBesides ts (s.run kept) ((s.cancelAll ts).run cut)
  /-- Whatever can happen if they are not cancelled can happen if they are. -/
  cuts : ∀ kept, ∃ cut, othersOf ts s kept = othersOf ts (s.cancelAll ts) cut
  /-- Whatever can happen if they are cancelled can happen if they are not. -/
  keeps : ∀ cut, ∃ kept, othersOf ts s kept = othersOf ts (s.cancelAll ts) cut
  /-- If the same events come in the same steps, all else is the same after each of them. -/
  steps : ∀ batches, AgreeBesides ts (s.steps batches) ((s.cancelAll ts).steps batches)
  /-- The same events fail, and for the same reason. -/
  failures : ∀ batches events,
    (((s.cancelAll ts).steps batches).step events).2 = ((s.steps batches).step events).2
  /-- The tasks that were cancelled end as cancelled. -/
  ends : ∀ T ∈ ts, ∀ cut o, ((s.cancelAll ts).run cut).state.tasks.lookup T = some (.finished o) →
    o = .cancelled

/-- Whether callers that wait for the outcome of a fetch are cancelled, all of them or some,
makes no difference to anybody else. -/
theorem cancelled_isolated (client : Client) (inputs : List Input) (ts : List String)
    (waits : ∀ T ∈ ts, ∃ f, (reached client inputs).state.tasks.lookup T
      = some (.waiting (.fetch f .outcome))) : Isolated (reached client inputs) ts := by
  generalize hs : reached client inputs = s at waits ⊢
  have att : s.state.Attended ts := by
    constructor
    · intro T hT
      rcases waits T hT with ⟨f, hf⟩
      exact ⟨_, hf, .waiting⟩
    · intro T _
      exact hs ▸ reached_accounts client inputs (.task T)
  -- besides the tasks both sessions are the same now, and so both do the same
  have attCut : (s.cancelAll ts).state.Attended ts := attended_run att _
  have hcut : (s.cancelAll ts).besides ts = s.besides ts := cancelAll_besides att fun _ h => h
  constructor
  · intro kept cut same
    apply agreeBesides_of_eq
    rw [run_besides attCut, run_besides att, hcut, same]
  · intro kept
    rcases exists_schedule attCut (othersOf ts s kept) with ⟨cut, h⟩
    exact ⟨cut, h.symm⟩
  · exact fun cut => exists_schedule att (othersOf ts (s.cancelAll ts) cut)
  · intro batches
    apply agreeBesides_of_eq
    rw [(steps_besides attCut batches).1, (steps_besides att batches).1, hcut]
  · intro batches events
    rcases steps_besides att batches with ⟨hkept, attKept⟩
    rcases steps_besides attCut batches with ⟨hsteps, attSteps⟩
    have hkeptStep := congrArg Prod.snd (step_besides attKept events)
    have hcutStep := congrArg Prod.snd (step_besides attSteps events)
    rw [hkept] at hkeptStep
    rw [hsteps, hcut] at hcutStep
    exact hcutStep.symm.trans hkeptStep
  · intro T hT cut o hfinished
    rcases waits T hT with ⟨f, hf⟩
    have hready : (s.cancelAll ts).state.tasks.lookup T = some (.ready .cancelled) := by
      rw [lookup_cancelAll ts hf (by simp), if_pos hT]
    rcases run_cancelled hready cut with h | h
    · cases hfinished.symm.trans h
    · cases hfinished.symm.trans h
      rfl

/-- The task that began the fetch and the one that joined it are cancelled. The fetch goes on,
and the callback that follows the cache is told of what it reads. -/
theorem cancelled_isolated_of_two :
    let client : Client := ⟨⟨"http://localhost:3625", .whole 30, 100, by decide⟩, ""⟩
    let page : Answer := .response ⟨200, ("\x7b\"Data\":[\x7b\"ID\":1" ++
      ",\"URL\":\"u\",\"Username\":\"n\",\"Password\":\"p\"\x7d]\x7d").toUTF8.data.toList⟩
    let ts := ["starter", "joiner"]
    let inputs : List Input := [.event (.subscribe "watcher" []),
      .event (.spawn "starter" (.revalidate false)), .turn, .turn,
      .event (.spawn "joiner" (.revalidate false)), .turn]
    let cut := ((reached client inputs).cancelAll ts).run
      ([.turn, .turn, .event (.respond 0 page)] ++ List.replicate 4 .turn)
    (∀ T ∈ ts, ∃ f, (reached client inputs).state.tasks.lookup T
        = some (.waiting (.fetch f .outcome)))
      ∧ Isolated (reached client inputs) ts
      ∧ cut.queue = []
      ∧ cut.state.journal = [.sent (.page none 100 0), .finished "starter" .cancelled,
        .finished "joiner" .cancelled, .notified "watcher" [⟨.number 1, "u", "n", "p"⟩]] := by
  intro client page ts inputs cut
  have waits : ∀ T ∈ ts, ∃ f, (reached client inputs).state.tasks.lookup T
      = some (.waiting (.fetch f .outcome)) := by
    intro T hT
    rcases List.mem_cons.mp hT with rfl | hT
    · exact ⟨0, rfl⟩
    · obtain rfl : T = "joiner" := by simpa using hT
      exact ⟨0, rfl⟩
  refine ⟨waits, cancelled_isolated client inputs ts waits, ?_, ?_⟩
  · decide +kernel
  · decide +kernel

end Session

end LoginVault
