import LoginVault.Proofs.Session.OwnTurns
import LoginVault.Proofs.Session.SaveTurns

/-!
# Session.Saving — a form is saved as a whole or not at all

A task that submits the form of a view is followed from its first turn on, through whatever inputs
come (`SaveProgress`). It reads one answer at most (`ReadsOnce`). It asks the store for its record
if that has no problem, and for nothing else. If the answer says that the login was created, it
calls for a fresh snapshot, once, and returns the login however the fetch ends; if not, it leaves
all alone but the form.

Main result: `submission_atomic`.
-/

namespace LoginVault

namespace Session

open State

/-! ## What is read -/

/-- Whether the task reads this answer to the creation of its record in the turn after `early`. -/
structure ReadsAnswer (s : Session) (T view : String) (record : NewLogin)
    (inputs early : List Input) (a : Answer) : Prop extends OwnTurn s T inputs early where
  now : (s.run early).state.tasks.lookup T = some (.ready (.answered (.submit view record) a))

/-- What the task takes for granted: it is not cancelled, and the observer of the view does not fail
in its turns. -/
structure Undisturbed (s : Session) (T view : String) (inputs : List Input) : Prop where
  uncancelled : .event (.cancel T) ∉ inputs
  draws : ∀ early, OwnTurn s T inputs early → (s.run early).state.fault? view = none

variable {s : Session} {T view : String} {record : NewLogin} {inputs early : List Input}
  {i : Input} {a : Answer}

theorem ReadsAnswer.of_prefix {first : List Input}
    (reads : ReadsAnswer s T view record early first a) (within : early <+: inputs) :
    ReadsAnswer s T view record inputs first a :=
  ⟨reads.toOwnTurn.of_prefix within, reads.now⟩

/-- Whether the task has read no answer so far. -/
def ReadsNone (s : Session) (T view : String) (record : NewLogin) (inputs : List Input) : Prop :=
  ∀ early a, ¬ ReadsAnswer s T view record inputs early a

/-- Whether the task has read this answer and no other. -/
structure ReadsOnce (s : Session) (T view : String) (record : NewLogin)
    (inputs early : List Input) (a : Answer) : Prop
    extends ReadsAnswer s T view record inputs early a where
  sole : ∀ other b, ReadsAnswer s T view record inputs other b → other = early

/-- What is read in the course of more inputs was read before, or is read in the last turn. -/
theorem ReadsAnswer.of_concat (reads : ReadsAnswer s T view record (inputs ++ [i]) early a) :
    ReadsAnswer s T view record inputs early a
      ∨ early = inputs ∧ i = .turn ∧ (s.run inputs).queue.head? = some (.task T)
        ∧ (s.run inputs).state.tasks.lookup T
          = some (.ready (.answered (.submit view record) a)) := by
  rcases reads.toOwnTurn.of_concat with before | ⟨rfl, rfl⟩
  · exact Or.inl ⟨before, reads.now⟩
  · exact Or.inr ⟨rfl, rfl, reads.head, reads.now⟩

/-- A task that has no answer to read reads none. -/
theorem ReadsNone.later (unread : ReadsNone s T view record inputs)
    (nothing : ∀ a, (s.run inputs).state.tasks.lookup T
      = some (.ready (.answered (.submit view record) a)) →
        i = .turn → (s.run inputs).queue.head? ≠ some (.task T)) :
    ReadsNone s T view record (inputs ++ [i]) := by
  intro early a reads
  rcases reads.of_concat with before | ⟨-, hi, head, now⟩
  · exact unread early a before
  · exact nothing a now hi head

theorem ReadsOnce.later (reads : ReadsOnce s T view record inputs early a)
    (nothing : ∀ b, (s.run inputs).state.tasks.lookup T
      ≠ some (.ready (.answered (.submit view record) b))) (i : Input) :
    ReadsOnce s T view record (inputs ++ [i]) early a where
  toOwnTurn := reads.toOwnTurn.of_prefix (List.prefix_append _ _)
  now := reads.now
  sole := by
    intro other b now
    rcases now.of_concat with before | ⟨-, -, -, answered⟩
    · exact reads.sole other b before
    · exact absurd answered (nothing b)

theorem ReadsNone.reads (unread : ReadsNone s T view record inputs)
    (head : (s.run inputs).queue.head? = some (.task T))
    (now : (s.run inputs).state.tasks.lookup T
      = some (.ready (.answered (.submit view record) a))) :
    ReadsOnce s T view record (inputs ++ [.turn]) inputs a where
  within := List.prefix_rfl
  head := head
  now := now
  sole := by
    intro other b reads
    rcases reads.of_concat with before | ⟨same, -⟩
    · exact absurd before (unread other b)
    · exact same

/-! ## How far the task is -/

/-- How far the task is after these inputs that was about to submit `record` in the form of `view`,
and what it has asked of the store. -/
inductive SaveProgress (s : Session) (T view : String) (record : NewLogin) (inputs : List Input) :
    List Query → Prop
  | begins (untaken : ∀ early, ¬ OwnTurn s T inputs early)
      (now : (s.run inputs).state.tasks.lookup T
        = some (.ready (.begin (.submit view (.ok record))))) :
      SaveProgress s T view record inputs []
  | blank (problem : record.problem? ≠ none) (unread : ReadsNone s T view record inputs)
      (now : (s.run inputs).state.tasks.lookup T = some (.finished (.returned .nothing))) :
      SaveProgress s T view record inputs []
  | waits (complete : record.problem? = none) (unread : ReadsNone s T view record inputs)
      (now : (s.run inputs).state.tasks.lookup T
        = some (.waiting (.answer (.submit view record)))) :
      SaveProgress s T view record inputs [.create record]
  | answered {a : Answer} (complete : record.problem? = none)
      (unread : ReadsNone s T view record inputs)
      (now : (s.run inputs).state.tasks.lookup T
        = some (.ready (.answered (.submit view record) a))) :
      SaveProgress s T view record inputs [.create record]
  | refused {early : List Input} {a : Answer} {f : Failure} (complete : record.problem? = none)
      (reads : ReadsOnce s T view record inputs early a)
      (read : a.result (.create record) Response.created = .error f)
      (now : (s.run inputs).state.tasks.lookup T = some (.finished (.returned .nothing))) :
      SaveProgress s T view record inputs [.create record]
  | reloads {early : List Input} {a : Answer} {login : Login} (complete : record.problem? = none)
      (reads : ReadsOnce s T view record inputs early a)
      (read : a.result (.create record) Response.created = .ok login)
      (pursues : (s.run inputs).state.Pursues T (s.run early).state.cache.fetches.length
        (.saved view login))
      (active : ∀ o, (s.run inputs).state.tasks.lookup T ≠ some (.finished o))
      (uncancelled : (s.run inputs).state.tasks.lookup T ≠ some (.ready .cancelled)) :
      SaveProgress s T view record inputs [.create record]
  | saved {early : List Input} {a : Answer} {login : Login} (complete : record.problem? = none)
      (reads : ReadsOnce s T view record inputs early a)
      (read : a.result (.create record) Response.created = .ok login)
      (now : (s.run inputs).state.tasks.lookup T
        = some (.finished (.returned (.login login)))) :
      SaveProgress s T view record inputs [.create record]

variable {sent : List Query}

/-- A turn of the task in which it has nothing to do leaves it where it is. -/
theorem SaveProgress.idle (progress : SaveProgress s T view record inputs sent)
    (idle : ∀ r, (s.run inputs).state.tasks.lookup T ≠ some (.ready r))
    (head : (s.run inputs).queue.head? = some (.task T)) :
    SaveProgress s T view record (inputs ++ [.turn]) sent := by
  have hsame : (s.run (inputs ++ [.turn])).state = (s.run inputs).state := by
    rw [run_concat, advance_of_head head, resume_idle idle]
  have hunread (unread : ReadsNone s T view record inputs) :
      ReadsNone s T view record (inputs ++ [.turn]) :=
    unread.later fun a now => absurd now (idle _)
  cases progress with
  | begins _ now => exact absurd now (idle _)
  | answered _ _ now => exact absurd now (idle _)
  | blank problem unread now => exact .blank problem (hunread unread) (hsame ▸ now)
  | waits complete unread now => exact .waits complete (hunread unread) (hsame ▸ now)
  | refused complete reads read now =>
    exact .refused complete (reads.later (fun b => idle _) _) read (hsame ▸ now)
  | saved complete reads read now =>
    exact .saved complete (reads.later (fun b => idle _) _) read (hsame ▸ now)
  | reloads complete reads read pursues active uncancelled =>
    exact .reloads complete (reads.later (fun b => idle _) _) read (hsame ▸ pursues)
      (hsame ▸ active) (hsame ▸ uncancelled)

/-- A turn of the task brings it on. -/
theorem SaveProgress.own (progress : SaveProgress s T view record inputs sent)
    (inv : Inv (s.run inputs)) (ordinary : (s.run inputs).state.IsOrdinary)
    (head : (s.run inputs).queue.head? = some (.task T))
    (draws : (s.run inputs).state.fault? view = none) :
    SaveProgress s T view record (inputs ++ [.turn])
      (sent ++ (s.run inputs).newlyAsked T .turn) := by
  have hstate : (s.run (inputs ++ [.turn])).state = ((s.run inputs).state.resume T).1 := by
    rw [run_concat, advance_of_head head]
  by_cases idle : ∀ r, (s.run inputs).state.tasks.lookup T ≠ some (.ready r)
  · rw [newlyAsked_idle idle, List.append_nil]
    exact progress.idle idle head
  · cases progress with
    | blank _ _ now => exact absurd (by simp [now]) idle
    | waits _ _ now => exact absurd (by simp [now]) idle
    | refused _ _ _ now => exact absurd (by simp [now]) idle
    | saved _ _ _ now => exact absurd (by simp [now]) idle
    | begins untaken now =>
      have hbefore : ReadsNone s T view record inputs := fun early a reads =>
        untaken early reads.toOwnTurn
      have hunread : ReadsNone s T view record (inputs ++ [.turn]) :=
        hbefore.later fun a answered => by simp [now] at answered
      cases hproblem : record.problem? with
      | some problem =>
        have gives := resume_blank now hproblem draws
        rw [newlyAsked_own head gives.deeds]
        exact .blank (by simp [hproblem]) hunread (hstate ▸ gives.now)
      | none =>
        have posts := resume_posts now hproblem draws
        rw [newlyAsked_own head posts.deeds]
        exact .waits hproblem hunread (hstate ▸ posts.now)
    | @answered a complete unread now =>
      have reads := unread.reads head now
      cases hread : a.result (.create record) Response.created with
      | ok login =>
        have accepts := inv.resume_accepts now hread draws
        rw [newlyAsked_own head accepts.deeds]
        obtain ⟨w, waits⟩ := accepts.waits
        rw [← hstate] at waits
        exact .reloads complete reads hread (hstate ▸ accepts.pursues) (by simp [waits])
          (by simp [waits])
      | error f =>
        have hreportable := (ordinary.tasks T _ a now).result (.create record) Response.created
        obtain ⟨e, rfl⟩ := (hread ▸ hreportable).exists_store
        have gives := resume_refused now hread draws
        rw [newlyAsked_own head gives.deeds]
        exact .refused complete reads hread (hstate ▸ gives.now)
    | @reloads early a login complete reads read pursues active uncancelled =>
      have hreads := reads.later (fun b answered => pursues.not_own answered trivial) .turn
      by_cases told : (s.run inputs).state.tasks.lookup T = some (.ready
          (.fetchEnded (s.run early).state.cache.fetches.length (.saved view login)))
      · obtain ⟨r, outcome⟩ := inv.live.told T _ _ told
        have ends := resume_reloads told outcome (ordinary.outcomes _ r outcome) draws
        rw [newlyAsked_own head ends.deeds]
        exact .saved complete hreads read (hstate ▸ ends.now)
      · have hresume := (pursues.turn active uncancelled told).resolve_left idle
        have hpursues := inv.pursues ((s.run inputs).advance_move .turn) pursues
        rw [newlyAsked_own head (hresume ▸ awaitFetch_adds _ T _)]
        rw [← run_concat] at hpursues
        exact .reloads complete hreads read hpursues (by simp [hstate, hresume])
          (by simp [hstate, hresume])

/-- An input that is no turn of the task brings it an answer or leaves it on its way. -/
theorem SaveProgress.other (progress : SaveProgress s T view record inputs sent)
    (inv : Inv (s.run inputs)) (spared : i ≠ .event (.cancel T))
    (other : i = .turn → (s.run inputs).queue.head? ≠ some (.task T)) :
    SaveProgress s T view record (inputs ++ [i]) sent := by
  have move := (s.run inputs).advance_move i
  have hrun := run_concat s inputs i
  have hunread (unread : ReadsNone s T view record inputs) :
      ReadsNone s T view record (inputs ++ [i]) :=
    unread.later fun _ _ => other
  cases progress with
  | begins untaken now =>
    refine .begins (fun early own => ?_) (hrun ▸ ready_kept now (by simp) spared other)
    rcases own.of_concat with before | ⟨rfl, hi⟩
    · exact untaken early before
    · exact other hi own.head
  | answered complete unread now =>
    exact .answered complete (hunread unread) (hrun ▸ ready_kept now (by simp) spared other)
  | blank problem unread now =>
    exact .blank problem (hunread unread) (hrun ▸ (move.task_move T).of_finished now)
  | refused complete reads read now =>
    exact .refused complete (reads.later (by simp [now]) i) read
      (hrun ▸ (move.task_move T).of_finished now)
  | saved complete reads read now =>
    exact .saved complete (reads.later (by simp [now]) i) read
      (hrun ▸ (move.task_move T).of_finished now)
  | waits complete unread now =>
    cases move.task_move T with
    | kept same => exact .waits complete (hunread unread) (hrun ▸ same.trans now)
    | cancelled _ now' _ => exact absurd now' (not_cancelled (by simp [now]) spared)
    | answered waiting now' _ =>
      obtain rfl : _ = Errand.submit view record := by simpa using waiting.symm.trans now
      exact .answered complete (hunread unread) (hrun ▸ now')
    | _ => simp_all
  | reloads complete reads read pursues active uncancelled =>
    have hreads := reads.later (fun b answered => pursues.not_own answered trivial) i
    refine .reloads complete hreads read (hrun ▸ inv.pursues move pursues) (fun o now => ?_)
      (hrun ▸ not_cancelled uncancelled spared)
    -- a task finishes in a turn of its own only
    rw [hrun] at now
    rcases (s.run inputs).advance_own_or_ready i T with ⟨hi, head⟩ | same | ⟨r, ready⟩
    · exact other hi head
    · exact active o (same.symm.trans now)
    · simp [now] at ready

theorem Undisturbed.earlier {more : List Input}
    (undisturbed : Undisturbed s T view (inputs ++ more)) : Undisturbed s T view inputs where
  uncancelled := fun mem => undisturbed.uncancelled (List.mem_append_left _ mem)
  draws := fun early own => undisturbed.draws early (own.of_prefix (List.prefix_append _ _))

/-- A task that is about to submit a form goes on so, whatever inputs come. -/
theorem Inv.progress (inv : Inv s) (ordinary : s.state.IsOrdinary)
    (given : ∀ i ∈ inputs, i.IsOrdinary)
    (ready : s.state.tasks.lookup T = some (.ready (.begin (.submit view (.ok record)))))
    (undisturbed : Undisturbed s T view inputs) :
    SaveProgress s T view record inputs (askedBy T s inputs) := by
  induction inputs using List.reverseRecOn with
  | nil =>
    refine .begins (fun early own => ?_) ready
    simpa using List.prefix_nil.mp own.within
  | append_singleton inputs i ih =>
    have hgiven : ∀ j ∈ inputs, j.IsOrdinary := fun j mem => given j (List.mem_append_left _ mem)
    have before := ih hgiven undisturbed.earlier
    have hspared : i ≠ .event (.cancel T) := fun h =>
      undisturbed.uncancelled (h ▸ List.mem_append_right _ List.mem_cons_self)
    rw [askedBy_concat]
    by_cases own : i = .turn ∧ (s.run inputs).queue.head? = some (.task T)
    · obtain ⟨rfl, head⟩ := own
      exact before.own (inv.run inputs) (run_ordinary ordinary hgiven) head
        (undisturbed.draws inputs ⟨List.prefix_rfl, head⟩)
    · have hother : i = .turn → (s.run inputs).queue.head? ≠ some (.task T) :=
        fun hi head => own ⟨hi, head⟩
      rw [newlyAsked_other hother, List.append_nil]
      exact before.other (inv.run inputs) hspared hother

/-! ## What follows from how far it is -/

/-- A task that has taken a turn has asked for its record if that has no problem, and for nothing
else. -/
theorem SaveProgress.asks (progress : SaveProgress s T view record inputs sent)
    (own : OwnTurn s T inputs early) :
    sent = if record.problem? = none then [.create record] else [] := by
  cases progress with
  | begins untaken _ => exact absurd own (untaken early)
  | blank problem _ _ => rw [if_neg problem]
  | waits complete _ _ | answered complete _ _ | refused complete _ _ _ | reloads complete _ _ _ _ _
  | saved complete _ _ _ => rw [if_pos complete]

theorem SaveProgress.sole (progress : SaveProgress s T view record inputs sent) {other : List Input}
    {b : Answer} (reads : ReadsAnswer s T view record inputs early a)
    (reads' : ReadsAnswer s T view record inputs other b) : other = early := by
  cases progress with
  | begins untaken _ => exact absurd reads.toOwnTurn (untaken early)
  | blank _ unread _ | waits _ unread _ | answered _ unread _ => exact absurd reads (unread early a)
  | refused _ only _ _ | reloads _ only _ _ _ _ | saved _ only _ _ =>
    exact (only.sole other b reads').trans (only.sole early a reads).symm

/-- It calls for a snapshot only as it reads that its login was created. -/
theorem SaveProgress.calls (progress : SaveProgress s T view record inputs sent) {fresh : Bool}
    {p : Purpose} (calls : (s.run inputs).state.Calls T fresh p) :
    ∃ a login,
      (s.run inputs).state.tasks.lookup T = some (.ready (.answered (.submit view record) a))
        ∧ a.result (.create record) Response.created = .ok login
        ∧ fresh = true ∧ p = .saved view login := by
  rcases calls.found with ⟨c, ready, other⟩ | ⟨w, r, a, login, ready, read, rfl, rfl⟩
  · cases progress with
    | begins _ now => exact absurd (by simpa using ready.symm.trans now) (other view (.ok record))
    | reloads _ _ _ pursues _ _ => exact absurd trivial (pursues.not_own ready)
    | blank _ _ now | waits _ _ now | answered _ _ now | refused _ _ _ now | saved _ _ _ now =>
      simp [now] at ready
  · cases progress with
    | answered _ _ now =>
      obtain ⟨⟨rfl, rfl⟩, rfl⟩ : (w = view ∧ r = record) ∧ a = _ := by
        simpa using ready.symm.trans now
      exact ⟨a, login, ready, read, rfl, rfl⟩
    | reloads _ _ _ pursues _ _ => exact absurd trivial (pursues.not_own ready)
    | begins _ now | blank _ _ now | waits _ _ now | refused _ _ _ now | saved _ _ _ now =>
      simp [now] at ready

/-- It is told of no fetch but the next that began after its login was created. -/
theorem SaveProgress.told (progress : SaveProgress s T view record inputs sent) {n : Nat}
    {p : Purpose} (told : (s.run inputs).state.tasks.lookup T = some (.ready (.fetchEnded n p))) :
    ∃ first a login, ReadsAnswer s T view record inputs first a
      ∧ a.result (.create record) Response.created = .ok login
      ∧ n = (s.run first).state.cache.fetches.length ∧ p = .saved view login := by
  cases progress with
  | @reloads first a login _ reads read pursues _ _ =>
    obtain ⟨rfl, rfl⟩ := pursues.of_told told
    exact ⟨first, a, login, reads.toReadsAnswer, read, rfl, rfl⟩
  | begins _ now | blank _ _ now | waits _ _ now | answered _ _ now | refused _ _ _ now
  | saved _ _ _ now => simp [now] at told

theorem SaveProgress.ends (progress : SaveProgress s T view record inputs sent) {o : Outcome}
    (now : (s.run inputs).state.tasks.lookup T = some (.finished o)) :
    (o = .returned .nothing ∧ (record.problem? ≠ none ∨ ∃ early a f,
      ReadsAnswer s T view record inputs early a
        ∧ a.result (.create record) Response.created = .error f))
    ∨ ∃ early a login, ReadsAnswer s T view record inputs early a
        ∧ a.result (.create record) Response.created = .ok login
        ∧ o = .returned (.login login) := by
  cases progress with
  | blank problem _ ended =>
    obtain rfl : .returned .nothing = o := by simpa using ended.symm.trans now
    exact Or.inl ⟨rfl, Or.inl problem⟩
  | refused _ reads read ended =>
    obtain rfl : .returned .nothing = o := by simpa using ended.symm.trans now
    exact Or.inl ⟨rfl, Or.inr ⟨_, _, _, reads.toReadsAnswer, read⟩⟩
  | @saved _ _ login _ reads read ended =>
    obtain rfl : .returned (.login login) = o := by simpa using ended.symm.trans now
    exact Or.inr ⟨_, _, login, reads.toReadsAnswer, read, rfl⟩
  | reloads _ _ _ _ active _ => exact absurd now (active o)
  | begins _ ready | waits _ _ ready | answered _ _ ready => simp [ready] at now

theorem SaveProgress.rests (progress : SaveProgress s T view record inputs sent)
    (inv : Inv (s.run inputs)) (rest : (s.run inputs).queue = []) :
    (∃ o, (s.run inputs).state.tasks.lookup T = some (.finished o))
      ∨ (.task T, .create record) ∈ (s.run inputs).state.pending
      ∨ ∃ f q, (s.run inputs).state.cache.isRunning f = true
        ∧ (.fetch f, q) ∈ (s.run inputs).state.pending := by
  cases progress with
  | begins _ now | answered _ _ now => exact absurd now (inv.not_ready rest _)
  | blank _ _ now | refused _ _ _ now | saved _ _ _ now => exact Or.inl ⟨_, now⟩
  | waits _ _ now => exact Or.inr (Or.inl (inv.live.requests T _ now))
  | reloads _ _ _ pursues _ _ =>
    rcases inv.finished_or_asking rest pursues with finished | ⟨f, q, -, running, mem⟩
    · exact Or.inl finished
    · exact Or.inr (Or.inr ⟨f, q, running, mem⟩)

/-! ## As a whole or not at all -/

/-- What comes of the login of a form, if the first of these inputs is the turn in which the task
`T` submits it. -/
structure AtomicSave (s : Session) (T view : String) (record : NewLogin) (inputs : List Input) :
    Prop where
  /-- A record with a problem is given up in this turn, with the text of the problem, and nothing is
  ever asked of the store. -/
  blank : ∀ problem, record.problem? = some problem →
    GivesUp s.state (s.advance .turn).state T view ({ · with error := problem.message })
      ∧ askedBy T s inputs = []
  /-- Any other record is posted in this turn, and nothing else is ever asked of the store. -/
  posted : record.problem? = none →
    Posts s.state (s.advance .turn).state T view record ∧ askedBy T s inputs = [.create record]
  /-- The task reads one answer at most. -/
  sole : ∀ early other a b, ReadsAnswer s T view record inputs early a →
    ReadsAnswer s T view record inputs other b → other = early
  /-- If it reads that the record was not created, it gives the record up, with the text of the
  failure. -/
  refused : ∀ early a f, ReadsAnswer s T view record inputs early a →
    a.result (.create record) Response.created = .error f →
    ∃ e, f = .store e ∧ GivesUp (s.run early).state (s.run (early ++ [.turn])).state T view
      ({ · with submitting := false, error := e.message })
  /-- If it reads that a login was created, it closes the form and calls for a fresh snapshot. -/
  accepted : ∀ early a login, ReadsAnswer s T view record inputs early a →
    a.result (.create record) Response.created = .ok login →
    Accepts (s.run early).state (s.run (early ++ [.turn])).state T view login
  /-- In no other turn does it call for a snapshot. -/
  calls : ∀ early fresh p, OwnTurn s T inputs early → (s.run early).state.Calls T fresh p →
    ∃ a login, ReadsAnswer s T view record inputs early a
      ∧ a.result (.create record) Response.created = .ok login
      ∧ fresh = true ∧ p = .saved view login
  /-- The fetch of which it is told is the next that began after the login was created, and it
  returns the login however this fetch ended. -/
  reloaded : ∀ early n p, OwnTurn s T inputs early →
    (s.run early).state.tasks.lookup T = some (.ready (.fetchEnded n p)) →
    ∃ first a login r, ReadsAnswer s T view record inputs first a
      ∧ a.result (.create record) Response.created = .ok login
      ∧ n = (s.run first).state.cache.fetches.length
      ∧ (s.run early).state.cache.outcome? n = some r
      ∧ Reloads (s.run early).state (s.run (early ++ [.turn])).state T view login r
  /-- It returns the login if it read that it was created, and nothing if it gave the record up. -/
  ends : ∀ o, (s.run inputs).state.tasks.lookup T = some (.finished o) →
    (o = .returned .nothing ∧ (record.problem? ≠ none ∨ ∃ early a f,
      ReadsAnswer s T view record inputs early a
        ∧ a.result (.create record) Response.created = .error f))
    ∨ ∃ early a login, ReadsAnswer s T view record inputs early a
        ∧ a.result (.create record) Response.created = .ok login ∧ o = .returned (.login login)
  /-- When no turn is left, it has ended, or its request is pending, or one of the fetch it waits
  for. -/
  rests : (s.run inputs).queue = [] →
    (∃ o, (s.run inputs).state.tasks.lookup T = some (.finished o))
      ∨ (.task T, .create record) ∈ (s.run inputs).state.pending
      ∨ ∃ f q, (s.run inputs).state.cache.isRunning f = true
        ∧ (.fetch f, q) ∈ (s.run inputs).state.pending

/-- A login that is submitted in a form is saved as a whole or not at all, under every
interleaving. -/
theorem submission_atomic {client : Client} {before later : List Input} {T view : String}
    {record : NewLogin} {rest : List Turn}
    (queue : (reached client before).queue = .task T :: rest)
    (ready : (reached client before).state.tasks.lookup T
      = some (.ready (.begin (.submit view (.ok record)))))
    (undisturbed : Undisturbed (reached client before) T view (.turn :: later))
    (given : ∀ i ∈ before ++ .turn :: later, i.IsOrdinary) :
    AtomicSave (reached client before) T view record (.turn :: later) := by
  have inv := reached_inv client before
  have ordinary : (reached client before).state.IsOrdinary :=
    reached_ordinary client fun i mem => given i (List.mem_append_left _ mem)
  generalize reached client before = s at *
  have hgiven : ∀ i ∈ Input.turn :: later, i.IsOrdinary :=
    fun i mem => given i (List.mem_append_right _ mem)
  have hwithin {early : List Input} (within : early <+: .turn :: later) :
      (∀ i ∈ early, i.IsOrdinary) ∧ SaveProgress s T view record early (askedBy T s early) := by
    obtain ⟨more, hmore⟩ := within
    rw [← hmore] at hgiven undisturbed
    have hearlier : ∀ i ∈ early, i.IsOrdinary := fun i mem =>
      hgiven i (List.mem_append_left _ mem)
    exact ⟨hearlier, inv.progress ordinary hearlier ready undisturbed.earlier⟩
  have hbefore {early : List Input} (own : OwnTurn s T (.turn :: later) early) :=
    hwithin ((List.prefix_append early _).trans own.within)
  have progress := (hwithin List.prefix_rfl).2
  -- the first turn is the task's, and it begins
  have first : OwnTurn s T (.turn :: later) [] := ⟨⟨later, rfl⟩, by simp [queue]⟩
  have hfirst : (s.advance .turn).state = (s.state.resume T).1 := first.state
  have hdraws := undisturbed.draws [] first
  exact {
    blank := by
      intro problem why
      refine ⟨hfirst ▸ resume_blank ready why hdraws, ?_⟩
      rw [progress.asks first, if_neg (by simp [why])]
    posted := by
      intro complete
      refine ⟨hfirst ▸ resume_posts ready complete hdraws, ?_⟩
      rw [progress.asks first, if_pos complete]
    sole := fun early other a b reads reads' => progress.sole reads reads'
    refused := by
      intro early a f reads read
      have hordinary := run_ordinary ordinary (hbefore reads.toOwnTurn).1
      have hreportable := (hordinary.tasks T _ a reads.now).result (.create record) Response.created
      obtain ⟨e, rfl⟩ := (read ▸ hreportable).exists_store
      refine ⟨e, rfl, ?_⟩
      rw [reads.state]
      exact resume_refused reads.now read (undisturbed.draws early reads.toOwnTurn)
    accepted := by
      intro early a login reads read
      rw [reads.state]
      exact (inv.run early).resume_accepts reads.now read
        (undisturbed.draws early reads.toOwnTurn)
    calls := by
      intro early fresh p own calls
      obtain ⟨a, login, now, read, rfl, rfl⟩ := (hbefore own).2.calls calls
      exact ⟨a, login, ⟨own, now⟩, read, rfl, rfl⟩
    reloaded := by
      intro early n p own told
      obtain ⟨first, a, login, reads, read, rfl, rfl⟩ := (hbefore own).2.told told
      obtain ⟨r, outcome⟩ := (inv.run early).live.told T _ _ told
      have hordinary := run_ordinary ordinary (hbefore own).1
      refine ⟨first, a, login, r, ?_, read, rfl, outcome, ?_⟩
      · exact reads.of_prefix ((List.prefix_append early _).trans own.within)
      · rw [own.state]
        exact resume_reloads told outcome (hordinary.outcomes _ r outcome)
          (undisturbed.draws early own)
    ends := fun o now => progress.ends now
    rests := progress.rests (inv.run _) }

/-- A login is created while a fetch is in flight, and the fetch that the task calls for fails: the
task returns its login all the same, and the failure is kept on the view. -/
theorem submission_atomic_before_failure :
    let client : Client := ⟨⟨"http://localhost:3625", .whole 30, 100, by decide⟩, ""⟩
    let record : NewLogin := ⟨"u", "n", "p"⟩
    let answer (body : String) : Answer := .response ⟨200, body.toUTF8.data.toList⟩
    let created := answer "\x7b\"ID\":1,\"URL\":\"u\",\"Username\":\"n\",\"Password\":\"p\"\x7d"
    let lost : Answer := .fault (.network .connecting "lost")
    let before : List Input := [.event (.newView "v" .records),
      .event (.spawn "stale" (.revalidate false)), .turn, .turn,
      .event (.spawn "save" (.submit "v" (.ok record)))]
    let later : List Input := [.event (.respond 1 created), .turn,
      .event (.respond 0 (answer "\x7b\"Data\":[]\x7d"))] ++ List.replicate 7 .turn
      ++ [.event (.respond 0 lost)] ++ List.replicate 4 .turn
    let s := (reached client (before ++ .turn :: later)).state
    AtomicSave (reached client before) "save" "v" record (.turn :: later)
      ∧ askedBy "save" (reached client before) (.turn :: later) = [.create record]
      ∧ .finished "save" (.returned (.login ⟨.number 1, "u", "n", "p"⟩)) ∈ s.journal
      ∧ (s.views.lookup "v").map (fun v => (v.form, v.lastError))
        = some (.closed, some (.transport ⟨.page none 100 0, .network .connecting "lost"⟩)) := by
  intro client record answer created lost before later s
  have draws : ∀ k < 16, ((reached client before).run
      ((Input.turn :: later).take k)).state.fault? "v" = none := by decide +kernel
  refine ⟨submission_atomic rfl rfl ⟨?_, ?_⟩ ?_, ?_, ?_, ?_⟩
  · simp [later]
  · rintro early ⟨within, -⟩
    have hearly := List.prefix_iff_eq_take.mp ((List.prefix_append early _).trans within)
    have hlength := within.length_le
    rw [hearly]
    exact draws _ (by simpa [later, Nat.lt_succ_iff] using hlength)
  · simp [before, later, Input.IsOrdinary, Answer.IsOrdinary, answer, created, lost]
  · decide +kernel
  · decide +kernel
  · decide +kernel

end Session

end LoginVault
