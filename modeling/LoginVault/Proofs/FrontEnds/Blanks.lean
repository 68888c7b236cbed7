import LoginVault.Proofs.FrontEnds.Agreement
import LoginVault.Proofs.Terminal.Saves
import Mathlib.Data.List.TakeWhile

/-!
# FrontEnds.Blanks — which logins are let through

A login is filled if neither its address nor its user name is blank. The form of a view, the dialog
of a terminal and an agent let exactly the filled logins through. For any other login they ask the
store for nothing, and a task that submits one ends in its first turn. The program does not look at
the login that it is told to add: it lets every login through.

Main results: `blanks_guarded`, and `blank_added` for the program.
-/

namespace LoginVault

/-! ## Filled logins -/

namespace Text

/-- Whether a text has a character that is not blank. -/
def HasVisible (s : String) : Prop := ∃ c ∈ s.toList, isBlank c = false

instance (s : String) : Decidable (HasVisible s) :=
  decidable_of_iff (s.toList.any (!isBlank ·) = true) (by simp [HasVisible])

section Trim

variable {p : Char → Bool} {c : Char} {l : List Char}

theorem mem_dropWhile (kept : p c = false) : c ∈ l.dropWhile p ↔ c ∈ l := by
  constructor
  · exact fun mem => (List.dropWhile_sublist p).subset mem
  · intro mem
    rw [← List.takeWhile_append_dropWhile (p := p) (l := l)] at mem
    refine (List.mem_append.mp mem).resolve_left fun dropped => ?_
    simp [List.mem_takeWhile_imp dropped] at kept

/-- What is cut off has only characters of the class. -/
theorem mem_trimWhere (kept : p c = false) : c ∈ trimWhere p l ↔ c ∈ l := by
  simp [trimWhere, mem_dropWhile kept]

end Trim

theorem hasVisible_trim (s : String) : HasVisible (trim s) ↔ HasVisible s := by
  simp only [HasVisible, trim, String.toList_ofList]
  constructor
  · rintro ⟨c, mem, visible⟩
    exact ⟨c, (mem_trimWhere visible).mp mem, visible⟩
  · rintro ⟨c, mem, visible⟩
    exact ⟨c, (mem_trimWhere visible).mpr mem, visible⟩

/-- A field counts as empty if it has no visible character. -/
theorem isEmptyField_iff (s : String) : isEmptyField s = true ↔ ¬ HasVisible s := by
  have hempty : isEmptyField s = true ↔ trimWhere isBlank s.toList = [] := by
    simp [isEmptyField, trim]
  rw [hempty]
  constructor
  · rintro nothing ⟨c, mem, visible⟩
    have hleft := (mem_trimWhere visible).mpr mem
    simp [nothing] at hleft
  · intro blank
    have hdropped : s.toList.dropWhile isBlank = [] := by
      refine List.dropWhile_eq_nil_iff.mpr fun c mem => ?_
      by_contra visible
      exact blank ⟨c, mem, by simpa using visible⟩
    simp [trimWhere, hdropped]

end Text

/-- Whether neither the address nor the user name is blank. -/
def NewLogin.IsFilled (r : NewLogin) : Prop := Text.HasVisible r.url ∧ Text.HasVisible r.username

instance (r : NewLogin) : Decidable r.IsFilled :=
  inferInstanceAs (Decidable (_ ∧ _))

/-- A login has no problem exactly if it is filled. -/
theorem NewLogin.problem?_eq_none_iff (r : NewLogin) : r.problem? = none ↔ r.IsFilled := by
  unfold NewLogin.problem? NewLogin.IsFilled
  split
  · rename_i missing
    simp [(Text.isEmptyField_iff r.url).mp missing]
  · rename_i url
    have hurl : Text.HasVisible r.url := by simpa [Text.isEmptyField_iff] using url
    split
    · rename_i missing
      simp [(Text.isEmptyField_iff r.username).mp missing]
    · rename_i username
      have husername : Text.HasVisible r.username := by
        simpa [Text.isEmptyField_iff] using username
      simp [hurl, husername]

theorem NewLogin.problem?_isSome_iff (r : NewLogin) :
    r.problem?.isSome = true ↔ ¬ r.IsFilled := by
  rw [← r.problem?_eq_none_iff, Option.isSome_iff_ne_none]

/-- The login that the fields of a dialog give as they are. -/
def Dialog.typed (d : Dialog) : NewLogin := ⟨d.url, d.username, d.password⟩

theorem Dialog.record_isFilled (d : Dialog) : d.record.IsFilled ↔ d.typed.IsFilled :=
  and_congr (Text.hasVisible_trim d.url) (Text.hasVisible_trim d.username)

/-! ## Forms -/

open State

/-- What comes of the form of a view in a session. -/
structure FormGuards (s : State) : Prop where
  /-- A task that submits a filled login asks the store for it, if the view can be drawn. -/
  filled : ∀ T view record, s.tasks.lookup T = some (.ready (.begin (.submit view (.ok record)))) →
    record.IsFilled → s.fault? view = none →
      (s.resume T).1.creations = s.creations ++ [record]
        ∧ (s.resume T).1.pending = s.pending ++ [(.task T, .create record)]
  /-- A task that submits any other login ends at once. Nothing is asked, and no fetch is begun. -/
  blank : ∀ T view record, s.tasks.lookup T = some (.ready (.begin (.submit view (.ok record)))) →
    ¬ record.IsFilled →
      (s.resume T).1.creations = s.creations ∧ (s.resume T).1.pending = s.pending
        ∧ (s.resume T).2 = none ∧ ∃ o, (s.resume T).1.tasks.lookup T = some (.finished o)

theorem form_guards (s : State) : FormGuards s where
  filled T view record ready filled drawn := by
    cases (resume_submit ready).2 with
    | asked _ _ creations pending => exact ⟨creations, pending⟩
    | refused why _ _ _ =>
      rcases why with problem | fault
      · exact absurd (record.problem?_eq_none_iff.mpr filled) problem
      · exact absurd drawn fault
  blank T view record ready blank := by
    obtain ⟨idle, turn⟩ := resume_submit ready
    cases turn with
    | asked complete _ _ _ => exact absurd (record.problem?_eq_none_iff.mp complete) blank
    | refused _ creations pending now => exact ⟨creations, pending, idle, _, now⟩

/-! ## Dialogs -/

namespace Terminal

variable {t : Terminal}

/-- What comes of the topmost dialog of a terminal. -/
structure DialogGuards (t : Terminal) : Prop where
  /-- Whatever the store was asked to create is filled. -/
  asked : ∀ record ∈ t.session.creations, record.IsFilled
  /-- If the fields are filled the store is asked, by Enter or by the button unless that is
  disabled, for the login with no blanks around it, if the grid takes the rows. -/
  filled : ∀ d, t.dialogs.head? = some d → d.typed.IsFilled →
    Observer.grid.fault? t.view.table.rows = none →
      (t.handle .enter).session.creations = t.session.creations ++ [d.record]
        ∧ (d.saveDisabled = false →
          (t.handle .save).session.creations = t.session.creations ++ [d.record])
  /-- Otherwise nothing reaches the session. -/
  blank : ∀ d, t.dialogs.head? = some d → ¬ d.typed.IsFilled →
    (t.handle .enter).session = t.session ∧ (t.handle .save).session = t.session

theorem posts_filled (t : Terminal) (i : Input) : ∀ record ∈ t.posts i, record.IsFilled := by
  have hsubmission : ∀ record ∈ t.submission?.toList, record.IsFilled := by
    intro record mem
    unfold submission? at mem
    split at mem
    · cases mem
    · split at mem
      · cases mem
      · rename_i d rest _ taken
        obtain rfl : record = d.record := List.mem_singleton.mp mem
        rw [← NewLogin.problem?_eq_none_iff]
        simpa using (by simpa using taken : _ ∧ _).1
  cases i with
  | enter => exact hsubmission
  | save =>
    simp only [posts]
    split
    · simp
    · exact hsubmission
  | _ => simp [posts]

theorem start_creations (client : Client) : (start client).session.creations = [] := by
  rw [start_eq]
  rfl

/-- Whatever a user does, a terminal has only filled logins created. -/
theorem reached_filled_only (client : Client) (inputs : List Input) :
    ∀ record ∈ (reached client inputs).session.creations, record.IsFilled := by
  induction inputs using List.reverseRecOn with
  | nil =>
    intro record mem
    simp [reached, start_creations] at mem
  | append_singleton inputs i ih =>
    intro record mem
    rw [reached_append, List.foldl_cons, List.foldl_nil,
      (reached_sound client inputs).handle_creations] at mem
    rcases List.mem_append.mp mem with earlier | posted
    · exact ih record earlier
    · exact posts_filled _ i record posted

theorem dialog_guards (client : Client) (inputs : List Input) :
    DialogGuards (reached client inputs) where
  asked := reached_filled_only client inputs
  filled d top filled takes := by
    obtain ⟨rest, hdialogs⟩ := List.head?_eq_some_iff.mp top
    have hcreations := (reached_sound client inputs).handle_creations
    have hcomplete : d.record.problem? = none :=
      d.record.problem?_eq_none_iff.mpr (d.record_isFilled.mpr filled)
    have hsubmission : (reached client inputs).submission? = some d.record := by
      simp [submission?, hdialogs, hcomplete, takes]
    refine ⟨?_, fun enabled => ?_⟩
    · rw [hcreations, posts, hsubmission]
      rfl
    · rw [hcreations]
      simp [posts, hdialogs, enabled, hsubmission]
  blank d top blank := by
    obtain ⟨rest, hdialogs⟩ := List.head?_eq_some_iff.mp top
    have hrefused : (reached client inputs).submit.session = (reached client inputs).session := by
      refine submit_refused hdialogs ?_
      rw [NewLogin.problem?_isSome_iff, d.record_isFilled]
      exact blank
    refine ⟨hrefused, ?_⟩
    simp only [handle]
    split
    · rfl
    · exact hrefused

end Terminal

/-! ## Agents -/

/-- What comes of a login that an agent creates. -/
structure AgentGuards (h : Host) (s : Script) : Prop where
  /-- One request is sent for a filled login, if the host gives a client, -/
  filled : ∀ record c, h.connect = .ok c → record.IsFilled →
    (AgentCall.run h s (.create record)).script.sent = s.sent ++ [c.request (.create record)]
  /-- and none if it does not. -/
  unconnected : ∀ record f, h.connect = .error f → (AgentCall.run h s (.create record)).script = s
  /-- For any other login not even a client is looked for. -/
  blank : ∀ record, ¬ record.IsFilled →
    AgentCall.run h s (.create record) = ⟨.ok .incomplete, none, s⟩

theorem agent_guards (h : Host) (s : Script) : AgentGuards h s where
  filled record c connects filled := by
    have hcomplete : (AgentCall.create record).isIncomplete = false := by
      simp [AgentCall.isIncomplete, record.problem?_eq_none_iff.mpr filled]
    simp [AgentCall.run, hcomplete, connects, AgentCall.perform, Script.create, Script.send]
  unconnected record f connects := by
    unfold AgentCall.run
    split
    · rfl
    · rw [connects]
      cases f <;> rfl
  blank record blank := by
    have hincomplete : (AgentCall.create record).isIncomplete = true :=
      record.problem?_isSome_iff.mpr blank
    simp [AgentCall.run, hincomplete]

/-! ## The program -/

namespace CommandLine

/-- The program sends one request for the login that it is told to add, blank or not. -/
theorem run_add {words : List String} {env : Environment} {i : Invocation}
    {url username password : String} {c : Client} (s : Script)
    (understood : Invocation.ofWords words = .ok i)
    (adds : i.command = .add url (some username) password) (connects : i.connect env = .ok c) :
    (run words env s).script.sent = s.sent ++ [c.request (.create ⟨url, username, password⟩)] := by
  have hscript : (i.command.perform c s).script = (s.create c ⟨url, username, password⟩).2 := by
    simp only [adds, Command.perform, newLogin_of_texts]
    cases s.create c ⟨url, username, password⟩ with
    | mk result s' =>
      cases result with
      | ok l => rfl
      | error f => cases f <;> rfl
  simp only [run, understood, connects, hscript]
  rfl

end CommandLine

/-! ## All front ends -/

/-- What comes of a login, blank or not, wherever it is entered. -/
structure FrontEndsGuard (client : Client) : Prop where
  /-- Whatever the store is asked to create in a session is filled, unless a task asked for it
  without a form. -/
  session : ∀ inputs, ∀ record ∈ (Session.reached client inputs).state.creations,
    record.IsFilled ∨ Session.AsksBare client inputs record
  form : ∀ inputs, FormGuards (Session.reached client inputs).state
  dialog : ∀ inputs, Terminal.DialogGuards (Terminal.reached client inputs)
  agent : ∀ h s, AgentGuards h s
  /-- The program guards nothing. -/
  program : ∀ words env i url username password c (s : Script),
    CommandLine.Invocation.ofWords words = .ok i →
      i.command = .add url (some username) password → i.connect env = .ok c →
        (CommandLine.run words env s).script.sent
          = s.sent ++ [c.request (.create ⟨url, username, password⟩)]

/-- All front ends but the program let the same logins through, which are the filled ones. -/
theorem blanks_guarded (client : Client) : FrontEndsGuard client where
  session inputs record mem := (Session.reached_creations client inputs record mem).imp_left
    record.problem?_eq_none_iff.mp
  form _ := form_guards _
  dialog inputs := Terminal.dialog_guards client inputs
  agent := agent_guards
  program _ _ _ _ _ _ _ s understood adds connects :=
    CommandLine.run_add s understood adds connects

/-- The program is told to add a login without an address and a user name. It sends the login and
ends with success, where an agent is told that both are required and sends nothing. -/
theorem blank_added :
    let env : Environment := [("GPASS_USERNAME", "u"), ("GPASS_PASSWORD", "p")]
    let record : NewLogin := ⟨"", "", ""⟩
    let s := Script.ofAnswers [Terminal.answering "\x7b\"ID\": 1\x7d"]
    let run := CommandLine.run ["add", "", ""] env s
    let call := AgentCall.run ⟨none, env, none⟩ s (.create record)
    ¬ record.IsFilled
      ∧ run.script.sent.map (·.query) = [.create record] ∧ run.ended = .status 0
      ∧ call.script.sent = [] ∧ call.reply = .ok .incomplete := by
  intro env record s run call
  have blank : ¬ record.IsFilled := by decide
  have hcall : call = ⟨.ok .incomplete, none, s⟩ := (agent_guards _ s).blank record blank
  refine ⟨blank, ?_, ?_, ?_, ?_⟩
  · decide +kernel
  · decide +kernel
  · rw [hcall]
    rfl
  · rw [hcall]

end LoginVault
