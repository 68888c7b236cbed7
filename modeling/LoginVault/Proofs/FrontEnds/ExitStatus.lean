import LoginVault.Proofs.FrontEnds.Agreement
import LoginVault.Proofs.Lookup.Endings

/-!
# FrontEnds.ExitStatus — what the program promises its caller

The exit status tells how a run went: 2 if no client could be made, and then nothing was sent, 0
if the operation of the command succeeded, and 1 if the store failed it, on whichever page. A run
that succeeds prints to the output alone, and one that does not prints one line to the error
output and nothing else, so that no part of a list is ever seen. A line is what is printed at a
time: what is told of a malformed answer takes several on a screen.

One kind of run ends without a status. A separator in the place of a user name gives `add` no
user name, no login can be made of that, and the fault goes through the program unreported.

Main results: `run_contract` and `separator_added`.
-/

namespace LoginVault.CommandLine

/-! ## Clients -/

/-- Without a credential store, credentials are missing or there are both. -/
theorem resolve_fault {env : Environment} {fault : CredentialFault}
    (h : Credentials.resolve none env = .error fault) : ∃ parts, fault = .missing parts := by
  simp only [Credentials.resolve, Credentials.resolvePart, Option.bind_none, bind,
    Except.bind] at h
  cases hu : env.setting? CredentialPart.username.variableName with
  | none =>
    cases hp : env.setting? CredentialPart.password.variableName with
    | none => exact ⟨_, (by simpa [hu, hp] using h.symm)⟩
    | some p => exact ⟨_, (by simpa [hu, hp] using h.symm)⟩
  | some u =>
    cases hp : env.setting? CredentialPart.password.variableName with
    | none => exact ⟨_, (by simpa [hu, hp] using h.symm)⟩
    | some p => simp [hu, hp] at h

/-- A chain fails with its first step or after it. -/
theorem bind_error {α β : Type} {x : Except Failure α} {next : α → Except Failure β} {f : Failure}
    (h : x >>= next = .error f) : x = .error f ∨ ∃ a, x = .ok a ∧ next a = .error f := by
  cases x with
  | error f' =>
    obtain rfl : f' = f := Except.error.inj h
    exact Or.inl rfl
  | ok a => exact Or.inr ⟨a, rfl, h⟩

/-- Whether a failure is that of a configuration or of credentials. -/
def IsSetupFault (f : Failure) : Prop :=
  ∃ e, f = .store e ∧ (e.errorClass = .config ∨ e.errorClass = .credentials)

theorem isSetupFault_of_config {α : Type} {x : Except ConfigFault α} {f : Failure}
    (h : x.mapError (·.failure) = .error f) : IsSetupFault f := by
  cases x with
  | error fault =>
    obtain rfl : fault.failure = f := Except.error.inj h
    exact ⟨_, rfl, Or.inl rfl⟩
  | ok a => cases h

theorem isSetupFault_of_credentials {env : Environment} {config : Config} {f : Failure}
    (h : ((Credentials.resolve none env).mapError (·.failure) >>= fun credentials =>
      .ok (Client.ofCredentials config credentials)) = .error f) : IsSetupFault f := by
  cases hresolved : Credentials.resolve none env with
  | error fault =>
    obtain ⟨parts, rfl⟩ := resolve_fault hresolved
    rw [hresolved] at h
    obtain rfl : (CredentialFault.missing parts).failure = f := Except.error.inj h
    exact ⟨_, rfl, Or.inr rfl⟩
  | ok credentials =>
    rw [hresolved] at h
    cases h

/-- What keeps an invocation from a client is a fault of the configuration, the address of the
command line included, or credentials that are missing. -/
theorem connect_fault {i : Invocation} {env : Environment} {f : Failure}
    (h : i.connect env = .error f) : IsSetupFault f := by
  unfold Invocation.connect at h
  rcases bind_error h with hconfig | ⟨config, -, h⟩
  · exact isSetupFault_of_config hconfig
  dsimp only at h
  split at h
  · exact isSetupFault_of_credentials h
  · rcases bind_error h with haddress | ⟨config', -, h⟩
    · exact isSetupFault_of_config haddress
    · exact isSetupFault_of_credentials h

/-! ## Operations -/

/-- How the operation of a command ends, apart from what is printed of it: the logins that a
lookup or a list finds, or the login that is created, or a failure. -/
def Command.outcome (c : Client) (s : Script) : Command → Except Failure (List Login)
  | .lookup url => sought c (.address (some url)) s
  | .list search _ => (s.find c search).1
  | .add url username password =>
    match newLogin url username password with
    | .ok record => (s.create c record).1.map ([·])
    | .error f => .error f
  | .terminal => .ok []

/-- A login without a user name cannot be made. -/
theorem newLogin_of_no_username (url password : String) :
    ∃ why, newLogin url none password = .error (.malformed why) := ⟨_, rfl⟩

/-- Short of foreign faults, the store gives or fails what a command asks for, unless it adds a
login without a user name. -/
theorem outcome_reportable {c : Client} {s : Script} {command : Command} (ordinary : s.IsOrdinary)
    (named : ∀ url password, command ≠ .add url none password) :
    Reportable (command.outcome c s) := by
  cases command with
  | lookup url =>
    refine sought_reportable ?_ ordinary
    simp only [Tab.read, activeAddress]
    split
    · exact .value _
    · exact .failure _
  | list search reveal => exact ordinary.find search
  | add url username password =>
    cases username with
    | none => exact absurd rfl (named url password)
    | some username =>
      simp only [Command.outcome, newLogin_of_texts]
      exact (ordinary.create _).map _
  | terminal => exact .value []

/-- What was done tells of an outcome: success is told on the output, a failure of the store in
one line on the error output. -/
inductive Reports : Except Failure (List Login) → Done → Prop
  | success (logins : List Login) {prints : List Printed} (told : prints ≠ []) (s : Script) :
      Reports (.ok logins) (.success prints s)
  | failure (e : StoreError) (title : String) (s : Script) :
      Reports (.error (.store e)) (.storeFailure title e s)

/-- Every command tells of its outcome. -/
theorem perform_reports {c : Client} {s : Script} {command : Command}
    (reportable : Reportable (command.outcome c s)) (printing : command ≠ .terminal) :
    Reports (command.outcome c s) (command.perform c s) := by
  cases command with
  | lookup url =>
    simp only [Command.outcome] at reportable ⊢
    cases houtcome : sought c (.address (some url)) s with
    | ok logins =>
      obtain ⟨key, events, s', runs⟩ := lookUp_of_found houtcome
      simp only [Command.perform, runs, LookupRun.render, Done.ofLookup, LookupResult.ofLogins]
      split
      · exact .success logins (by simp) s'
      · exact .success logins (by simp) s'
    | error f =>
      obtain ⟨e, rfl⟩ := (houtcome ▸ reportable : Reportable (.error f)).exists_store
      obtain ⟨entered, key, events, s', -, runs⟩ := lookUp_of_store_failure houtcome
      simp only [Command.perform, runs, LookupRun.render, Done.ofLookup, LookupResult.ofError]
      exact .failure e _ s'
  | list search reveal =>
    simp only [Command.outcome] at reportable ⊢
    cases hfind : s.find c search with
    | mk result s' =>
      rw [hfind] at reportable
      simp only [Command.perform, hfind]
      cases reportable with
      | value logins => exact .success logins (by simp) s'
      | failure e => exact .failure e _ s'
  | add url username password =>
    simp only [Command.outcome] at reportable ⊢
    simp only [Command.perform]
    cases hrecord : newLogin url username password with
    | error f =>
      simp only [hrecord] at reportable ⊢
      obtain ⟨e, rfl⟩ := reportable.exists_store
      exact .failure e _ s
    | ok record =>
      simp only [hrecord] at reportable ⊢
      cases hcreate : s.create c record with
      | mk result s' =>
        rw [hcreate] at reportable
        cases result with
        | ok l => exact .success [l] (by simp) s'
        | error f =>
          obtain ⟨e, rfl⟩ := reportable.exists_store
          exact .failure e _ s'
  | terminal => exact absurd rfl printing

/-! ## The contract -/

/-- What a run of an invocation that does not open the terminal promises. -/
structure Contract (i : Invocation) (env : Environment) (s : Script) (run : Run) : Prop where
  /-- Without a client the status is 2, nothing is sent, and one line tells why. -/
  refused : ∀ f, i.connect env = .error f →
    IsSetupFault f ∧ run.ended = .status 2 ∧ run.script = s
      ∧ run.prints = [⟨.error, .text s!"[red]Configuration error:[/red] {f.message}"⟩]
  /-- With a client the status is 0 exactly if the operation succeeds, -/
  succeeded : ∀ c, i.connect env = .ok c →
    (run.ended = .status 0 ↔ ∃ logins, i.command.outcome c s = .ok logins)
  /-- and 1 exactly if the store fails it, which one line tells. -/
  failed : ∀ c, i.connect env = .ok c →
    (run.ended = .status 1 ↔ ∃ e, i.command.outcome c s = .error (.store e))
  told : ∀ c e, i.connect env = .ok c → i.command.outcome c s = .error (.store e) →
    ∃ title : String, run.prints = [⟨.error, .text s!"[red]{title}:[/red] {e.message}"⟩]
  /-- With status 0 something is printed, and all of it to the output. -/
  output : run.ended = .status 0 → run.prints ≠ [] ∧ ∀ p ∈ run.prints, p.channel = .output
  /-- With any other status one line is printed, to the error output. -/
  errors : ∀ code, run.ended = .status code → code ≠ 0 →
    ∃ line, run.prints = [⟨.error, .text line⟩]
  /-- No other status is there, and a run ends without one exactly if it has a client and is to
  add a login without a user name: then it sends and prints nothing. -/
  statuses : ∀ code, run.ended = .status code → code ≤ 2
  unreported : (∀ code, run.ended ≠ .status code) ↔ ∃ c url password, i.connect env = .ok c
    ∧ i.command = .add url none password
  silent : (∀ code, run.ended ≠ .status code) →
    (∃ why, run.ended = .failed (.malformed why)) ∧ run.prints = [] ∧ run.script = s

section Ways

variable {i : Invocation} {env : Environment} {s : Script} {run : Run} {c : Client}

theorem contract_of_no_client {f : Failure} (unconnected : i.connect env = .error f)
    (ended : run.ended = .status 2) (script : run.script = s)
    (prints : run.prints = [⟨.error, .text s!"[red]Configuration error:[/red] {f.message}"⟩]) :
    Contract i env s run where
  refused f' h := by
    obtain rfl : f = f' := Except.error.inj (unconnected.symm.trans h)
    exact ⟨connect_fault unconnected, ended, script, prints⟩
  succeeded := by simp [unconnected]
  failed := by simp [unconnected]
  told := by simp [unconnected]
  output := by simp [ended]
  errors := fun _ _ _ => ⟨_, prints⟩
  statuses := by simp [ended]
  unreported := by simp [unconnected, ended]
  silent h := absurd ended (h 2)

theorem contract_of_reports {done : Done} (connected : i.connect env = .ok c)
    (reports : Reports (i.command.outcome c s) done) (ended : run.ended = done.ended)
    (prints : run.prints = done.prints)
    (named : ∀ url password, i.command ≠ .add url none password) : Contract i env s run := by
  generalize houtcome : i.command.outcome c s = outcome at reports
  have honly (c' : Client) (h : i.connect env = .ok c') : c = c' :=
    Except.ok.inj (connected.symm.trans h)
  cases reports with
  | success logins told s' =>
    have hended : run.ended = .status 0 := ended
    exact {
      refused := by simp [connected]
      succeeded := by
        intro c' h
        obtain rfl := honly c' h
        simp [hended, houtcome]
      failed := by
        intro c' h
        obtain rfl := honly c' h
        simp [hended, houtcome]
      told := by
        intro c' e h
        obtain rfl := honly c' h
        simp [houtcome]
      output := by
        intro _
        rw [prints]
        exact ⟨by simpa [Done.success] using told, by simp [Done.success]⟩
      errors := by
        intro code h hcode
        rw [hended] at h
        exact absurd (Ended.status.inj h).symm hcode
      statuses := by simp [hended]
      unreported := by simp [hended, named]
      silent := fun h => absurd hended (h 0) }
  | failure e title s' =>
    have hended : run.ended = .status 1 := ended
    exact {
      refused := by simp [connected]
      succeeded := by
        intro c' h
        obtain rfl := honly c' h
        simp [hended, houtcome]
      failed := by
        intro c' h
        obtain rfl := honly c' h
        simp [hended, houtcome]
      told := by
        intro c' e' h he
        obtain rfl := honly c' h
        obtain rfl : e = e' := by simpa [houtcome] using he
        exact ⟨title, prints⟩
      output := by simp [hended]
      errors := fun _ _ _ => ⟨_, prints⟩
      statuses := by simp [hended]
      unreported := by simp [hended, named]
      silent := fun h => absurd hended (h 1) }

/-- Without a user name the login is not made, and its fault is passed on. -/
theorem contract_of_no_username {url password : String} (connected : i.connect env = .ok c)
    (adds : i.command = .add url none password)
    (ended : run.ended = (i.command.perform c s).ended)
    (prints : run.prints = (i.command.perform c s).prints)
    (script : run.script = (i.command.perform c s).script) : Contract i env s run := by
  obtain ⟨why, hmade⟩ := newLogin_of_no_username url password
  have hdone : i.command.perform c s = ⟨.failed (.malformed why), [], s⟩ := by
    simp only [adds, Command.perform, hmade, Done.failure]
  rw [hdone] at ended prints script
  have houtcome (c' : Client) : i.command.outcome c' s = .error (.malformed why) := by
    simp only [adds, Command.outcome, hmade]
  exact {
    refused := by simp [connected]
    succeeded := by simp [ended, houtcome]
    failed := by simp [ended, houtcome]
    told := by simp [houtcome]
    output := by simp [ended]
    errors := by simp [ended]
    statuses := by simp [ended]
    unreported := by simp [ended, connected, adds]
    silent := fun _ => ⟨⟨why, ended⟩, prints, script⟩ }

end Ways

/-- Every run against ordinary answers that does not open the terminal keeps the contract. -/
theorem run_contract (words : List String) (env : Environment) (s : Script) {i : Invocation}
    (understood : Invocation.ofWords words = .ok i) (printing : i.command ≠ .terminal)
    (ordinary : s.IsOrdinary) : Contract i env s (run words env s) := by
  cases hconnect : i.connect env with
  | error f =>
    refine contract_of_no_client hconnect ?_ ?_ ?_
    · simp [run, understood, hconnect]
    · simp [run, understood, hconnect]
    · simp [run, understood, hconnect]
  | ok c =>
    have hended : (run words env s).ended = (i.command.perform c s).ended := by
      simp [run, understood, hconnect]
    have hprints : (run words env s).prints = (i.command.perform c s).prints := by
      simp [run, understood, hconnect]
    have hscript : (run words env s).script = (i.command.perform c s).script := by
      simp [run, understood, hconnect]
    by_cases named : ∀ url password, i.command ≠ .add url none password
    · exact contract_of_reports hconnect
        (perform_reports (outcome_reportable ordinary named) printing) hended hprints named
    · obtain ⟨url, password, hcommand⟩ : ∃ url password, i.command = .add url none password := by
        simpa using named
      exact contract_of_no_username hconnect hcommand hended hprints hscript

/-- The second page of a list does not come. The run ends with status 1, and nothing is printed
of the first page. -/
theorem run_contract_second_page :
    let words := ["--api-url", "http://vault:3625/", "list", "--reveal"]
    let env : Environment :=
      [("GPASS_USERNAME", "me"), ("GPASS_PASSWORD", "mine"), ("GPASS_PAGE_SIZE", "1")]
    let page : Answer := .response
      ⟨200, "\x7b\"Data\":[\x7b\"ID\":1\x7d],\"FilteredData\":2\x7d".toUTF8.data.toList⟩
    let gone : Answer := .fault (.network .reading "gone")
    let s := Script.ofAnswers [page, gone]
    let i : Invocation := ⟨"http://vault:3625/", false, .list "" true⟩
    Contract i env s (run words env s)
      ∧ (run words env s).ended = .status 1
      ∧ (run words env s).prints = [⟨.error, .text "[red]Error:[/red] Network error: gone"⟩]
      ∧ (run words env s).script.sent.map (·.query) = [.page none 1 0, .page none 1 1] := by
  intro words env page gone s i
  have understood : Invocation.ofWords words = .ok i := by decide +kernel
  have ordinary : s.IsOrdinary := by
    intro a ha kind message
    obtain rfl | rfl : a = page ∨ a = gone := by simpa [s, Script.ofAnswers] using ha
    · simp [page]
    · simp [gone]
  refine ⟨run_contract words env s understood (by simp [i]) ordinary, ?_, ?_, ?_⟩
  · decide +kernel
  · decide +kernel
  · decide +kernel

/-! ## A run without a status -/

/-- A separator in the place of the user name is taken for none at all, whatever the address is. -/
theorem ofWords_add_separator (url : String) :
    Invocation.ofWords ["add", "--", url, "--"] = .ok ⟨"", false, .add url none ""⟩ := by
  have htake : addGrammar.take ⟨⟨"", none, ""⟩, addGrammar.arguments, [], false, false⟩
      [⟨"--", .separator⟩, ⟨url, .plain⟩, ⟨"--", .plain⟩]
        = .ok (⟨⟨url, none, ""⟩, [], [], true, false⟩, []) := by
    simp [addGrammar, commandGrammar, Grammar.take, Grammar.occurrences, Taken.separator,
      Taken.plain]
  have hparse := parse_of_take (g := addGrammar) ⟨"", none, ""⟩ (readAll_separator [url, "--"])
    htake rfl (by decide)
  refine ofWords_of_command (readAll_cons (by decide) rfl (readAll_separator _)) rfl ?_
  simp only [Command.ofWords, hparse]
  rfl

/-- The program is told to add a login with a separator in the place of the user name. It
understands the words and makes a client, but ends without a status and prints nothing. -/
theorem separator_added :
    let words := ["add", "--", "u", "--"]
    let env : Environment := [("GPASS_USERNAME", "u"), ("GPASS_PASSWORD", "p")]
    let run := run words env (Script.ofAnswers [])
    Invocation.ofWords words = .ok ⟨"", false, .add "u" none ""⟩
      ∧ run.client.isSome ∧ (∀ code, run.ended ≠ .status code)
      ∧ run.prints = [] ∧ run.script.sent = [] := by
  intro words env run
  let record : Json := .object [("url", .text "u"), ("username", .list []), ("password", .text "")]
  have hended : run.ended
      = .failed (.malformed ⟨.newLogin, record, [⟨[.member "username"], .notText⟩]⟩) := by
    decide +kernel
  refine ⟨ofWords_add_separator "u", ?_, by simp [hended], ?_, ?_⟩
  · decide +kernel
  · decide +kernel
  · decide +kernel

end LoginVault.CommandLine
