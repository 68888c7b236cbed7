import LoginVault.CommandLine.Run
import LoginVault.Proofs.FrontEnds.Spelling
import LoginVault.Proofs.Lookup.Protocol

/-!
# FrontEnds.Agreement — the program and an agent tell the same

A call of an agent and the command that asks for the same send the same requests, whatever is
answered, short of foreign faults. The program ends with status 2 if the agent is told that it is
not configured, with 1 if it is told of another error, which the program then prints, and with 0
if it is told of success. On success the program prints what the agent is told and nothing else.

The two look for configuration and credentials in different orders. Where both are missing they
fail alike, but not in the same words.

Main result: `frontEnds_agree`.
-/

namespace LoginVault

open CommandLine

/-! ## What is printed for a reply -/

/-- A login that an agent sees, as a row of a table. -/
def ShownLogin.row (l : ShownLogin) : List String :=
  [l.id.text, l.url, l.username, l.password.getD passwordMask]

namespace AgentReply

/-- What the program prints on success, from what an agent is told. -/
def printed : AgentReply → List Printed
  | .lookedUp key found logins =>
    let shownKey := if key.isEmpty then "-" else key
    if found then [.text s!"[bold]{shownKey}[/bold]", .table (logins.map (·.row))]
    else [.text s!"[yellow]No logins stored for[/yellow] [bold]{shownKey}[/bold]"]
  | .listed logins => [.table (logins.map (·.row))]
  | .created login => [.text s!"[green]Saved:[/green] {login.url} (id {login.id.text})"]
  | _ => []

/-- Whether the agent is told of success. -/
def succeeds (reply : AgentReply) : Prop := (reply.encode.lookup "success").isSome

/-- Whether the agent is told of an error. -/
def fails (reply : AgentReply) : Prop := (reply.encode.lookup "error").isSome

/-- A reply tells of success or of an error, and never of both. -/
theorem fails_iff (reply : AgentReply) : reply.fails ↔ ¬ reply.succeeds := by
  cases reply with
  | notConfigured why => simp [fails, succeeds, encode, List.lookup_cons]
  | incomplete => simp [fails, succeeds, encode, List.lookup_cons]
  | lookupFailed key error => simp [fails, succeeds, encode, List.lookup_cons]
  | failed error => simp [fails, succeeds, encode, List.lookup_cons]
  | lookedUp key found logins => simp [fails, succeeds, encode, List.lookup_cons]
  | listed logins => simp [fails, succeeds, encode, List.lookup_cons]
  | created login => simp [fails, succeeds, encode, List.lookup_cons]

end AgentReply

/-- A row shows the password of a login exactly if the agent sees it. -/
theorem Login.row_shown (reveal : Bool) (l : Login) :
    (l.shown reveal).row = [l.id.text, l.url, l.username, l.shownPassword reveal] := by
  cases reveal with
  | false => rfl
  | true => rfl

/-- The table of logins is that of the logins that an agent sees. -/
theorem ofLogins_eq_table (reveal : Bool) (logins : List Login) :
    Printed.ofLogins reveal logins = .table ((logins.map (·.shown reveal)).map (·.row)) := by
  simp [Printed.ofLogins, Login.row_shown]

/-! ## Clients -/

/-- Without a credential store the only fault of credentials is that some are missing. -/
theorem resolve_reportable (env : Environment) :
    Reportable ((Credentials.resolve none env).mapError (·.failure)) := by
  simp only [Credentials.resolve, Credentials.resolvePart, Option.bind_none, bind,
    Except.bind]
  cases env.setting? CredentialPart.username.variableName with
  | none =>
    cases env.setting? CredentialPart.password.variableName with
    | none => exact .failure _
    | some p => exact .failure _
  | some u =>
    cases env.setting? CredentialPart.password.variableName with
    | none => exact .failure _
    | some p => exact .value _

/-- The program and an agent get the same client, or both a failure of the store. -/
theorem connect_agree (env : Environment) (debug : Bool) (command : Command) :
    (∃ c, Invocation.connect ⟨"", debug, command⟩ env = .ok c
        ∧ Host.connect ⟨none, env, none⟩ = .ok c)
      ∨ ∃ why why', Invocation.connect ⟨"", debug, command⟩ env = .error (.store why)
        ∧ Host.connect ⟨none, env, none⟩ = .error (.store why') := by
  have hcredentials := resolve_reportable env
  simp only [Invocation.connect, Host.connect]
  cases hcredentials' : (Credentials.resolve none env).mapError (·.failure) with
  | error f =>
    obtain ⟨why', rfl⟩ := (hcredentials' ▸ hcredentials).exists_store
    right
    cases Config.ofEnvironment env with
    | error fault => exact ⟨.config fault, why', rfl, rfl⟩
    | ok config => exact ⟨why', why', rfl, rfl⟩
  | ok credentials =>
    cases Config.ofEnvironment env with
    | error fault => exact Or.inr ⟨.config fault, .config fault, rfl, rfl⟩
    | ok config => exact Or.inl ⟨.ofCredentials config credentials, rfl, rfl⟩

/-! ## Commands -/

/-- What a command did tells the same as a reply. -/
inductive Told (s : Script) : Done → AgentReply → Prop
  | success {reply : AgentReply} (succeeds : reply.succeeds) :
      Told s (.success reply.printed s) reply
  | failure {reply : AgentReply} (title : String) (e : StoreError)
      (error : reply.encode.lookup "error" = some (.text e.message))
      (configured : ∀ why, reply ≠ .notConfigured why) : Told s (.storeFailure title e s) reply

theorem Told.script {s : Script} {done : Done} {reply : AgentReply} (told : Told s done reply) :
    done.script = s := by
  cases told with
  | success _ => rfl
  | failure _ _ _ _ => rfl

/-- The result of a lookup is printed as it is told to an agent. -/
theorem told_ofLookup {r : LookupResult} (isFinal : r.IsFinal)
    (keyed : r.logins ≠ [] → r.key ≠ "") (s : Script) :
    Told s (.ofLookup r s) (.ofLookup r) := by
  cases isFinal with
  | failed state error logins outcome =>
    simp only [Done.ofLookup, AgentReply.ofLookup, error]
    exact .failure _ _ rfl (by simp)
  | rendered state error outcome =>
    have hreply : (AgentReply.ofLookup r).succeeds := by
      simp [AgentReply.ofLookup, error, AgentReply.succeeds, AgentReply.encode]
    have hprinted : Done.ofLookup r s = .success (AgentReply.ofLookup r).printed s := by
      cases hlogins : r.logins with
      | nil =>
        simp [Done.ofLookup, AgentReply.ofLookup, AgentReply.printed, error, outcome, hlogins]
      | cons l rest =>
        have hkey : r.key ≠ "" := keyed (by simp [hlogins])
        simp [Done.ofLookup, AgentReply.ofLookup, AgentReply.printed, error, outcome, hlogins,
          hkey, ofLogins_eq_table]
    rw [hprinted]
    exact .success hreply

theorem newLogin_of_texts (url username password : String) :
    newLogin url (some username) password = .ok ⟨url, username, password⟩ := rfl

/-- With one client a call and its command tell the same, and leave the same script. -/
theorem perform_told (c : Client) {s : Script} (ordinary : s.IsOrdinary) (call : AgentCall) :
    ∃ reply, (call.perform c s).1 = .ok reply
      ∧ Told (call.perform c s).2 (call.command.perform c s) reply := by
  cases call with
  | lookUp url =>
    have hreadable : Reportable (Tab.address (some url)).read := by
      simp only [Tab.read, activeAddress]
      split
      · exact .value _
      · exact .failure _
    rcases lookUp_render c hreadable ordinary with ⟨entered, events, s', r, hfinal, hkeyed, hrun⟩
    refine ⟨.ofLookup r, ?_, ?_⟩
    · simp [AgentCall.perform, hrun, LookupRun.render, Except.map]
    · simp only [AgentCall.perform, AgentCall.command, Command.perform, hrun, LookupRun.render]
      exact told_ofLookup hfinal hkeyed s'
  | list search reveal =>
    have hfound := ordinary.find (c := c) search
    simp only [AgentCall.perform, AgentCall.command, Command.perform]
    cases hrun : s.find c search with
    | mk result s' =>
      rw [hrun] at hfound
      cases hfound with
      | value logins =>
        have hsucceeds : (AgentReply.listed (logins.map (·.shown reveal))).succeeds := by
          simp [AgentReply.succeeds, AgentReply.encode]
        refine ⟨_, rfl, ?_⟩
        simp only [ofLogins_eq_table]
        exact .success hsucceeds
      | failure e => exact ⟨.failed e, rfl, .failure "Error" e rfl (by simp)⟩
  | create record =>
    have hcreated := ordinary.create (c := c) record
    simp only [AgentCall.perform, AgentCall.command, Command.perform, newLogin_of_texts]
    cases hrun : s.create c record with
    | mk result s' =>
      rw [hrun] at hcreated
      cases hcreated with
      | value l =>
        have hsucceeds : (AgentReply.created (l.shown false)).succeeds := by
          simp [AgentReply.succeeds, AgentReply.encode]
        exact ⟨_, rfl, .success hsucceeds⟩
      | failure e => exact ⟨.failed e, rfl, .failure "Error" e rfl (by simp)⟩

/-! ## The program and an agent -/

/-- A run of the program and a call of an agent tell the same. -/
structure Agree (run : Run) (agent : AgentRun) (reply : AgentReply) : Prop where
  /-- The call ends with a reply, and not with a failure. -/
  replied : agent.reply = .ok reply
  /-- The reply tells of success or of an error, and never of both. -/
  exclusive : reply.fails ↔ ¬ reply.succeeds
  /-- Both open the same client, or none. -/
  client : run.client = agent.client
  /-- Both send the same requests, and use up the same answers. -/
  script : run.script = agent.script
  /-- Status 2 is that of an agent that is not configured, and one line tells why. -/
  refused : run.ended = .status 2 ↔ ∃ why, reply = .notConfigured why
  refusal : run.ended = .status 2 →
    ∃ why : String, run.prints = [⟨.error, .text s!"[red]Configuration error:[/red] {why}"⟩]
  /-- Status 1 is that of every other error, and one line tells of it in the same words. -/
  failed : run.ended = .status 1 ↔ reply.fails ∧ ∀ why, reply ≠ .notConfigured why
  failure : run.ended = .status 1 → ∃ title message : String,
    reply.encode.lookup "error" = some (.text message)
      ∧ run.prints = [⟨.error, .text s!"[red]{title}:[/red] {message}"⟩]
  /-- Status 0 is that of success, and what the agent is told is printed. -/
  succeeded : run.ended = .status 0 ↔ reply.succeeds
  success : run.ended = .status 0 → run.prints = reply.printed.map (⟨.output, ·⟩)

/-- Without a client the program is refused, and the agent is told that it is not configured. -/
theorem agree_of_no_client {run : Run} {agent : AgentRun} {why' : StoreError} (why : StoreError)
    (ended : run.ended = .status 2)
    (prints : run.prints = [⟨.error, .text s!"[red]Configuration error:[/red] {why.message}"⟩])
    (replied : agent.reply = .ok (.notConfigured why')) (client : run.client = agent.client)
    (script : run.script = agent.script) : Agree run agent (.notConfigured why') where
  replied := replied
  exclusive := AgentReply.fails_iff _
  client := client
  script := script
  refused := by simp [ended]
  refusal := fun _ => ⟨_, prints⟩
  failed := by simp [ended]
  failure := by simp [ended]
  succeeded := by simp [ended, AgentReply.succeeds, AgentReply.encode, List.lookup_cons]
  success := by simp [ended]

/-- With a client the program and the agent agree if what the command did tells the same. -/
theorem agree_of_told {run : Run} {agent : AgentRun} {done : Done} {reply : AgentReply}
    {s : Script} (told : Told s done reply) (ended : run.ended = done.ended)
    (prints : run.prints = done.prints) (replied : agent.reply = .ok reply)
    (client : run.client = agent.client) (script : run.script = agent.script) :
    Agree run agent reply := by
  have hfails := reply.fails_iff
  cases told with
  | success succeeds =>
    have hended : run.ended = .status 0 := ended
    have hconfigured (why : StoreError) : reply ≠ .notConfigured why := by
      rintro rfl
      simp [AgentReply.succeeds, AgentReply.encode, List.lookup_cons] at succeeds
    exact {
      replied, client, script
      exclusive := hfails
      refused := by simp [hended, hconfigured]
      refusal := by simp [hended]
      failed := by simp [hended, hfails, succeeds]
      failure := by simp [hended]
      succeeded := by simp [hended, succeeds]
      success := fun _ => prints }
  | failure title e error configured =>
    have hended : run.ended = .status 1 := ended
    have hfailed : reply.fails := by simp [AgentReply.fails, error]
    exact {
      replied, client, script
      exclusive := hfails
      refused := by simp [hended, configured]
      refusal := by simp [hended]
      failed := by simp [hended, hfailed, configured]
      failure := fun _ => ⟨title, e.message, error, prints⟩
      succeeded := by simp [hended, hfails.mp hfailed]
      success := by simp [hended] }

/-- Words that are understood as the command of a call make the program agree with an agent that
makes the call, without a credential store and with no configuration fixed beforehand. -/
theorem frontEnds_agree (words : List String) (env : Environment) (debug : Bool)
    (call : AgentCall) (s : Script)
    (understood : Invocation.ofWords words = .ok ⟨"", debug, call.command⟩)
    (complete : call.isIncomplete = false) (ordinary : s.IsOrdinary) :
    ∃ reply, Agree (CommandLine.run words env s) (call.run ⟨none, env, none⟩ s) reply := by
  rcases connect_agree env debug call.command with
    ⟨c, hprogram, hagent⟩ | ⟨why, why', hprogram, hagent⟩
  · rcases perform_told c ordinary call with ⟨reply, hreply, htold⟩
    refine ⟨reply, agree_of_told htold ?_ ?_ ?_ ?_ ?_⟩
    · simp [CommandLine.run, understood, hprogram]
    · simp [CommandLine.run, understood, hprogram]
    · simp [AgentCall.run, complete, hagent, hreply]
    · simp [CommandLine.run, understood, hprogram, AgentCall.run, complete, hagent]
    · simp [CommandLine.run, understood, hprogram, AgentCall.run, complete, hagent, htold.script]
  · refine ⟨.notConfigured why', agree_of_no_client why ?_ ?_ ?_ ?_ ?_⟩
    · simp [CommandLine.run, understood, hprogram]
    · simp [CommandLine.run, understood, hprogram, Failure.message]
    · simp [AgentCall.run, complete, hagent]
    · simp [CommandLine.run, understood, hprogram, AgentCall.run, complete, hagent]
    · simp [CommandLine.run, understood, hprogram, AgentCall.run, complete, hagent]

/-- The second page of a list does not come. Program and agent have sent two requests, the program
ends with status 1, and it prints what the agent is told. -/
theorem frontEnds_agree_second_page :
    let env : Environment :=
      [("GPASS_USERNAME", "me"), ("GPASS_PASSWORD", "mine"), ("GPASS_PAGE_SIZE", "1")]
    let call := AgentCall.list "exa" true
    let page : Answer := .response
      ⟨200, "\x7b\"Data\":[\x7b\"ID\":1\x7d],\"FilteredData\":2\x7d".toUTF8.data.toList⟩
    let gone : Answer := .fault (.network .reading "gone")
    let s := Script.ofAnswers [page, gone]
    let run := CommandLine.run call.words env s
    (∃ reply, Agree run (call.run ⟨none, env, none⟩ s) reply)
      ∧ run.ended = .status 1
      ∧ run.prints = [⟨.error, .text "[red]Error:[/red] Network error: gone"⟩]
      ∧ run.script.sent.map (·.query) = [.page (some "exa") 1 0, .page (some "exa") 1 1] := by
  intro env call page gone s run
  have understood : Invocation.ofWords call.words = .ok ⟨"", false, call.command⟩ :=
    call.understood_words nofun
  have ordinary : s.IsOrdinary := by
    intro a ha kind message
    obtain rfl | rfl : a = page ∨ a = gone := by simpa [s, Script.ofAnswers] using ha
    · simp [page]
    · simp [gone]
  refine ⟨frontEnds_agree _ _ _ _ _ understood rfl ordinary, ?_, ?_, ?_⟩
  · decide +kernel
  · decide +kernel
  · decide +kernel

end LoginVault
