import LoginVault.CommandLine.Command
import LoginVault.Lookup

/-!
# CommandLine.Run — what a command line does

A run ends with an exit status: 0 for success, 1 for a failure of the store, 2 for a command line
or a configuration that is refused. Success prints to the output and nothing to the error
output, and a failure prints one text to the error output and nothing to the output. A foreign
fault prints nothing and ends the run without a status.

What is printed here is what is handed to one of two consoles. How a console shows it is left out:
markup is not interpreted, and printing does not fail. So are the records of the log, which go to
the error output as well.
-/

namespace LoginVault.CommandLine

/-- The two outputs of the program. -/
inductive Channel where
  | output
  | error
  deriving DecidableEq, Repr

/-- What a console is handed at a time: a text with its markup, as it is, or a table of logins. -/
inductive Printed where
  | text (s : String)
  | table (rows : List (List String))
  deriving DecidableEq, Repr

/-- The headings of a table of logins. -/
def tableHeadings : List String := ["ID", "Url", "Username", "Password"]

/-- A table of logins. -/
def Printed.ofLogins (reveal : Bool) (logins : List Login) : Printed :=
  .table (logins.map fun l => [l.id.text, l.url, l.username, l.shownPassword reveal])

/-- What a console was handed, and which. -/
structure Print where
  channel : Channel
  printed : Printed
  deriving DecidableEq, Repr

/-- How a run ends. -/
inductive Ended where
  | stopped (stop : Stop)
  | status (code : Nat)
  | failed (failure : Failure)
  deriving DecidableEq, Repr

/-- A finished run: how it ended, what was printed, in order and without the records of the log, the
invocation if the words were understood, the client if one was opened, and the script that is
left. -/
structure Run where
  ended : Ended
  prints : List Print
  invocation : Option Invocation
  client : Option Client
  script : Script

/-- Whether the client is handed to the terminal instead of being closed at the end. -/
def Run.isInteractive (r : Run) : Bool :=
  (r.invocation.map (·.command)) = some .terminal

/-- How much is logged. The records themselves are left out. -/
inductive LogLevel where
  | debug
  | warning
  deriving DecidableEq, Repr

/-- How much a run logs; one that was stopped logs nothing. -/
def Run.logLevel (r : Run) : Option LogLevel :=
  r.invocation.map fun i => if i.debug then .debug else .warning

/-! ## Commands -/

/-- What a command did with a client. -/
structure Done where
  ended : Ended
  prints : List Print
  script : Script

namespace Done

/-- Success, with what it prints. -/
def success (prints : List Printed) (s : Script) : Done :=
  ⟨.status 0, prints.map (⟨.output, ·⟩), s⟩

/-- A failure of the store, with the line that tells of it. -/
def storeFailure (title : String) (error : StoreError) (s : Script) : Done :=
  ⟨.status 1, [⟨.error, .text s!"[red]{title}:[/red] {error.message}"⟩], s⟩

/-- A failure: one of the store is printed, any other ends the run. -/
def failure (f : Failure) (s : Script) : Done :=
  match f with
  | .store error => storeFailure "Error" error s
  | f => ⟨.failed f, [], s⟩

/-- The result of a lookup. -/
def ofLookup (r : LookupResult) (s : Script) : Done :=
  match r.error with
  | some error => storeFailure "Lookup failed" error s
  | none =>
    if r.logins.isEmpty then
      let key := if r.key.isEmpty then "-" else r.key
      success [.text s!"[yellow]No logins stored for[/yellow] [bold]{key}[/bold]"] s
    else success [.text s!"[bold]{r.key}[/bold]", .ofLogins true r.logins] s

end Done

/-- The login that `add` asks for. Without a user name there is none. -/
def newLogin (url : String) (username : Option String) (password : String) :
    Except Failure NewLogin :=
  (NewLogin.decode (.object [(FieldName.url.plain, .text url),
    (FieldName.username.plain, (username.map .text).getD (.list [])),
    (FieldName.password.plain, .text password)])).mapError .malformed

/-- Does what a command says. The terminal is not run here. -/
def Command.perform (c : Client) (s : Script) : Command → Done
  | .lookup url =>
    let run := lookUp c (.address (some url)) .takes .idle s
    match run.ended with
    | .ok r => .ofLookup r run.script
    | .error f => .failure f run.script
  | .list search reveal =>
    match s.find c search with
    | (.ok logins, s) => .success [.ofLogins reveal logins] s
    | (.error f, s) => .failure f s
  | .add url username password =>
    match newLogin url username password with
    | .error f => .failure f s
    | .ok record =>
      match s.create c record with
      | (.ok l, s) => .success [.text s!"[green]Saved:[/green] {l.url} (id {l.id.text})"] s
      | (.error f, s) => .failure f s
  | .terminal => .success [] s

/-! ## The program -/

/-- The client of an invocation. The configuration comes from the environment, with the address
of the command line in place of its own, and so do the credentials. -/
def Invocation.connect (i : Invocation) (env : Environment) : Except Failure Client := do
  let config ← (Config.ofEnvironment env).mapError (·.failure)
  let config ← if i.address.isEmpty then .ok config
    else (config.withBaseUrl i.address).mapError (·.failure)
  let credentials ← (Credentials.resolve none env).mapError (·.failure)
  return .ofCredentials config credentials

/-- Runs the program. -/
def run (words : List String) (env : Environment) (s : Script) : Run :=
  match Invocation.ofWords words with
  | .error stop => ⟨.stopped stop, [], none, none, s⟩
  | .ok i =>
    match i.connect env with
    -- without a configuration or credentials nothing is asked
    | .error f =>
      ⟨.status 2, [⟨.error, .text s!"[red]Configuration error:[/red] {f.message}"⟩], some i, none,
        s⟩
    | .ok c =>
      let done := i.command.perform c s
      ⟨done.ended, done.prints, some i, some c, done.script⟩

end LoginVault.CommandLine
