import LoginVault.Session.Run

/-!
# Terminal.Basic — what is on the screen

The screen shows a status bar, a grid of logins and, on top of each other, any number of dialogs
for a new login. The status bar changes only when the view is redrawn or a refresh begins, so it
shows what was known at that moment.
-/

namespace LoginVault

/-- What the status bar tells. -/
structure StatusBar where
  loading : Bool
  shown : Nat
  total : Nat
  error : String
  deriving DecidableEq, Repr

namespace StatusBar

/-- The bar before anything is known. -/
def idle : StatusBar := ⟨false, 0, 0, ""⟩

/-- The bar of a view that is redrawn. -/
def ofSeen (seen : Seen) : StatusBar :=
  ⟨seen.loading, seen.rows.length, seen.total, (seen.lastError.map (·.message)).getD ""⟩

/-- How many characters of an error the bar has room for. -/
def errorRoom : Nat := 60

/-- What is going on, with markup. -/
def activity (b : StatusBar) : String :=
  if b.loading then "[bold green]● loading[/bold green]"
  else if b.error.isEmpty then "[dim]○ idle[/dim]"
  else
    let error := String.ofList (b.error.toList.take errorRoom)
    s!"[bold red]✗ {error}[/bold red]"

/-- How many logins are shown, and of how many. -/
def counts (b : StatusBar) : String :=
  if b.shown = b.total then s!"{b.total} logins" else s!"{b.shown}/{b.total} logins"

/-- The text of the bar, with markup. An empty address is left out. -/
def text (address : String) (b : StatusBar) : String :=
  let address := if address.isEmpty then [] else [s!"[dim]{address}[/dim]"]
  String.intercalate " │ " (["[bold]GPass[/bold]"] ++ address ++ [b.activity, b.counts])

end StatusBar

/-- A row of the grid. -/
structure GridRow where
  url : String
  username : String
  password : String
  deriving DecidableEq, Repr

/-- A login as a row. -/
def Login.gridRow (reveal : Bool) (l : Login) : GridRow :=
  ⟨l.url, l.username, l.shownPassword reveal⟩

/-- The rows that the grid takes of these logins: all up to the first whose identifier reads as
one that is `taken`. -/
def fillGrid (reveal : Bool) (taken : List String) : List Login → List GridRow
  | [] => []
  | l :: rest =>
    if taken.contains l.id.text then []
    else l.gridRow reveal :: fillGrid reveal (taken ++ [l.id.text]) rest

/-- A dialog for a new login: the text of its three fields, the line that tells how the saving
goes, whether the button is disabled, and the task that saves. -/
structure Dialog where
  url : String
  username : String
  password : String
  status : String
  saveDisabled : Bool
  save : Option String
  deriving DecidableEq, Repr

namespace Dialog

/-- A dialog that has just been opened. -/
def empty : Dialog := ⟨"", "", "", "", false, none⟩

/-- The line that tells of an error. -/
def errorLine (error : String) : String := s!"[red]{error}[/red]"

/-- The line while a login is being saved. -/
def savingLine : String := "[dim]Saving...[/dim]"

/-- Puts text into the fields that are given. -/
def fill (d : Dialog) (url username password : Option String) : Dialog :=
  { d with
    url := url.getD d.url
    username := username.getD d.username
    password := password.getD d.password }

/-- The login that the fields give, without blanks around its address and its user name. -/
def record (d : Dialog) : NewLogin :=
  ⟨Text.trim d.url, Text.trim d.username, d.password⟩

/-- What a dialog tells when its login was not saved. -/
def refusal (form : Form) : String :=
  errorLine (if form.error.isEmpty then "Save failed." else form.error)

end Dialog

/-- How grave a notification is. -/
inductive Severity where
  | information
  | error
  deriving DecidableEq, Repr

/-- The name of a severity. -/
def Severity.name : Severity → String
  | .information => "information"
  | .error => "error"

/-- A message that is shown for some seconds, or for as long as messages are. -/
structure Notification where
  severity : Severity
  seconds : Option Nat
  message : String
  deriving DecidableEq, Repr

/-- What loads the logins: the start of the terminal, or a refresh. -/
inductive Loader where
  | start
  | refresh
  deriving DecidableEq, Repr

/-- What ends the terminal at once: a failure in one of its tasks, or in what a key or a text
sets off. -/
inductive Crash where
  | task (f : Failure)
  | handler (f : Failure)
  deriving DecidableEq, Repr

/-- The terminal: the session behind it, whether passwords are shown, the text of the search
box, the grid, the status bar, the dialogs with the topmost first, the task that loads, how many
tasks were started, all notifications so far, and the crash that ended it. -/
structure Terminal where
  session : State
  reveal : Bool
  search : String
  grid : List GridRow
  bar : StatusBar
  dialogs : List Dialog
  loader : Option (Loader × String)
  started : Nat
  notifications : List Notification
  crash : Option Crash

namespace Terminal

/-- The name of the view that the terminal shows. -/
def viewName : String := "logins"

/-- The view that the terminal shows. -/
def view (t : Terminal) : View :=
  (t.session.views.lookup viewName).getD (.fresh .grid)

/-- The text of the status bar. -/
def statusText (t : Terminal) : String :=
  t.bar.text t.session.client.config.baseUrl

/-- Shows a notification. -/
def notify (t : Terminal) (n : Notification) : Terminal :=
  { t with notifications := t.notifications ++ [n] }

/-- Ends the terminal, unless it has ended. -/
def crashed (t : Terminal) (c : Crash) : Terminal :=
  { t with crash := t.crash.or (some c) }

/-- The name of the next task. -/
def nextTask (t : Terminal) : String := s!"task {t.started}"

end Terminal

end LoginVault
