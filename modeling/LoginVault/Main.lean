import LoginVault.CommandLine.Run
import LoginVault.Terminal.Screen

/-!
# Main — the program

The store stands at the other end of the standard input and output: every request is written as a
line, and the next line is its answer. The terminal reads what its user does from lines too, and
writes its screen after each.
-/

namespace LoginVault.Program

/-- The variables that the program reads. -/
def variableNames : List String :=
  ["GPASS_API_URL", "GPASS_TIMEOUT", "GPASS_PAGE_SIZE", "GPASS_USERNAME", "GPASS_PASSWORD"]

/-- The variables that are set. -/
def environment : IO Environment :=
  variableNames.filterMapM fun name => return (← IO.getEnv name).map (name, ·)

/-- The next line without its line end, `none` at the end of the input. -/
def nextLine : IO (Option String) := do
  let line ← (← IO.getStdin).getLine
  if line.isEmpty then return none
  else return some (String.ofList (line.toList.filter fun c => c != '\n' && c != '\r'))

/-- Runs the program with the answers given so far, and asks for one more as long as a request
has none. -/
partial def exchange (words : List String) (env : Environment) (answers : List Answer) :
    IO CommandLine.Run := do
  let run := CommandLine.run words env (.ofAnswers answers)
  match run.script.sent[answers.length]? with
  | none => return run
  | some request =>
    IO.println request.line
    match ← nextLine with
    | some line => exchange words env (answers ++ [.ofLine line])
    | none => return run

/-- Writes a line to one of the outputs. -/
def write : CommandLine.Channel → String → IO Unit
  | .output, s => IO.println s
  | .error, s => IO.eprintln s

/-- Prints a text, or a table row by row. -/
def print (p : CommandLine.Print) : IO Unit :=
  match p.printed with
  | .text s => write p.channel s
  | .table rows => (CommandLine.tableHeadings :: rows).forM fun row =>
    write p.channel (String.intercalate "\t" row)

/-- Runs the terminal until the input ends. Requests and notifications are written as they
come. -/
partial def converse (before t : Terminal) : IO UInt32 := do
  for e in t.session.journal.drop before.session.journal.length do
    if let .sent q := e then IO.println (t.session.client.request q).line
  for n in t.notifications.drop before.notifications.length do
    IO.println s!"{n.severity.name}: {n.message}"
  match t.crash with
  | some (.task f) | some (.handler f) =>
    IO.eprintln f.message
    return 1
  | none =>
    t.lines.forM (IO.println ·)
    match ← nextLine with
    | none => return 0
    | some line => converse t (((Terminal.Input.ofLine? line).map t.handle).getD t)

/-- Runs the terminal of a client. -/
def terminal (c : Client) : IO UInt32 :=
  let t : Terminal := .start c
  converse { t with session := .start c, notifications := [] } t

/-- Runs the program with these words; its exit status. -/
def main (words : List String) : IO UInt32 := do
  let run ← exchange words (← environment) []
  run.prints.forM print
  match run.ended with
  | .stopped stop =>
    if !stop.report.isEmpty then IO.eprintln stop.report
    return stop.status.toUInt32
  | .failed f =>
    IO.eprintln f.message
    return 1
  | .status code =>
    match run.client with
    | some c => if run.isInteractive then terminal c else return code.toUInt32
    | none => return code.toUInt32

end LoginVault.Program

def main (words : List String) : IO UInt32 :=
  LoginVault.Program.main words
