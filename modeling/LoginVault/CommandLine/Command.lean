import LoginVault.CommandLine.Grammar

/-!
# CommandLine.Command — the commands of the program

An invocation is an address and a wish for debug output, followed by one of four commands. Each
command has a grammar of its own; what it does not recognise is reported by the program.
-/

namespace LoginVault.CommandLine

/-- The name of the program. -/
def programName : String := "gpass"

/-- What the program is asked to do. The user name of a login to be added has no value if a
separator stands in its place. -/
inductive Command where
  | lookup (url : String)
  | list (search : String) (reveal : Bool)
  | add (url : String) (username : Option String) (password : String)
  | terminal
  deriving DecidableEq, Repr

/-- The settings of the command that lists logins. -/
structure ListSettings where
  search : String
  reveal : Bool

/-- The settings of the command that adds a login. -/
structure AddSettings where
  url : String
  username : Option String
  password : String

/-- The grammar of a command. -/
def commandGrammar {α : Type} (name : String) (choices : List (Choice α))
    (arguments : List (Argument α)) : Grammar α :=
  ⟨programName ++ " " ++ name, .help :: choices, arguments, false⟩

/-- The grammar of `lookup`. -/
def lookupGrammar : Grammar String :=
  commandGrammar "lookup" [] [⟨"url", fun v _ => v.getD ""⟩]

/-- The grammar of `list`. -/
def listGrammar : Grammar ListSettings :=
  commandGrammar "list"
    [⟨none, "search", .value fun v s => { s with search := v }⟩,
      ⟨none, "reveal", .switch fun s => { s with reveal := true }⟩] []

/-- The grammar of `add`. -/
def addGrammar : Grammar AddSettings :=
  commandGrammar "add" [⟨none, "password", .value fun v s => { s with password := v }⟩]
    [⟨"url", fun v s => { s with url := v.getD "" }⟩,
      ⟨"username", fun v s => { s with username := v }⟩]

/-- The grammar of `tui`. -/
def terminalGrammar : Grammar Unit :=
  commandGrammar "tui" [] []

/-- The names of the commands. -/
def commandNames : List String := ["lookup", "list", "add", "tui"]

/-- The command with this name and these words, and the words that it does not recognise. -/
def Command.ofWords (name : String) (words : List String) :
    Except Stop (Command × List String) :=
  match name with
  | "lookup" => do
    let p ← lookupGrammar.parse "" words
    return (.lookup p.settings, p.strays)
  | "list" => do
    let p ← listGrammar.parse ⟨"", false⟩ words
    return (.list p.settings.search p.settings.reveal, p.strays)
  | "add" => do
    let p ← addGrammar.parse ⟨"", none, ""⟩ words
    return (.add p.settings.url p.settings.username p.settings.password, p.strays)
  | "tui" => do
    let p ← terminalGrammar.parse () words
    return (.terminal, p.strays)
  | _ => .error (.refused programName (.unknownCommand name commandNames))

/-- The settings that stand before the command. -/
structure ProgramSettings where
  address : String
  debug : Bool

/-- The grammar of the program. -/
def programGrammar : Grammar ProgramSettings :=
  ⟨programName,
    [.help, ⟨none, "api-url", .value fun v s => { s with address := v }⟩,
      ⟨some 'v', "verbose", .switch fun s => { s with debug := true }⟩], [], true⟩

/-- A command line that has been understood. An empty address is none. -/
structure Invocation where
  address : String
  debug : Bool
  command : Command
  deriving DecidableEq, Repr

/-- The invocation that the words after the name of the program give. -/
def Invocation.ofWords (words : List String) : Except Stop Invocation := do
  let p ← programGrammar.parse ⟨"", false⟩ words
  let (command, strays) ← Command.ofWords (p.command.headD "") p.command.tail
  match p.strays ++ strays with
  | [] => return ⟨p.settings.address, p.settings.debug, command⟩
  | words => .error (.refused programName (.unrecognized words))

end LoginVault.CommandLine
