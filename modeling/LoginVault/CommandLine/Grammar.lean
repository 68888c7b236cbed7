import LoginVault.Text.Digits
import LoginVault.Text.Quoted

/-!
# CommandLine.Grammar — options and arguments

A grammar lists the options of a program and either its arguments or that a command follows.
Every word before the first `--` is read first, as an option or as a plain word; an option may be
cut short as long as one option remains that it can mean. Then the words are taken from left to
right. Words that nothing takes are strays, which the caller reports.
-/

namespace LoginVault.CommandLine

/-- What an option does to the settings. -/
inductive Effect (α : Type) where
  | help
  | switch (set : α → α)
  | value (set : String → α → α)

/-- An option with its name and, for some, a letter. -/
structure Choice (α : Type) where
  letter : Option Char
  name : String
  effect : Effect α

/-- How an option is spelled in full, without its letter. -/
def Choice.spelling {α : Type} (o : Choice α) : String := "--" ++ o.name

/-- How an option is called in messages. -/
def Choice.title {α : Type} (o : Choice α) : String :=
  match o.letter with
  | some c => String.ofList ['-', c, '/'] ++ o.spelling
  | none => o.spelling

/-- The option that every grammar has. -/
def Choice.help {α : Type} : Choice α := ⟨some 'h', "help", .help⟩

/-- An argument. A separator that stands where the argument should be gives it no value. -/
structure Argument (α : Type) where
  name : String
  set : Option String → α → α

/-- What may be written after the name of a program. -/
structure Grammar (α : Type) where
  program : String
  choices : List (Choice α)
  arguments : List (Argument α)
  endsWithCommand : Bool

/-- What is wrong with the words of a command line. -/
inductive UsageFault where
  | valueExpected (option : String)
  | valueIgnored (option value : String)
  | ambiguous (word : String) (candidates : List String)
  | missing (arguments : List String)
  | unknownCommand (word : String) (commands : List String)
  | unrecognized (words : List String)
  deriving DecidableEq, Repr

/-- The text of a fault. -/
def UsageFault.message : UsageFault → String
  | .valueExpected option => s!"argument {option}: expected one argument"
  | .valueIgnored option value =>
    s!"argument {option}: ignored explicit argument {Text.quoted value}"
  | .ambiguous word candidates =>
    let names := String.intercalate ", " candidates
    s!"ambiguous option: {word} could match {names}"
  | .missing arguments =>
    let names := String.intercalate ", " arguments
    s!"the following arguments are required: {names}"
  | .unknownCommand word commands =>
    let names := String.intercalate ", " (commands.map Text.quoted)
    s!"argument command: invalid choice: {Text.quoted word} (choose from {names})"
  | .unrecognized words => "unrecognized arguments: " ++ String.intercalate " " words

/-- Why nothing is run: help was asked for, or a program refused its words. -/
inductive Stop where
  | help
  | refused (program : String) (fault : UsageFault)
  deriving DecidableEq, Repr

/-- The exit status of a stop. -/
def Stop.status : Stop → Nat
  | .help => 0
  | .refused .. => 2

/-- What a stop reports as an error, nothing for help. -/
def Stop.report : Stop → String
  | .help => ""
  | .refused program fault => s!"{program}: error: {fault.message}"

/-! ## Reading words -/

/-- What a word is read as. -/
inductive Reading (α : Type) where
  | plain
  | separator
  | long (o : Choice α) (value : Option String)
  | short (o : Choice α) (tail : List Char)
  | unknown

/-- A word and what it is read as. -/
structure Item (α : Type) where
  word : String
  reading : Reading α

/-- Whether a word looks like a negative number, as `-5`, `-.5` or `-1.5` do; a line end may
follow. -/
def looksNegative (w : List Char) : Bool :=
  let w := if w.getLast? = some '\n' then w.dropLast else w
  let isDigit (c : Char) := (Text.digitValue? c).isSome
  match w with
  | '-' :: body =>
    match body.dropWhile isDigit with
    | [] => !body.isEmpty
    | '.' :: fraction => !fraction.isEmpty && fraction.all isDigit
    | _ => false
  | _ => false

/-- What a word with a dash in front is read as if it names no option. -/
def unnamed {α : Type} (w : List Char) : Reading α :=
  if looksNegative w || w.contains ' ' then .plain else .unknown

/-- Cuts a text at the first equals sign. -/
def cutAtEquals (s : List Char) : String × Option String :=
  match s.dropWhile (· != '=') with
  | [] => (String.ofList s, none)
  | _ :: value => (String.ofList (s.takeWhile (· != '=')), some (String.ofList value))

/-- The option with this letter. -/
def Grammar.lettered {α : Type} (g : Grammar α) (c : Char) : Option (Choice α) :=
  g.choices.find? (·.letter = some c)

/-- What a word that stands before every separator is read as. -/
def Grammar.read {α : Type} (g : Grammar α) (word : String) :
    Except UsageFault (Reading α) :=
  match word.toList with
  | '-' :: '-' :: rest =>
    let (name, value) := cutAtEquals rest
    match g.choices.find? (·.name = name) with
    | some o => .ok (.long o value)
    -- a name that is cut short counts only if no option has it in full
    | none =>
      match g.choices.filter fun o => name.toList.isPrefixOf o.name.toList with
      | [] => .ok (unnamed word.toList)
      | [o] => .ok (.long o value)
      | os => .error (.ambiguous word (os.map (·.spelling)))
  | '-' :: c :: tail =>
    match g.lettered c with
    | some o => .ok (.short o tail)
    | none => .ok (unnamed word.toList)
  | _ => .ok .plain

/-- Reads all words. After the first separator every word is plain. -/
def Grammar.readAll {α : Type} (g : Grammar α) : List String → Except UsageFault (List (Item α))
  | [] => .ok []
  | w :: rest =>
    if w = "--" then .ok (⟨w, .separator⟩ :: rest.map (⟨·, .plain⟩))
    else do
      let reading ← g.read w
      let items ← g.readAll rest
      return ⟨w, reading⟩ :: items

/-! ## Taking words -/

/-- The end of a word that gives options: the last option alone, the last option with a value, or
a letter that no option has, with what follows it. -/
inductive Closing (α : Type) where
  | bare (o : Choice α)
  | valued (set : String → α → α) (value : String)
  | stray (word : String)

/-- The options that a word of letters gives: `o`, whose letter came first, and those in `tail`,
up to one that takes the rest of the word as its value. -/
def Grammar.lettersFrom {α : Type} (g : Grammar α) (o : Choice α) :
    List Char → Except UsageFault (List (Choice α) × Closing α)
  | [] => .ok ([], .bare o)
  | '=' :: value => match o.effect with
    | .value set => .ok ([], .valued set (String.ofList value))
    | _ => .error (.valueIgnored o.title (String.ofList value))
  | c :: tail => match o.effect with
    | .value set => .ok ([], .valued set (String.ofList (c :: tail)))
    -- the option takes no value, so `c` is the letter of another one
    | _ =>
      if c = '-' then .error (.valueIgnored o.title (String.ofList (c :: tail)))
      else match g.lettered c with
        | none => .ok ([o], .stray (String.ofList ('-' :: c :: tail)))
        | some next => do
          let (choices, closing) ← g.lettersFrom next tail
          return (o :: choices, closing)

/-- The options that a word gives, if it gives any. -/
def Grammar.occurrences {α : Type} (g : Grammar α) :
    Reading α → Option (Except UsageFault (List (Choice α) × Closing α))
  | .short o tail => some (g.lettersFrom o tail)
  | .long o none => some (.ok ([], .bare o))
  | .long o (some value) => some (match o.effect with
    | .value set => .ok ([], .valued set value)
    | _ => .error (.valueIgnored o.title value))
  | _ => none

/-- Sets the options that take no value, in order. Help stops everything. -/
def setSwitches {α : Type} (settings : α) (choices : List (Choice α)) : Except Stop α :=
  choices.foldlM (fun a o => match o.effect with
    | .help => .error .help
    | .switch set => .ok (set a)
    | .value _ => .ok a) settings

/-- The words taken so far: the settings, the arguments still to come, the strays, whether the
word before was taken as an argument, and whether a separator waits for its argument. -/
structure Taken (α : Type) where
  settings : α
  awaited : List (Argument α)
  strays : List String
  afterArgument : Bool
  afterSeparator : Bool

namespace Taken

variable {α : Type}

/-- A word that nothing takes. -/
def stray (t : Taken α) (word : String) : Taken α :=
  { t with strays := t.strays ++ [word], afterArgument := false, afterSeparator := false }

/-- A plain word: the next argument, or a stray. -/
def plain (t : Taken α) (word : String) : Taken α :=
  match t.awaited with
  | [] => t.stray word
  | a :: rest =>
    let value := if word = "--" && !t.afterSeparator then none else some word
    { t with
      settings := a.set value t.settings
      awaited := rest
      afterArgument := true
      afterSeparator := false }

/-- The separator belongs to the argument beside it, and is a stray if there is none. -/
def separator (t : Taken α) : Taken α :=
  if t.afterArgument then { t with afterArgument := false }
  else if t.awaited.isEmpty then t.stray "--"
  else { t with afterSeparator := true }

/-- New settings, after an option. -/
def withSettings (t : Taken α) (settings : α) : Taken α :=
  { t with settings := settings, afterArgument := false }

end Taken

/-- Takes the words from left to right. If a command ends the line, its name and all words after
it are left over. -/
def Grammar.take {α : Type} (g : Grammar α) (t : Taken α) :
    List (Item α) → Except Stop (Taken α × List String)
  | [] => .ok (t, [])
  | i :: rest =>
    match g.occurrences i.reading with
    | some (.error fault) => .error (.refused g.program fault)
    | some (.ok (choices, .stray word)) => do
      let settings ← setSwitches t.settings choices
      g.take ((t.withSettings settings).stray word) rest
    | some (.ok (choices, .valued set value)) => do
      let settings ← setSwitches t.settings choices
      g.take (t.withSettings (set value settings)) rest
    | some (.ok (choices, .bare o)) =>
      -- the value of an option is the next word, which must be plain
      match o.effect, rest with
      | .value set, ⟨value, .plain⟩ :: rest => do
        let settings ← setSwitches t.settings choices
        g.take (t.withSettings (set value settings)) rest
      | .value _, _ => .error (.refused g.program (.valueExpected o.title))
      | _, rest => do
        let settings ← setSwitches t.settings (choices ++ [o])
        g.take (t.withSettings settings) rest
    | none =>
      match i.reading with
      | .plain =>
        if g.endsWithCommand then .ok (t, i.word :: rest.map (·.word))
        else g.take (t.plain i.word) rest
      | .separator =>
        -- a separator before the command is taken for its name
        if g.endsWithCommand && !rest.isEmpty then .ok (t, i.word :: rest.map (·.word))
        else g.take t.separator rest
      | _ => g.take (t.stray i.word) rest

/-- The words of a command line, taken apart. -/
structure Parsed (α : Type) where
  settings : α
  strays : List String
  command : List String

/-- Takes the words of a command line apart, starting from the settings `start`. All arguments
must be there. -/
def Grammar.parse {α : Type} (g : Grammar α) (start : α) (words : List String) :
    Except Stop (Parsed α) := do
  let items ← (g.readAll words).mapError (.refused g.program)
  let (t, command) ← g.take ⟨start, g.arguments, [], false, false⟩ items
  let absent := t.awaited.map (·.name)
    ++ if g.endsWithCommand && command.isEmpty then ["command"] else []
  if absent.isEmpty then return ⟨t.settings, t.strays, command⟩
  else .error (.refused g.program (.missing absent))

end LoginVault.CommandLine
