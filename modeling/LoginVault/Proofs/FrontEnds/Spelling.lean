import LoginVault.Agent
import LoginVault.CommandLine.Command

/-!
# FrontEnds.Spelling — a command line for every call

What an agent can ask for the program can be asked for too, whatever the texts of the call are: a
search or a password stands behind an equals sign, and an address or a user name behind a
separator, so that none of them is taken for an option.

Main result: `AgentCall.understood_words`.
-/

namespace LoginVault

open CommandLine

/-- The command that asks for the same as a call. -/
def AgentCall.command : AgentCall → Command
  | .lookUp url => .lookup url
  | .list search reveal => .list search reveal
  | .create r => .add r.url (some r.username) r.password

/-- The word that gives an option a value. -/
def valueWord (name value : String) : String := "--" ++ name ++ "=" ++ value

/-- Words that ask for the same as a call. -/
def AgentCall.words : AgentCall → List String
  | .lookUp url => ["lookup", "--", url]
  | .list search false => ["list", valueWord "search" search]
  | .list search true => ["list", valueWord "search" search, "--reveal"]
  | .create r => ["add", valueWord "password" r.password, "--", r.url, r.username]

/-- The option of `list` for a search. -/
def searchChoice : Choice ListSettings :=
  ⟨none, "search", .value fun v s => { s with search := v }⟩

/-- The option of `add` for a password. -/
def passwordChoice : Choice AddSettings :=
  ⟨none, "password", .value fun v s => { s with password := v }⟩

/-! ## Words with a value -/

section ValueWord

variable {α : Type}

/-- A value behind an equals sign is cut off whole. -/
theorem cutAtEquals_append {name : List Char} (plain : '=' ∉ name) (value : String) :
    cutAtEquals (name ++ '=' :: value.toList) = (String.ofList name, some value) := by
  have hname : ∀ x ∈ name, (x != '=') = true := by
    intro x hx
    simpa using fun h : x = '=' => plain (h ▸ hx)
  simp [cutAtEquals, List.dropWhile_append_of_pos hname, List.takeWhile_append_of_pos hname]

theorem toList_valueWord (name value : String) :
    (valueWord name value).toList = '-' :: '-' :: (name.toList ++ '=' :: value.toList) := by
  simp [valueWord, String.toList_append]

theorem valueWord_ne_separator (name value : String) : valueWord name value ≠ "--" := by
  intro h
  have hlist := congrArg String.toList h
  simp [toList_valueWord] at hlist

/-- The word gives the value to the option with the name. -/
theorem read_valueWord (g : Grammar α) {name : String} {o : Choice α} (plain : '=' ∉ name.toList)
    (named : g.choices.find? (·.name = name) = some o) (value : String) :
    g.read (valueWord name value) = .ok (.long o (some value)) := by
  simp [Grammar.read, toList_valueWord, cutAtEquals_append plain, named]

/-- Where no option has a name that begins so, the word names none. -/
theorem read_valueWord_unnamed (g : Grammar α) {name : String} (plain : '=' ∉ name.toList)
    (other : g.choices.find? (·.name = name) = none)
    (others : g.choices.filter (fun o => name.toList.isPrefixOf o.name.toList) = [])
    (value : String) :
    g.read (valueWord name value) = .ok (unnamed (valueWord name value).toList) := by
  simp [Grammar.read, toList_valueWord, cutAtEquals_append plain, other, others]

end ValueWord

/-! ## Lines of words -/

section Lines

variable {α : Type} {g : Grammar α} {words : List String} {items : List (Item α)}

theorem readAll_nil : g.readAll [] = .ok [] := rfl

theorem readAll_cons {word : String} {reading : Reading α} (inner : word ≠ "--")
    (read : g.read word = .ok reading) (rest : g.readAll words = .ok items) :
    g.readAll (word :: words) = .ok (⟨word, reading⟩ :: items) := by
  simp [Grammar.readAll, inner, read, rest, bind, Except.bind, pure, Except.pure]

/-- After a separator every word is plain. -/
theorem readAll_separator (words : List String) :
    g.readAll ("--" :: words) = .ok (⟨"--", .separator⟩ :: words.map (⟨·, .plain⟩)) := by
  simp [Grammar.readAll]

/-- A line is understood if taking its words leaves no argument out. -/
theorem parse_of_take (start : α) {t : Taken α} {command : List String}
    (read : g.readAll words = .ok items)
    (taken : g.take ⟨start, g.arguments, [], false, false⟩ items = .ok (t, command))
    (complete : t.awaited = []) (named : g.endsWithCommand = true → command ≠ []) :
    g.parse start words = .ok ⟨t.settings, t.strays, command⟩ := by
  have hread : (g.readAll words).mapError (Stop.refused g.program) = .ok items := by
    rw [read]
    rfl
  have hnamed : (g.endsWithCommand && command.isEmpty) = false := by
    simpa using named
  simp [Grammar.parse, hread, taken, complete, hnamed, bind, Except.bind, pure, Except.pure]

/-- After the name of a command the program leaves all words to the command. -/
theorem ofWords_of_command {name : String} {command : Command} {items : List (Item ProgramSettings)}
    (read : programGrammar.readAll (name :: words) = .ok (⟨name, .plain⟩ :: items))
    (rest : items.map (·.word) = words) (taken : Command.ofWords name words = .ok (command, [])) :
    Invocation.ofWords (name :: words) = .ok ⟨"", false, command⟩ := by
  have hparse : programGrammar.parse ⟨"", false⟩ (name :: words)
      = .ok ⟨⟨"", false⟩, [], name :: words⟩ :=
    parse_of_take (t := ⟨⟨"", false⟩, [], [], false, false⟩) _ read
      (by rw [← rest]; rfl) rfl (by simp)
  simp [Invocation.ofWords, hparse, taken, bind, Except.bind, pure, Except.pure]

end Lines

/-! ## Calls -/

/-- Every call can be asked for, but for a user name that is a separator. -/
theorem AgentCall.understood_words (call : AgentCall)
    (h : ∀ r, call = .create r → r.username ≠ "--") :
    Invocation.ofWords call.words = .ok ⟨"", false, call.command⟩ := by
  cases call with
  | lookUp url =>
    have htake : lookupGrammar.take ⟨"", lookupGrammar.arguments, [], false, false⟩
        [⟨"--", .separator⟩, ⟨url, .plain⟩] = .ok (⟨url, [], [], true, false⟩, []) := by
      simp [lookupGrammar, commandGrammar, Grammar.take, Grammar.occurrences, Taken.separator,
        Taken.plain]
    have hparse := parse_of_take "" (readAll_separator [url]) htake rfl nofun
    refine ofWords_of_command (readAll_cons (by decide) rfl (readAll_separator _)) rfl ?_
    simp only [Command.ofWords, hparse]
    rfl
  | list search reveal =>
    have hword := valueWord_ne_separator "search" search
    have houter : programGrammar.read (valueWord "search" search) = .ok _ :=
      read_valueWord_unnamed _ (by decide) (by decide +kernel) (by decide +kernel) search
    have hinner : listGrammar.read (valueWord "search" search)
        = .ok (.long searchChoice (some search)) :=
      read_valueWord _ (by decide) rfl search
    cases reveal with
    | false =>
      have hparse := parse_of_take ⟨"", false⟩ (readAll_cons hword hinner readAll_nil) rfl rfl nofun
      refine ofWords_of_command
        (readAll_cons (by decide) rfl (readAll_cons hword houter readAll_nil)) rfl ?_
      simp only [Command.ofWords, hparse]
      rfl
    | true =>
      have hswitch : listGrammar.readAll ["--reveal"] = .ok [⟨"--reveal", .long
        ⟨none, "reveal", .switch fun s => { s with reveal := true }⟩ none⟩] := rfl
      have hunnamed : programGrammar.readAll ["--reveal"] = .ok [⟨"--reveal", .unknown⟩] := rfl
      have hparse := parse_of_take ⟨"", false⟩ (readAll_cons hword hinner hswitch) rfl rfl nofun
      refine ofWords_of_command
        (readAll_cons (by decide) rfl (readAll_cons hword houter hunnamed)) rfl ?_
      simp only [Command.ofWords, hparse]
      rfl
  | create r =>
    have hword := valueWord_ne_separator "password" r.password
    have houter : programGrammar.read (valueWord "password" r.password) = .ok _ :=
      read_valueWord_unnamed _ (by decide) (by decide +kernel) (by decide +kernel) r.password
    have hinner : addGrammar.read (valueWord "password" r.password)
        = .ok (.long passwordChoice (some r.password)) :=
      read_valueWord _ (by decide) rfl r.password
    have htake : addGrammar.take ⟨⟨"", none, ""⟩, addGrammar.arguments, [], false, false⟩
        [⟨valueWord "password" r.password, .long passwordChoice (some r.password)⟩,
          ⟨"--", .separator⟩, ⟨r.url, .plain⟩, ⟨r.username, .plain⟩]
        = .ok (⟨⟨r.url, some r.username, r.password⟩, [], [], true, false⟩, []) := by
      have husername : r.username ≠ "--" := h r rfl
      simp [addGrammar, commandGrammar, passwordChoice, Grammar.take, Grammar.occurrences,
        setSwitches, Taken.separator, Taken.plain, Taken.withSettings, husername, bind,
        Except.bind, pure, Except.pure]
    have hparse := parse_of_take ⟨"", none, ""⟩
      (readAll_cons hword hinner (readAll_separator [r.url, r.username])) htake rfl nofun
    refine ofWords_of_command
      (readAll_cons (by decide) rfl (readAll_cons hword houter (readAll_separator _))) rfl ?_
    simp only [Command.ofWords, hparse]
    rfl

end LoginVault
