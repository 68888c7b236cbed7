import LoginVault.Exchange
import LoginVault.Terminal.Run

/-!
# Terminal.Screen — the terminal as lines

What the screen shows is written as lines, and what the user does is read from them.
-/

namespace LoginVault.Terminal

/-- The lines of a dialog. -/
def dialogLines (d : Dialog) : List String :=
  let stars := String.ofList (d.password.toList.map fun _ => '*')
  ["URL: " ++ d.url, "Username: " ++ d.username, "Password: " ++ stars, d.status]

/-- What the screen shows: the status bar, the rows of the grid, and the topmost dialog. -/
def lines (t : Terminal) : List String :=
  let rows := t.grid.map fun r => String.intercalate "\t" [r.url, r.username, r.password]
  t.statusText :: rows ++ (t.dialogs.head?.map dialogLines).getD []

/-- The input that a line gives: a word, and the text after it for those that take one. -/
def Input.ofLine? (line : String) : Option Input :=
  let word := String.ofList (line.toList.takeWhile (· != ' '))
  let text := String.ofList ((line.toList.dropWhile (· != ' ')).drop 1)
  match word with
  | "answer" => some (.answer 0 (.ofLine text))
  | "search" => some (.search text)
  | "url" => some (.fill (some text) none none)
  | "username" => some (.fill none (some text) none)
  | "password" => some (.fill none none (some text))
  | "enter" => some .enter
  | "save" => some .save
  | key => Input.ofKey? key

end LoginVault.Terminal
