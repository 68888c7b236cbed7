import LoginVault.Json.Lexer

/-!
# Json.Parser — from tokens to a value

The parser walks the tokens once. Between two tokens it keeps the lists and objects that are
still open, innermost first, and what may come next.
-/

namespace LoginVault.Json

/-- A list or object that is still open. Its items stand in reverse, and an object knows the
name of the member whose value comes next. -/
inductive Frame where
  | list (done : List Json)
  | object (done : List (String × Json)) (name : String)

/-- What may come next: a value (or, where nothing stands before it, the end of the list); the
name of a member (or the end of the object); the colon after a name; whatever follows a
complete value. Outside all lists and objects a complete value is the end. -/
inductive Expect where
  | value
  | valueOrClose
  | name (done : List (String × Json))
  | nameOrClose
  | colon (done : List (String × Json)) (name : String)
  | afterItem (done : List Json)
  | afterMember (done : List (String × Json))
  | finished (v : Json)

/-- A parser between two tokens. -/
structure Parser where
  opened : List Frame
  expect : Expect

/-- The parser after a complete value. -/
def Parser.complete (opened : List Frame) (v : Json) : Parser :=
  match opened with
  | [] => ⟨[], .finished v⟩
  | .list done :: rest => ⟨rest, .afterItem (v :: done)⟩
  | .object done name :: rest => ⟨rest, .afterMember ((name, v) :: done)⟩

/-- The parser after a token where a value may stand. -/
def Parser.value? (opened : List Frame) : Token → Option Parser
  | .scalar v => some (.complete opened v)
  | .openList => some ⟨.list [] :: opened, .valueOrClose⟩
  | .openObject => some ⟨opened, .nameOrClose⟩
  | _ => none

/-- The parser after one more token. -/
def Parser.next? (p : Parser) (t : Token) : Option Parser :=
  match p.expect, t with
  | .valueOrClose, .closeList => match p.opened with
    | .list done :: rest => some (.complete rest (.list done.reverse))
    | _ => none
  | .value, t => Parser.value? p.opened t
  | .valueOrClose, t => Parser.value? p.opened t
  | .nameOrClose, .closeObject => some (.complete p.opened (.object []))
  | .nameOrClose, .scalar (.text name) => some ⟨p.opened, .colon [] name⟩
  | .name done, .scalar (.text name) => some ⟨p.opened, .colon done name⟩
  | .colon done name, .colon => some ⟨.object done name :: p.opened, .value⟩
  | .afterItem done, .comma => some ⟨.list done :: p.opened, .value⟩
  | .afterItem done, .closeList => some (.complete p.opened (.list done.reverse))
  | .afterMember done, .comma => some ⟨p.opened, .name done⟩
  | .afterMember done, .closeObject =>
    some (.complete p.opened (.object (Members.ofPairs done.reverse)))
  | _, _ => none

/-- The value that the tokens write. -/
def ofTokens? (tokens : List Token) : Option Json := do
  let p ← tokens.foldlM Parser.next? ⟨[], .value⟩
  match p.expect with
  | .finished v => some v
  | _ => none

/-- The value that a text writes. -/
def parse? (s : List Char) : Option Json :=
  (lex? s).bind ofTokens?

end LoginVault.Json
