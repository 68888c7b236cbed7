import LoginVault.Http
import LoginVault.Text.Quoted

/-!
# Exchange — requests and answers as lines

A request is written as one line, and an answer is read from one: a status, a blank and the
body. A line that begins with no number tells how the network failed.
-/

namespace LoginVault

/-- What a query asks for, in one line. -/
def Query.line : Query → String
  | .page search limit offset =>
    let searched := match search with
      | some s => s!" Search={Text.quoted s}"
      | none => ""
    s!"Limit={limit} Offset={offset}{searched}"
  | .create r =>
    s!"URL={Text.quoted r.url} Username={Text.quoted r.username} Password={Text.quoted r.password}"

/-- A request in one line. The authorization is not part of it. -/
def Request.line (r : Request) : String :=
  s!"{r.query.method} {r.url} {r.query.line}"

/-- The answer that a line gives. -/
def Answer.ofLine (line : String) : Answer :=
  let status := line.toList.takeWhile Char.isDigit
  if status.isEmpty then .fault (.network .connecting line)
  else
    let body := (line.toList.drop status.length).drop 1
    .response ⟨(String.ofList status).toNat?.getD 0, body.flatMap String.utf8EncodeChar⟩

end LoginVault
