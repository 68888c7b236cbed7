import LoginVault.Paging

/-!
# Script — operations against prepared answers

A script holds the answers to the requests of a run, in order. A request past its end fails to
connect. Running an operation takes answers from the front of the script and records what was
sent.
-/

namespace LoginVault

/-- The answers still to come and the requests sent so far, in order. -/
structure Script where
  answers : List Answer
  sent : List Request

namespace Script

/-- Why a request past the end of the script brings no response. -/
def exhausted : RequestFault := .network .connecting "script exhausted"

/-- A script from which nothing has been asked. -/
def ofAnswers (answers : List Answer) : Script := ⟨answers, []⟩

/-- Sends one query. -/
def send (c : Client) (query : Query) (s : Script) : Answer × Script :=
  (s.answers.headD (.fault exhausted), ⟨s.answers.tail, s.sent ++ [c.request query]⟩)

/-- Reads page after page, each answered by the next of `answers`. -/
def collectFrom (c : Client) (p : Paging) (sent : List Request) :
    List Answer → Except Failure (List Login) × Script
  | [] =>
    let query := p.query c.config.pageSize
    (.error (.store (.transport ⟨query, exhausted⟩)), ⟨[], sent ++ [c.request query]⟩)
  | a :: rest =>
    let sent := sent ++ [c.request (p.query c.config.pageSize)]
    match p.advance c.config.pageSize a with
    | .ok (.complete logins) => (.ok logins, ⟨rest, sent⟩)
    | .ok (.more p) => collectFrom c p sent rest
    | .error f => (.error f, ⟨rest, sent⟩)

/-- The logins of the store, all of them or those that it finds for a search. -/
def list (c : Client) (search : Option String) (s : Script) :
    Except Failure (List Login) × Script :=
  collectFrom c (.start search) s.sent s.answers

/-- The logins of the store; an empty search finds them all. -/
def find (c : Client) (search : String) (s : Script) : Except Failure (List Login) × Script :=
  s.list c (if search.isEmpty then none else some search)

/-- Creates a login. -/
def create (c : Client) (record : NewLogin) (s : Script) : Except Failure Login × Script :=
  let (answer, s) := s.send c (.create record)
  (answer.result (.create record) Response.created, s)

end Script

end LoginVault
