import LoginVault.Client

/-!
# Paging — the whole collection, page by page

Pages are asked for one after the other, each at the count of rows read so far. Reading ends
with a page that is short, that tells no count of matching logins, that reaches this count, or
that brings no new identifier. Of several rows with one identifier the first is kept.
-/

namespace LoginVault

/-- Logins read so far. No two of them have one identifier. -/
structure Paging where
  search : Option String
  offset : Nat
  collected : List Login
  deriving DecidableEq, Repr

namespace Paging

/-- Before the first page. -/
def start (search : Option String) : Paging := ⟨search, 0, []⟩

/-- The query for the next page. -/
def query (p : Paging) (pageSize : Nat) : Query :=
  .page p.search pageSize p.offset

/-- Adds a login, unless its identifier is known. -/
def keep (known : List Login) (l : Login) : List Login :=
  if known.any (·.id = l.id) then known else known ++ [l]

/-- Adds the rows of a page. -/
def add (p : Paging) (page : LoginPage) : Paging :=
  { p with
    offset := p.offset + page.logins.length
    collected := page.logins.foldl keep p.collected }

/-- Whether `page` is the last one to be read; `before` is the state before it was added and
`after` the state with it. -/
def isLast (pageSize : Nat) (before : Paging) (page : LoginPage) (after : Paging) : Bool :=
  page.logins.length < pageSize
    || (match page.filtered with
      | none => true
      | some n => n ≤ after.offset)
    || after.collected.length = before.collected.length

/-- A page further: either more is to be read, or the collection is complete. -/
inductive Progress where
  | more (p : Paging)
  | complete (logins : List Login)
  deriving DecidableEq, Repr

/-- The progress that a page makes. -/
def turn (pageSize : Nat) (p : Paging) (page : LoginPage) : Progress :=
  let after := p.add page
  if p.isLast pageSize page after then .complete after.collected else .more after

/-- The progress that an answer makes. -/
def advance (pageSize : Nat) (p : Paging) (a : Answer) : Except Failure Progress :=
  (a.result (p.query pageSize) Response.page).map (p.turn pageSize)

end Paging

end LoginVault
