import LoginVault.Failure
import LoginVault.Login.Basic

/-!
# Table — a filtered and sorted view of a snapshot

The rows of a table are the projection of its snapshot under its filter and its order. Sorting
is by the case-folded address, then by the address itself, code point by code point. It is
stable in both directions: logins that compare equal keep the order of the snapshot.
-/

namespace LoginVault

/-- The directions of sorting. -/
inductive SortOrder where
  | ascend
  | descend
  deriving DecidableEq, Repr

/-- The name of a direction. -/
def SortOrder.name : SortOrder → String
  | .ascend => "ascend"
  | .descend => "descend"

/-- The direction of this name. -/
def SortOrder.ofName (name : String) : Except Failure SortOrder :=
  if name = SortOrder.ascend.name then .ok .ascend
  else if name = SortOrder.descend.name then .ok .descend
  else .error (.unknownOrder name)

/-- The order of texts by code points; a text comes before its extensions. -/
def codePointLe : List Char → List Char → Bool
  | [], _ => true
  | _ :: _, [] => false
  | a :: s, b :: t => a < b || (a = b && codePointLe s t)

/-- The order of logins: by folded address, then by address. -/
def Login.addressLe (a b : Login) : Bool :=
  let foldedA := Text.caseFold a.url.toList
  let foldedB := Text.caseFold b.url.toList
  if foldedA = foldedB then codePointLe a.url.toList b.url.toList
  else codePointLe foldedA foldedB

/-- The logins in this order, or as they are. -/
def SortOrder.sort (order : Option SortOrder) (logins : List Login) : List Login :=
  match order with
  | none => logins
  | some .ascend => logins.mergeSort Login.addressLe
  | some .descend => logins.mergeSort fun a b => b.addressLe a

/-- The rows of a snapshot: those that the filter lets through, in order. -/
def project (filter : String) (order : Option SortOrder) (snapshot : List Login) : List Login :=
  SortOrder.sort order (snapshot.filter (·.matchesFragment filter))

/-- A snapshot, a filter and an order, and the rows last derived from them. -/
structure Table where
  snapshot : List Login
  filter : String
  order : Option SortOrder
  rows : List Login
  deriving DecidableEq, Repr

namespace Table

/-- The table before any snapshot. -/
def empty : Table := ⟨[], "", none, []⟩

/-- The table with its rows derived anew. -/
def derive (t : Table) : Table :=
  { t with rows := project t.filter t.order t.snapshot }

/-- Shows another snapshot. -/
def setSnapshot (t : Table) (snapshot : List Login) : Table :=
  { t with snapshot := snapshot }.derive

/-- Shows the rows that hold another fragment. -/
def setFilter (t : Table) (filter : String) : Table :=
  { t with filter := filter }.derive

/-- Shows the rows in another order. -/
def setOrder (t : Table) (order : Option SortOrder) : Table :=
  { t with order := order }.derive

end Table

end LoginVault
