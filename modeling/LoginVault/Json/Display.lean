import LoginVault.Json.Basic
import LoginVault.Number.Display
import LoginVault.Text.Quoted

/-!
# Json.Display — a value inside a message

A text is shown as it is, and quoted inside a list or an object. Where a value is quoted to explain
what is wrong with it, no more is shown of it than its beginning and its end.
-/

namespace LoginVault.Json

open LoginVault.Text

mutual

/-- The text of a value that stands inside another one. -/
def inner : Json → String
  | .null => "None"
  | .bool b => if b then "True" else "False"
  | .integer n => toString n
  | .real x => x.text
  | .text s => quoted s
  | .list items => "[" ++ String.intercalate ", " (innerItems items) ++ "]"
  | .object members => "\x7b" ++ String.intercalate ", " (innerMembers members) ++ "\x7d"

/-- The texts of the items of a list. -/
def innerItems : List Json → List String
  | [] => []
  | v :: rest => inner v :: innerItems rest

/-- The texts of the members of an object. -/
def innerMembers : List (String × Json) → List String
  | [] => []
  | (name, v) :: rest => (quoted name ++ ": " ++ inner v) :: innerMembers rest

end

/-- The text of a value in a message. -/
def display : Json → String
  | .text s => s
  | v => inner v

instance : Repr Json where
  reprPrec v _ := inner v

/-- The longest beginning of a text that has no more than `n` octets. -/
def fitting : Nat → List Char → List Char
  | _, [] => []
  | n, c :: rest => if c.utf8Size ≤ n then c :: fitting (n - c.utf8Size) rest else []

/-- A text, or its beginning and its end if it has more than fifty octets. -/
def abridged (s : String) : String :=
  if s.utf8ByteSize ≤ 50 then s
  else
    let beginning := fitting 25 s.toList
    let ending := (fitting 24 s.toList.reverse).reverse
    String.ofList (beginning ++ ['.', '.', '.'] ++ ending)

/-- The text of a value that is at fault. -/
def quotation (v : Json) : String := abridged (inner v)

example : quotation (.text "aaaaaaaaaabbbbbbbbbbccccccccccddddddddddeeeeeeeeeπ")
    = "'aaaaaaaaaabbbbbbbbbbcccc...ccddddddddddeeeeeeeeeπ'" := by decide +kernel

end LoginVault.Json
