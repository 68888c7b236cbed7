import LoginVault.Named
import LoginVault.Number.Binary64

/-!
# Json.Basic — the values an answer can hold

A number written without a point or an exponent is an integer of any size, every other number is
a binary64 number. The members of an object keep the order in which their names first came; a
name that comes again replaces the value.
-/

namespace LoginVault

/-- A value read from the body of an answer. -/
inductive Json where
  | null
  | bool (b : Bool)
  | integer (n : Int)
  | real (x : Binary64)
  | text (s : String)
  | list (items : List Json)
  | object (members : List (String × Json))

/-- The kinds of values that a message can name. -/
inductive Kind where
  | null
  | bool
  | integer
  | real
  | text
  | list
  | object
  deriving DecidableEq, Repr

/-- The name of a kind in messages. -/
def Kind.name : Kind → String
  | .null => "NoneType"
  | .bool => "bool"
  | .integer => "int"
  | .real => "float"
  | .text => "str"
  | .list => "list"
  | .object => "dict"

namespace Json

/-- The kind of a value. -/
def kind : Json → Kind
  | .null => .null
  | .bool _ => .bool
  | .integer _ => .integer
  | .real _ => .real
  | .text _ => .text
  | .list _ => .list
  | .object _ => .object

/-! ## Equality -/

mutual

/-- Whether two values are the same. -/
def same : Json → Json → Bool
  | .null, .null => true
  | .bool a, .bool b => a = b
  | .integer m, .integer n => m = n
  | .real x, .real y => x = y
  | .text s, .text t => s = t
  | .list items, .list items' => sameItems items items'
  | .object members, .object members' => sameMembers members members'
  | _, _ => false

/-- Whether two lists have the same items. -/
def sameItems : List Json → List Json → Bool
  | [], [] => true
  | v :: rest, v' :: rest' => same v v' && sameItems rest rest'
  | _, _ => false

/-- Whether two objects have the same members in the same order. -/
def sameMembers : List (String × Json) → List (String × Json) → Bool
  | [], [] => true
  | (name, v) :: rest, (name', v') :: rest' =>
    name = name' && same v v' && sameMembers rest rest'
  | _, _ => false

end

mutual

theorem same_iff : ∀ v w : Json, same v w = true ↔ v = w
  | .list items, w => by
    cases w with
    | list items' => simp [same, sameItems_iff items items']
    | _ => simp [same]
  | .object members, w => by
    cases w with
    | object members' => simp [same, sameMembers_iff members members']
    | _ => simp [same]
  | .null, w | .bool _, w | .integer _, w | .real _, w | .text _, w => by
    cases w <;> simp [same]

theorem sameItems_iff : ∀ items items' : List Json, sameItems items items' = true ↔ items = items'
  | [], items' => by cases items' <;> simp [sameItems]
  | _ :: _, [] => by simp [sameItems]
  | v :: rest, v' :: rest' => by simp [sameItems, same_iff v v', sameItems_iff rest rest']

theorem sameMembers_iff : ∀ members members' : List (String × Json),
    sameMembers members members' = true ↔ members = members'
  | [], members' => by cases members' <;> simp [sameMembers]
  | _ :: _, [] => by simp [sameMembers]
  | (_, v) :: rest, (_, v') :: rest' => by
    simp [sameMembers, same_iff v v', sameMembers_iff rest rest']

end

instance : DecidableEq Json := fun v w => decidable_of_iff _ (same_iff v w)

/-! ## Members -/

/-- The members of an object. -/
abbrev Members := Named Json

/-- The members of an object written with these names and values, in this order. -/
def Members.ofPairs (pairs : List (String × Json)) : Members :=
  pairs.foldl (fun ms p => Named.put p.1 p.2 ms) []

end Json

end LoginVault
