import LoginVault.Login.Basic
import LoginVault.Login.Malformed
import LoginVault.Number.Reading

/-!
# Login.Decoding — logins from the members of an object

A field is found under its wire name or else under its plain name; the wire name wins even if
its value is refused. All faults of an object are found at once, in the order of the fields.
-/

namespace LoginVault

/-- A value, or all that was found against it. -/
abbrev Checked (α : Type) := Except (List Finding) α

/-- What was found against a value. -/
def Checked.findings {α : Type} : Checked α → List Finding
  | .ok _ => []
  | .error fs => fs

/-- A check seen from one step further out. -/
def Checked.under {α : Type} (step : PathStep) (c : Checked α) : Checked α :=
  c.mapError (·.map (·.under step))

/-- A refusal with a single fault. -/
def refuse {α : Type} (fault : Fault) : Checked α :=
  .error [⟨[], fault⟩]

/-! ## Values of fields -/

/-- Integers of a floating-point number lie strictly between these bounds. -/
def integerBound : Int := Int.pow 2 63

/-- The integer that a floating-point number is. -/
def integerOfReal (x : Binary64) : Checked Int :=
  match x.integrality with
  | .notFinite => refuse .notFinite
  | .fraction => refuse .fraction
  | .integer n => if -integerBound < n ∧ n < integerBound then .ok n else refuse .outOfRange

/-- A text and nothing else. -/
def textOf : Json → Checked String
  | .text s => .ok s
  | _ => refuse .notText

/-- A text, empty for null. -/
def textOrNull : Json → Checked String
  | .null => .ok ""
  | v => textOf v

/-- An identifier. Whatever is neither an integer nor a text is refused under both readings. -/
def loginIdOf : Json → Checked LoginId
  | .integer n => .ok (.number n)
  | .bool b => .ok (.number (if b then 1 else 0))
  | .text s => .ok (.name s)
  | v =>
    let reading : Checked Int := match v with
      | .real x => integerOfReal x
      | _ => refuse .notInteger
    match reading with
    | .ok n => .ok (.number n)
    | .error fs => .error (fs.map (·.under .asInteger) ++ [⟨[.asText], .notText⟩])

/-- A count that may be absent. -/
def countOf : Json → Checked (Option Int)
  | .null => .ok none
  | .integer n => .ok (some n)
  | .bool b => .ok (some (if b then 1 else 0))
  | .real x => (integerOfReal x).map some
  | .text s => match Number.countOf s with
    | .count n => .ok (some n)
    | .tooLong => refuse .outOfRange
    | .notACount => refuse .notACount
  | _ => refuse .notInteger

/-! ## Fields -/

/-- The two names of a field. -/
structure FieldName where
  wire : String
  plain : String

/-- The member of an object that holds the field, with the name it was found under. -/
def FieldName.find (f : FieldName) (ms : Json.Members) : Option (String × Json) :=
  match ms.lookup f.wire with
  | some v => some (f.wire, v)
  | none => (ms.lookup f.plain).map (f.plain, ·)

/-- The value of a field that must be there. -/
def required {α : Type} (ms : Json.Members) (f : FieldName) (check : Json → Checked α) :
    Checked α :=
  match f.find ms with
  | some (name, v) => (check v).under (.member name)
  | none => .error [⟨[.member f.wire], .missing⟩]

/-- The value of a field that may be absent. -/
def optional {α : Type} (ms : Json.Members) (f : FieldName) (default : α)
    (check : Json → Checked α) : Checked α :=
  match f.find ms with
  | some (name, v) => (check v).under (.member name)
  | none => .ok default

namespace FieldName

def id : FieldName := ⟨"ID", "id"⟩
def url : FieldName := ⟨"URL", "url"⟩
def username : FieldName := ⟨"Username", "username"⟩
def password : FieldName := ⟨"Password", "password"⟩
def data : FieldName := ⟨"Data", "data"⟩
def total : FieldName := ⟨"TotalData", "total_data"⟩
def filtered : FieldName := ⟨"FilteredData", "filtered_data"⟩

end FieldName

/-! ## Objects -/

/-- The login that a value is. -/
def Login.check : Json → Checked Login
  | .object ms =>
    match required ms .id loginIdOf, optional ms .url "" textOrNull,
      optional ms .username "" textOrNull, optional ms .password "" textOf with
    | .ok id, .ok url, .ok username, .ok password => .ok ⟨id, url, username, password⟩
    | id, url, username, password =>
      .error (id.findings ++ url.findings ++ username.findings ++ password.findings)
  | _ => refuse .notObject

/-- The login to be created that a value is. -/
def NewLogin.check : Json → Checked NewLogin
  | .object ms =>
    match required ms .url textOf, required ms .username textOf,
      optional ms .password "" textOf with
    | .ok url, .ok username, .ok password => .ok ⟨url, username, password⟩
    | url, username, password =>
      .error (url.findings ++ username.findings ++ password.findings)
  | _ => refuse .notObject

/-- The logins that the items of a list are, counted from `index` on. -/
def checkLogins (index : Nat) : List Json → Checked (List Login)
  | [] => .ok []
  | v :: rest =>
    match (Login.check v).under (.item index), checkLogins (index + 1) rest with
    | .ok login, .ok logins => .ok (login :: logins)
    | first, others => .error (first.findings ++ others.findings)

/-- The logins of a page, none for null. -/
def loginsOf : Json → Checked (List Login)
  | .null => .ok []
  | .list items => checkLogins 0 items
  | _ => refuse .notList

/-- The page that a value is. -/
def LoginPage.check : Json → Checked LoginPage
  | .object ms =>
    match optional ms .data [] loginsOf, optional ms .total none countOf,
      optional ms .filtered none countOf with
    | .ok logins, .ok total, .ok filtered => .ok ⟨logins, total, filtered⟩
    | logins, total, filtered =>
      .error (logins.findings ++ total.findings ++ filtered.findings)
  | _ => refuse .notObject

/-- The login that a value is, or why it is none. -/
def Login.decode (v : Json) : Except Malformed Login :=
  (Login.check v).mapError (⟨.login, v, ·⟩)

/-- The login to be created that a value is, or why it is none. -/
def NewLogin.decode (v : Json) : Except Malformed NewLogin :=
  (NewLogin.check v).mapError (⟨.newLogin, v, ·⟩)

/-- The page that a value is, or why it is none. -/
def LoginPage.decode (v : Json) : Except Malformed LoginPage :=
  (LoginPage.check v).mapError (⟨.page, v, ·⟩)

/-- The object that asks for a login to be created. -/
def NewLogin.encode (r : NewLogin) : Json.Members :=
  [(FieldName.url.wire, .text r.url), (FieldName.username.wire, .text r.username),
    (FieldName.password.wire, .text r.password)]

end LoginVault
