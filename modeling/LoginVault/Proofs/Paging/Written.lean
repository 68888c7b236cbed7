import LoginVault.Proofs.Json.Objects

/-!
# Paging.Written — pages as a store writes them

A page whose logins have nothing but a number is written as an object with a list of objects in it,
without white space. It is read as it was written if its numbers are not too long to be read.

Main result: `Written.page_response`.
-/

namespace LoginVault.Written

open Json

/-- The login of a store that has nothing but this number. -/
def numbered (id : Nat) : Login := ⟨.number id, "", "", ""⟩

/-! ## Rows -/

/-- The text of a row. -/
def rowText (id : Nat) : List Char := objectText [("ID", spellInteger id)]

/-- The value of a row. -/
def rowValue (id : Nat) : Json := .object [("ID", .integer id)]

theorem parse?_rowText {id : Nat} (short : Number.Short id) :
    parse? (rowText id) = some (rowValue id) :=
  parse?_objectText [⟨"ID", spellInteger id, .integer id, parse?_spellInteger short⟩]

theorem checkLogins_rows (index : Nat) (ids : List Nat) :
    checkLogins index (ids.map rowValue) = .ok (ids.map numbered) := by
  induction ids generalizing index with
  | nil => rfl
  | cons id ids ih =>
    have hfirst : Checked.under (.item index) (Login.check (rowValue id)) = .ok (numbered id) := rfl
    simp [checkLogins, hfirst, ih]

/-! ## Pages -/

/-- The response of a store that answers with these rows and tells this count. -/
def response (first : Nat) (ids : List Nat) (count : Nat) : Response :=
  ⟨200, objectBody [("Data", listText ((first :: ids).map rowText)),
    ("FilteredData", spellInteger count)]⟩

/-- The value of a page. -/
def pageValue (first : Nat) (ids : List Nat) (count : Nat) : Json :=
  .object [("Data", .list ((first :: ids).map rowValue)), ("FilteredData", .integer count)]

section

variable {first count : Nat} {ids : List Nat}

theorem decode?_page (short : ∀ id ∈ first :: ids, Number.Short id)
    (shortCount : Number.Short count) :
    Json.decode? (response first ids count).body = some (pageValue first ids count) :=
  decode?_objectBody
    [⟨"Data", listText ((first :: ids).map rowText), .list ((first :: ids).map rowValue),
        parse?_listText fun id mem => parse?_rowText (short id mem)⟩,
      ⟨"FilteredData", spellInteger count, .integer count, parse?_spellInteger shortCount⟩]

theorem check_page : LoginPage.check (pageValue first ids count)
    = .ok ⟨(first :: ids).map numbered, none, some count⟩ := by
  have hlogins : loginsOf (.list ((first :: ids).map rowValue))
      = .ok ((first :: ids).map numbered) := checkLogins_rows 0 (first :: ids)
  have hdata : optional [("Data", .list ((first :: ids).map rowValue)),
      ("FilteredData", .integer count)] .data [] loginsOf = .ok ((first :: ids).map numbered) := by
    show Checked.under (.member "Data") (loginsOf (.list ((first :: ids).map rowValue))) = _
    rw [hlogins]
    rfl
  rw [pageValue, LoginPage.check, hdata]
  rfl

/-- A page is read as it was written. -/
theorem page_response (short : ∀ id ∈ first :: ids, Number.Short id)
    (shortCount : Number.Short count) :
    (response first ids count).page = .ok ⟨(first :: ids).map numbered, none, some count⟩ := by
  have hvalue : (response first ids count).value = .ok (pageValue first ids count) := by
    rw [Response.value, decode?_page short shortCount]
    rfl
  -- the object has a member for the logins, so it is decoded
  rw [Response.page, hvalue]
  show (LoginPage.decode (pageValue first ids count)).mapError (ProtocolFault.malformed .page) = _
  rw [LoginPage.decode, check_page]
  rfl

end

end LoginVault.Written
