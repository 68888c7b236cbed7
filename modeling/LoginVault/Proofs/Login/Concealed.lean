import LoginVault.Login.Decoding

/-!
# Login.Concealed — what is read from a body without its passwords

Concealing a body empties the passwords of the login or of the rows in it, where they are texts,
and touches nothing else. From a concealed body the same is read, with empty passwords, and the same
is found against it.

A finding quotes the value that it is about. No password is concealed in that value, with one
exception: against a login without an identifier it is found that the identifier is missing, which
quotes the whole login.

Main results: `Login.check_concealed` and `LoginPage.check_concealed`, and what is quoted,
`Login.agree_concealed` and `LoginPage.agree_concealed`.
-/

namespace LoginVault

/-- The names under which a field is looked for. -/
def FieldName.names (f : FieldName) : List String := [f.wire, f.plain]

namespace Json

/-- The members with other values under the same names. -/
def Members.change (g : String → Json → Json) (ms : Members) : Members :=
  ms.map fun m => (m.1, g m.1 m.2)

/-- The value with an empty text in place of any text. -/
def withoutText : Json → Json
  | .text _ => .text ""
  | v => v

/-- The value of a member of a login, with an empty text in place of a password. -/
def hidden (name : String) (v : Json) : Json :=
  if name ∈ FieldName.password.names then v.withoutText else v

/-- A row with an empty text in place of its password. -/
def rowConcealed : Json → Json
  | .object ms => .object (Members.change hidden ms)
  | v => v

/-- A list with empty texts in place of the passwords of its rows. -/
def rowsConcealed : Json → Json
  | .list items => .list (items.map rowConcealed)
  | v => v

/-- The value of a member of a login or a page, with empty texts in place of passwords. -/
def bodyHidden (name : String) (v : Json) : Json :=
  if name ∈ FieldName.data.names then v.rowsConcealed else hidden name v

/-- A body with empty texts in place of the passwords in it, be it a login or a page. -/
def concealed : Json → Json
  | .object ms => .object (Members.change bodyHidden ms)
  | v => v

theorem lookup_change (g : String → Json → Json) (ms : Members) (name : String) :
    (ms.change g).lookup name = (ms.lookup name).map (g name) := by
  induction ms with
  | nil => rfl
  | cons m rest ih =>
    obtain ⟨n, v⟩ := m
    by_cases hn : name = n
    · subst hn
      simp [Members.change]
    · have hother : (name == n) = false := by simpa using hn
      simpa [Members.change, List.lookup_cons, hother] using ih

/-- Whether two values are the same at the places of these findings. -/
def Agree (findings : List Finding) (v w : Json) : Prop :=
  ∀ f ∈ findings, v.valueAt f.path = w.valueAt f.path

end Json

/-- Whether a change of members empties passwords that are texts and keeps the rest of a login. -/
structure HidesPasswords (g : String → Json → Json) : Prop where
  password : ∀ name ∈ FieldName.password.names, g name = Json.withoutText
  others : ∀ f ∈ [FieldName.id, .url, .username], ∀ name ∈ f.names, g name = id

theorem hidesPasswords_hidden : HidesPasswords Json.hidden where
  password name h := by
    funext v
    rw [Json.hidden, if_pos h]
  others f hf name h := by
    have hnames : ∀ f ∈ [FieldName.id, .url, .username], ∀ name ∈ f.names,
        name ∉ FieldName.password.names := by decide
    funext v
    rw [Json.hidden, if_neg (hnames f hf name h), id]

/-- The names of the rows are those of no field of a login. -/
theorem bodyHidden_of_login : ∀ f ∈ [FieldName.password, .id, .url, .username], ∀ name ∈ f.names,
    Json.bodyHidden name = Json.hidden name := by
  have hnames : ∀ f ∈ [FieldName.password, .id, .url, .username], ∀ name ∈ f.names,
      name ∉ FieldName.data.names := by decide
  intro f hf name h
  funext v
  rw [Json.bodyHidden, if_neg (hnames f hf name h)]

theorem hidesPasswords_bodyHidden : HidesPasswords Json.bodyHidden where
  password name h := by
    rw [bodyHidden_of_login .password List.mem_cons_self name h]
    exact hidesPasswords_hidden.password name h
  others f hf name h := by
    rw [bodyHidden_of_login f (List.mem_cons_of_mem _ hf) name h]
    exact hidesPasswords_hidden.others f hf name h

/-- The login with an empty password. -/
def Login.concealed (l : Login) : Login := { l with password := "" }

/-- The page with empty passwords. -/
def LoginPage.concealed (p : LoginPage) : LoginPage :=
  { p with logins := p.logins.map (·.concealed) }

/-! ## Fields -/

section Fields

variable {α : Type} {f : FieldName} {check : Json → Checked α} {g : String → Json → Json}
  {h : α → α} {ms : Json.Members}

theorem names_of_find {p : String × Json} (found : f.find ms = some p) :
    p.1 ∈ f.names ∧ ms.lookup p.1 = some p.2 := by
  unfold FieldName.find at found
  split at found
  · rename_i v hwire
    obtain rfl := Option.some.inj found
    exact ⟨List.mem_cons_self, hwire⟩
  · obtain ⟨v, hplain, rfl⟩ := Option.map_eq_some_iff.mp found
    exact ⟨List.mem_cons_of_mem _ List.mem_cons_self, hplain⟩

theorem find_change :
    f.find (ms.change g) = (f.find ms).map fun p => (p.1, g p.1 p.2) := by
  simp only [FieldName.find, Json.lookup_change]
  cases ms.lookup f.wire with
  | some v => rfl
  | none =>
    cases ms.lookup f.plain with
    | some v => rfl
    | none => rfl

theorem Checked.under_map (c : Checked α) (step : PathStep) :
    Checked.under step (c.map h) = (c.under step).map h := by
  cases c <;> rfl

theorem Checked.findings_under (c : Checked α) (step : PathStep) :
    (c.under step).findings = c.findings.map (·.under step) := by
  cases c <;> rfl

/-- What is read from a field changes as what is read from its value does. -/
theorem required_change (changed : ∀ name ∈ f.names, ∀ v, check (g name v) = (check v).map h) :
    required (ms.change g) f check = (required ms f check).map h := by
  simp only [required, find_change]
  cases found : f.find ms with
  | none => rfl
  | some p => simp only [Option.map_some, changed _ (names_of_find found).1, Checked.under_map]

theorem optional_change {default : α}
    (changed : ∀ name ∈ f.names, ∀ v, check (g name v) = (check v).map h)
    (kept : h default = default) :
    optional (ms.change g) f default check = (optional ms f default check).map h := by
  simp only [optional, find_change]
  cases found : f.find ms with
  | none => simp [Except.map, kept]
  | some p => simp only [Option.map_some, changed _ (names_of_find found).1, Checked.under_map]

/-- If the value of a field and its change are the same where something is found against the value,
so are the two objects. -/
theorem agree_member {p : String × Json} (found : f.find ms = some p)
    (agree : Json.Agree (check p.2).findings (g p.1 p.2) p.2) :
    Json.Agree ((check p.2).under (.member p.1)).findings (.object (ms.change g)) (.object ms) := by
  have hvalue := (names_of_find found).2
  have hchanged : (ms.change g).lookup p.1 = some (g p.1 p.2) := by
    rw [Json.lookup_change, hvalue, Option.map_some]
  intro x hx
  rw [Checked.findings_under] at hx
  obtain ⟨y, hy, rfl⟩ := List.mem_map.mp hx
  simpa [Finding.under, Json.valueAt, hvalue, hchanged] using agree y hy

theorem agree_required (present : (f.find ms).isSome)
    (agree : ∀ name v, f.find ms = some (name, v) → Json.Agree (check v).findings (g name v) v) :
    Json.Agree (required ms f check).findings (.object (ms.change g)) (.object ms) := by
  obtain ⟨p, found⟩ := Option.isSome_iff_exists.mp present
  simpa only [required, found] using agree_member found (agree _ _ found)

theorem agree_optional {default : α}
    (agree : ∀ name v, f.find ms = some (name, v) → Json.Agree (check v).findings (g name v) v) :
    Json.Agree (optional ms f default check).findings (.object (ms.change g)) (.object ms) := by
  cases found : f.find ms with
  | none => simp [optional, found, Checked.findings, Json.Agree]
  | some p => simpa only [optional, found] using agree_member found (agree _ _ found)

end Fields

theorem Json.agree_of_eq {findings : List Finding} {v w : Json} (h : v = w) :
    Json.Agree findings v w := fun _ _ => h ▸ rfl

theorem Json.Agree.append {first others : List Finding} {v w : Json}
    (h : Json.Agree first v w) (h' : Json.Agree others v w) :
    Json.Agree (first ++ others) v w := by
  intro f hf
  rcases List.mem_append.mp hf with hf | hf
  · exact h f hf
  · exact h' f hf

/-! ## Logins -/

theorem textOf_withoutText (v : Json) : textOf v.withoutText = (textOf v).map fun _ => "" := by
  cases v <;> rfl

/-- Where no text is found, none was concealed. -/
theorem agree_withoutText (v : Json) : Json.Agree (textOf v).findings v.withoutText v := by
  cases v with
  | text s => simp [textOf, Checked.findings, Json.Agree]
  | _ => exact Json.agree_of_eq rfl

section Logins

variable {g : String → Json → Json} {ms : Json.Members}

theorem HidesPasswords.check (hides : HidesPasswords g) :
    Login.check (.object (ms.change g)) = (Login.check (.object ms)).map (·.concealed) := by
  have hkept {α : Type} {f : FieldName} (hf : f ∈ [FieldName.id, .url, .username])
      (check : Json → Checked α) (name : String) (hname : name ∈ f.names) (v : Json) :
      check (g name v) = (check v).map id := by
    rw [hides.others f hf name hname, Except.map_id, id, id]
  -- all fields but the password are read from members that did not change
  have hid : required (ms.change g) .id loginIdOf = (required ms .id loginIdOf).map id :=
    required_change (hkept (by simp) loginIdOf)
  have hurl : optional (ms.change g) .url "" textOrNull
      = (optional ms .url "" textOrNull).map id :=
    optional_change (hkept (by simp) textOrNull) rfl
  have husername : optional (ms.change g) .username "" textOrNull
      = (optional ms .username "" textOrNull).map id :=
    optional_change (hkept (by simp) textOrNull) rfl
  have hpassword : optional (ms.change g) .password "" textOf
      = (optional ms .password "" textOf).map fun _ => "" := by
    refine optional_change (fun name hname v => ?_) rfl
    rw [hides.password name hname, textOf_withoutText]
  simp only [Login.check, hid, hurl, husername, hpassword, Except.map_id, id]
  cases required ms .id loginIdOf <;> cases optional ms .url "" textOrNull <;>
    cases optional ms .username "" textOrNull <;> cases optional ms .password "" textOf <;> rfl

/-- All that is found against a login is found against one of its fields. -/
theorem Login.findings_check :
    (Login.check (.object ms)).findings
      = (required ms .id loginIdOf).findings ++ (optional ms .url "" textOrNull).findings
        ++ (optional ms .username "" textOrNull).findings
        ++ (optional ms .password "" textOf).findings := by
  simp only [Login.check]
  cases required ms .id loginIdOf <;> cases optional ms .url "" textOrNull <;>
    cases optional ms .username "" textOrNull <;> cases optional ms .password "" textOf <;> rfl

/-- No password is concealed in what is quoted of a login with an identifier. -/
theorem HidesPasswords.agree (hides : HidesPasswords g)
    (identified : (FieldName.id.find ms).isSome) :
    Json.Agree (Login.check (.object ms)).findings (.object (ms.change g)) (.object ms) := by
  have hkept {f : FieldName} (hf : f ∈ [FieldName.id, .url, .username]) {name : String} {v : Json}
      (found : f.find ms = some (name, v)) : g name v = v := by
    rw [hides.others f hf name (names_of_find found).1, id]
  rw [Login.findings_check]
  -- only a finding against the identifier could quote the whole login, and it is there
  refine .append (.append (.append ?_ ?_) ?_) ?_
  · exact agree_required identified fun _ _ found => Json.agree_of_eq (hkept (by simp) found)
  · exact agree_optional fun _ _ found => Json.agree_of_eq (hkept (by simp) found)
  · exact agree_optional fun _ _ found => Json.agree_of_eq (hkept (by simp) found)
  · refine agree_optional fun name v found => ?_
    rw [hides.password name (names_of_find found).1]
    exact agree_withoutText v

end Logins

/-- Whether a value is an object that has no identifier. -/
def Json.LacksIdentifier : Json → Prop
  | .object ms => FieldName.id.find ms = none
  | _ => False

theorem Json.lacksIdentifier_rowConcealed (v : Json) :
    v.rowConcealed.LacksIdentifier ↔ v.LacksIdentifier := by
  cases v with
  | object ms => simp [rowConcealed, LacksIdentifier, find_change]
  | _ => rfl

theorem Json.lacksIdentifier_concealed (v : Json) :
    v.concealed.LacksIdentifier ↔ v.LacksIdentifier := by
  cases v with
  | object ms => simp [concealed, LacksIdentifier, find_change]
  | _ => rfl

theorem Login.check_concealed (v : Json) :
    Login.check v.concealed = (Login.check v).map (·.concealed) := by
  cases v with
  | object ms => exact hidesPasswords_bodyHidden.check
  | _ => rfl

theorem Login.check_rowConcealed (v : Json) :
    Login.check v.rowConcealed = (Login.check v).map (·.concealed) := by
  cases v with
  | object ms => exact hidesPasswords_hidden.check
  | _ => rfl

theorem Login.agree_concealed {v : Json} (identified : ¬ v.LacksIdentifier) :
    Json.Agree (Login.check v).findings v.concealed v := by
  cases v with
  | object ms =>
    exact hidesPasswords_bodyHidden.agree (Option.isSome_iff_ne_none.mpr identified)
  | _ => exact Json.agree_of_eq rfl

theorem Login.agree_rowConcealed {v : Json} (identified : ¬ v.LacksIdentifier) :
    Json.Agree (Login.check v).findings v.rowConcealed v := by
  cases v with
  | object ms =>
    exact hidesPasswords_hidden.agree (Option.isSome_iff_ne_none.mpr identified)
  | _ => exact Json.agree_of_eq rfl

/-! ## Pages -/

theorem checkLogins_concealed (index : Nat) (items : List Json) :
    checkLogins index (items.map Json.rowConcealed)
      = (checkLogins index items).map (List.map (·.concealed)) := by
  induction items generalizing index with
  | nil => rfl
  | cons v rest ih =>
    simp only [List.map_cons, checkLogins, Login.check_rowConcealed, Checked.under_map, ih]
    cases (Login.check v).under (.item index) <;> cases checkLogins (index + 1) rest <;> rfl

theorem loginsOf_concealed (v : Json) :
    loginsOf v.rowsConcealed = (loginsOf v).map (List.map (·.concealed)) := by
  cases v with
  | list items => exact checkLogins_concealed 0 items
  | _ => rfl

/-- All that is found against rows is found against one of them. -/
theorem mem_findings_checkLogins {index : Nat} {items : List Json} {f : Finding}
    (h : f ∈ (checkLogins index items).findings) :
    ∃ i v, items[i]? = some v
      ∧ ∃ f' ∈ (Login.check v).findings, f = f'.under (.item (index + i)) := by
  induction items generalizing index with
  | nil => simp [checkLogins, Checked.findings] at h
  | cons v rest ih =>
    have hparts : (checkLogins index (v :: rest)).findings
        = ((Login.check v).under (.item index)).findings
          ++ (checkLogins (index + 1) rest).findings := by
      simp only [checkLogins]
      cases (Login.check v).under (.item index) <;> cases checkLogins (index + 1) rest <;> rfl
    rw [hparts, Checked.findings_under] at h
    rcases List.mem_append.mp h with hfirst | hrest
    · obtain ⟨f', hf', rfl⟩ := List.mem_map.mp hfirst
      exact ⟨0, v, rfl, f', hf', rfl⟩
    · obtain ⟨i, w, hw, f', hf', rfl⟩ := ih hrest
      refine ⟨i + 1, w, hw, f', hf', ?_⟩
      rw [Nat.add_assoc, Nat.add_comm 1 i]

theorem agree_rowsConcealed {v : Json}
    (identified : ∀ items, v = .list items → ∀ row ∈ items, ¬ row.LacksIdentifier) :
    Json.Agree (loginsOf v).findings v.rowsConcealed v := by
  cases v with
  | list items =>
    intro f hf
    obtain ⟨i, row, hrow, f', hf', rfl⟩ := mem_findings_checkLogins hf
    have hagree := Login.agree_rowConcealed (identified items rfl row (List.mem_of_getElem? hrow))
    simpa [Json.rowsConcealed, Finding.under, Json.valueAt, hrow] using hagree f' hf'
  | _ => exact Json.agree_of_eq rfl

section Pages

variable {ms : Json.Members}

theorem bodyHidden_data {name : String} (h : name ∈ FieldName.data.names) :
    Json.bodyHidden name = Json.rowsConcealed := by
  funext v
  rw [Json.bodyHidden, if_pos h]

/-- The rows of a page, none if it holds no list of them. -/
def Json.rows : Json → List Json
  | .object ms =>
    match FieldName.data.find ms with
    | some (_, .list items) => items
    | _ => []
  | _ => []

theorem Json.rows_concealed (v : Json) : v.concealed.rows = v.rows.map Json.rowConcealed := by
  cases v with
  | object ms =>
    simp only [concealed, rows, find_change]
    cases found : FieldName.data.find ms with
    | none => rfl
    | some p =>
      rcases p with ⟨name, rows⟩
      rw [Option.map_some, bodyHidden_data (names_of_find found).1]
      cases rows <;> rfl
  | _ => rfl

/-- The counts of a page are kept. -/
theorem bodyHidden_count {f : FieldName} (hf : f ∈ [FieldName.total, .filtered]) {name : String}
    (h : name ∈ f.names) : Json.bodyHidden name = id := by
  have hnames : ∀ f ∈ [FieldName.total, .filtered], ∀ name ∈ f.names,
      name ∉ FieldName.data.names ∧ name ∉ FieldName.password.names := by decide
  obtain ⟨noRows, noPassword⟩ := hnames f hf name h
  funext v
  rw [Json.bodyHidden, if_neg noRows, Json.hidden, if_neg noPassword, id]

theorem LoginPage.check_concealed (v : Json) :
    LoginPage.check v.concealed = (LoginPage.check v).map (·.concealed) := by
  cases v with
  | object ms =>
    have hcount {f : FieldName} (hf : f ∈ [FieldName.total, .filtered]) :
        optional (Json.Members.change Json.bodyHidden ms) f none countOf
          = optional ms f none countOf := by
      rw [optional_change (h := id) (fun name hname v => ?_) rfl, Except.map_id, id]
      rw [bodyHidden_count hf hname, Except.map_id, id, id]
    have hdata : optional (Json.Members.change Json.bodyHidden ms) .data [] loginsOf
        = (optional ms .data [] loginsOf).map (List.map (·.concealed)) := by
      refine optional_change (fun name hname v => ?_) rfl
      rw [bodyHidden_data hname, loginsOf_concealed]
    simp only [Json.concealed, LoginPage.check, hdata, hcount (f := .total) (by simp),
      hcount (f := .filtered) (by simp)]
    cases optional ms .data [] loginsOf <;> cases optional ms .total none countOf <;>
      cases optional ms .filtered none countOf <;> rfl
  | _ => rfl

/-- All that is found against a page is found against its rows or against a count. -/
theorem LoginPage.findings_check :
    (LoginPage.check (.object ms)).findings
      = (optional ms .data [] loginsOf).findings ++ (optional ms .total none countOf).findings
        ++ (optional ms .filtered none countOf).findings := by
  simp only [LoginPage.check]
  cases optional ms .data [] loginsOf <;> cases optional ms .total none countOf <;>
    cases optional ms .filtered none countOf <;> rfl

/-- No password is concealed in what is quoted of a page whose rows have identifiers. -/
theorem LoginPage.agree_members
    (identified : ∀ row ∈ (Json.object ms).rows, ¬ row.LacksIdentifier) :
    Json.Agree (LoginPage.check (.object ms)).findings (Json.object ms).concealed (.object ms) := by
  have hcount {f : FieldName} (hf : f ∈ [FieldName.total, .filtered]) {name : String} {v : Json}
      (found : f.find ms = some (name, v)) : Json.bodyHidden name v = v := by
    rw [bodyHidden_count hf (names_of_find found).1, id]
  rw [LoginPage.findings_check]
  refine .append (.append ?_ ?_) ?_
  · refine agree_optional fun name v found => ?_
    rw [bodyHidden_data (names_of_find found).1]
    refine agree_rowsConcealed fun items hv row mem => identified row ?_
    simpa only [Json.rows, found, hv] using mem
  · exact agree_optional fun _ _ found => Json.agree_of_eq (hcount (by simp) found)
  · exact agree_optional fun _ _ found => Json.agree_of_eq (hcount (by simp) found)

theorem LoginPage.agree_concealed {v : Json}
    (identified : ∀ row ∈ v.rows, ¬ row.LacksIdentifier) :
    Json.Agree (LoginPage.check v).findings v.concealed v := by
  cases v with
  | object ms => exact agree_members identified
  | _ => exact Json.agree_of_eq rfl

end Pages

end LoginVault
