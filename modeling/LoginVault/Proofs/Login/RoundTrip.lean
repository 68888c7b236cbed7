import LoginVault.Agent
import LoginVault.Proofs.Json.Objects

/-!
# Login.RoundTrip — what is sent to be created comes back

A record is sent as an object with three members. A store that answers with these members and an
identifier gives the login of that record back, in whatever order the members stand and whatever
others stand beside them: the wire name of a field goes before its plain name. The values of the
members may be written by any texts that are read as these values. There are such texts for every
record and every identifier, except for an integer of too many digits; and with such an integer in
front the rest of a body is not read either (`Json.decode?_long`).

An address or a user name that is null, absent or empty is the same to the decoder.

Main result: `Client.create_roundTrip`.
-/

namespace LoginVault

open Json

/-- The names under which the fields of a login stand. -/
def wireNames : List String :=
  [FieldName.id.wire, FieldName.url.wire, FieldName.username.wire, FieldName.password.wire]

/-- The login that the record becomes under an identifier. -/
def NewLogin.withId (record : NewLogin) (id : LoginId) : Login :=
  ⟨id, record.url, record.username, record.password⟩

/-- The members that a store answers with: those that were sent, and the identifier. -/
def NewLogin.answered (record : NewLogin) (id : LoginId) : Json.Members :=
  (FieldName.id.wire, id.encode) :: record.encode

/-- An identifier that can be read: a text, or an integer of few enough digits. -/
def LoginId.Short : LoginId → Prop
  | .number n => Number.Short n
  | .name _ => True

/-! ## Members by name -/

theorem lookup_eq_some_of_forall {α : Type} {ms : Named α} {name : String} {v : α}
    (mem : (name, v) ∈ ms) (only : ∀ w, (name, w) ∈ ms → w = v) : ms.lookup name = some v := by
  induction ms with
  | nil => cases mem
  | cons m rest ih =>
    obtain ⟨n, w⟩ := m
    by_cases hn : name = n
    · subst hn
      rw [List.lookup_cons_self, only w List.mem_cons_self]
    · have hother : (name == n) = false := by simpa using hn
      have hmem : (name, v) ∈ rest := by
        rcases List.mem_cons.mp mem with heq | hrest
        · exact absurd (Prod.mk.inj heq).1 hn
        · exact hrest
      rw [List.lookup_cons, hother]
      exact ih hmem fun u hu => only u (List.mem_cons_of_mem _ hu)

/-- In an object the last value under a name counts. -/
theorem lookup_ofPairs (pairs : List (String × Json)) (name : String) :
    List.lookup name (Members.ofPairs pairs) = pairs.reverse.lookup name := by
  induction pairs using List.reverseRecOn with
  | nil => rfl
  | append_singleton pairs p ih =>
    have hput : Members.ofPairs (pairs ++ [p]) = Named.put p.1 p.2 (Members.ofPairs pairs) := by
      simp [Members.ofPairs]
    rw [hput, Named.lookup_put, ih, List.reverse_append, List.reverse_singleton,
      List.singleton_append, List.lookup_cons]
    by_cases hname : name = p.1
    · simp [hname]
    · have hother : (name == p.1) = false := by simpa using hname
      simp [hname, hother]

/-! ## The login that an object holds -/

/-- An object that holds a login under the wire names. -/
structure HoldsLogin (ms : Json.Members) (login : Login) : Prop where
  id : ms.lookup FieldName.id.wire = some login.id.encode
  url : ms.lookup FieldName.url.wire = some (.text login.url)
  username : ms.lookup FieldName.username.wire = some (.text login.username)
  password : ms.lookup FieldName.password.wire = some (.text login.password)

theorem loginIdOf_encode (id : LoginId) : loginIdOf id.encode = .ok id := by
  cases id <;> rfl

/-- The wire names are looked at first, so the plain ones do not matter. -/
theorem HoldsLogin.check {ms : Json.Members} {login : Login} (h : HoldsLogin ms login) :
    Login.check (.object ms) = .ok login := by
  have hid : required ms .id loginIdOf = .ok login.id := by
    simp [required, FieldName.find, h.id, loginIdOf_encode, Checked.under, Except.mapError]
  have hurl : optional ms .url "" textOrNull = .ok login.url := by
    simp [optional, FieldName.find, h.url, textOrNull, textOf, Checked.under, Except.mapError]
  have husername : optional ms .username "" textOrNull = .ok login.username := by
    simp [optional, FieldName.find, h.username, textOrNull, textOf, Checked.under, Except.mapError]
  have hpassword : optional ms .password "" textOf = .ok login.password := by
    simp [optional, FieldName.find, h.password, textOf, Checked.under, Except.mapError]
  rw [Login.check, hid, hurl, husername, hpassword]

theorem mem_answered_iff {record : NewLogin} {id : LoginId} {name : String} {v : Json} :
    (name, v) ∈ record.answered id ↔ name = "ID" ∧ v = id.encode
      ∨ name = "URL" ∧ v = .text record.url
      ∨ name = "Username" ∧ v = .text record.username
      ∨ name = "Password" ∧ v = .text record.password := by
  simp [NewLogin.answered, NewLogin.encode, FieldName.id, FieldName.url, FieldName.username,
    FieldName.password]

/-- The members of an answer hold its login, wherever they stand. -/
theorem holdsLogin_of_perm {record : NewLogin} {id : LoginId} {further ms : Json.Members}
    (others : ∀ m ∈ further, m.1 ∉ wireNames) (perm : ms.Perm (record.answered id ++ further)) :
    HoldsLogin ms (record.withId id) := by
  -- under a wire name there is the member of the answer and no other
  have hlookup (name : String) {v : Json} (wire : name ∈ wireNames)
      (only : ∀ w, (name, w) ∈ record.answered id ↔ w = v) : ms.lookup name = some v := by
    have hmem : (name, v) ∈ ms :=
      perm.mem_iff.mpr (List.mem_append_left _ ((only v).mpr rfl))
    refine lookup_eq_some_of_forall hmem fun w hw => ?_
    rcases List.mem_append.mp (perm.mem_iff.mp hw) with hanswered | hfurther
    · exact (only w).mp hanswered
    · exact absurd wire (others _ hfurther)
  have hid : ms.lookup "ID" = some id.encode :=
    hlookup "ID" (by decide) fun w => by simp [mem_answered_iff]
  have hurl : ms.lookup "URL" = some (.text record.url) :=
    hlookup "URL" (by decide) fun w => by simp [mem_answered_iff]
  have husername : ms.lookup "Username" = some (.text record.username) :=
    hlookup "Username" (by decide) fun w => by simp [mem_answered_iff]
  have hpassword : ms.lookup "Password" = some (.text record.password) :=
    hlookup "Password" (by decide) fun w => by simp [mem_answered_iff]
  exact ⟨hid, hurl, husername, hpassword⟩

theorem HoldsLogin.ofPairs {pairs : List (String × Json)} {login : Login}
    (h : HoldsLogin pairs.reverse login) : HoldsLogin (Members.ofPairs pairs) login :=
  ⟨(lookup_ofPairs pairs _).trans h.id, (lookup_ofPairs pairs _).trans h.url,
    (lookup_ofPairs pairs _).trans h.username, (lookup_ofPairs pairs _).trans h.password⟩

/-! ## Creating -/

/-- A response decides what is created. -/
theorem Script.create_of_response {c : Client} {s : Script} {r : Response} {rest : List Answer}
    (record : NewLogin) (answers : s.answers = .response r :: rest) :
    s.create c record = (r.created.mapError fun f => .store (.protocol f),
      ⟨rest, s.sent ++ [c.request (.create record)]⟩) := by
  simp [Script.create, Script.send, answers, Answer.result]

/-- The login that the response holds is the one that is created. -/
theorem Script.create_of_holdsLogin {c : Client} {s : Script} {r : Response} {rest : List Answer}
    {ms : Json.Members} {login : Login} (record : NewLogin)
    (answers : s.answers = .response r :: rest) (success : r.isSuccess = true)
    (body : Json.decode? r.body = some (.object ms)) (holds : HoldsLogin ms login) :
    s.create c record = (.ok login, ⟨rest, s.sent ++ [c.request (.create record)]⟩) := by
  have hvalue : r.value = .ok (.object ms) := by
    rw [Response.value, if_pos success, body]
  have hcreated : r.created = .ok login := by
    rw [Response.created, hvalue]
    show (Login.decode (.object ms)).mapError (ProtocolFault.malformed .created) = _
    rw [Login.decode, holds.check]
    rfl
  rw [Script.create_of_response record answers, hcreated]
  rfl

/-- A response whose body is not read creates nothing. -/
theorem Script.create_of_unread {c : Client} {s : Script} {r : Response} {rest : List Answer}
    (record : NewLogin) (answers : s.answers = .response r :: rest) (success : r.isSuccess = true)
    (body : Json.decode? r.body = none) :
    s.create c record = (.error (.store (.protocol (.notJson r.status))),
      ⟨rest, s.sent ++ [c.request (.create record)]⟩) := by
  have hvalue : r.value = .error (.notJson r.status) := by
    rw [Response.value, if_pos success, body]
  have hcreated : r.created = .error (.notJson r.status) := by
    rw [Response.created, hvalue]
    rfl
  rw [Script.create_of_response record answers, hcreated]
  rfl

theorem not_short_pow {k : Nat} (long : Number.maxDigits ≤ k) : ¬ Number.Short (10 ^ k) := by
  have habs : ((10 : Int) ^ k).natAbs = 10 ^ k := Int.natAbs_pow 10 k
  rw [Number.Short, habs]
  exact Nat.not_lt.mpr (Nat.pow_le_pow_right (by decide) long)

theorem short_of_encode {id : LoginId} (h : id.encode.Short) : id.Short := by
  cases id with
  | number n =>
    cases h with
    | integer few => exact few
  | name s => trivial

/-- The answer to a record can be written if and only if its identifier can be read. -/
theorem exists_answer_iff (record : NewLogin) (id : LoginId) :
    (∃ ms : List Member, ms.map (·.pair) = record.answered id) ↔ id.Short := by
  constructor
  · -- no text is read as an integer of too many digits
    rintro ⟨ms, heq⟩
    have hmem : (FieldName.id.wire, id.encode) ∈ ms.map (·.pair) := heq ▸ List.mem_cons_self
    obtain ⟨m, -, hpair⟩ := List.mem_map.mp hmem
    have hvalue : m.value = id.encode := congrArg Prod.snd hpair
    exact short_of_encode (hvalue ▸ parse?_short m.reads)
  · intro short
    obtain ⟨text, hid⟩ : ∃ text, parse? text = some id.encode := by
      cases id with
      | number n => exact ⟨_, parse?_spellInteger short⟩
      | name s => exact ⟨_, parse?_spellText s⟩
    exact ⟨[⟨FieldName.id.wire, text, id.encode, hid⟩, .ofText FieldName.url.wire record.url,
      .ofText FieldName.username.wire record.username,
      .ofText FieldName.password.wire record.password], rfl⟩

/-! ## Addresses and user names that tell nothing -/

/-- A member that is absent, null or the empty text. -/
def TellsNothing (v : Option Json) : Prop := v = none ∨ v = some .null ∨ v = some (.text "")

/-- Two objects with the same members, except that each may leave an address or a user name that
tells nothing unsaid in its own way. -/
structure SameButBlanks (ms ms' : Json.Members) : Prop where
  others : ∀ name, name ≠ FieldName.url.wire → name ≠ FieldName.username.wire →
    ms.lookup name = ms'.lookup name
  url : ms.lookup FieldName.url.wire = ms'.lookup FieldName.url.wire
    ∨ TellsNothing (ms.lookup FieldName.url.wire) ∧ TellsNothing (ms'.lookup FieldName.url.wire)
  username : ms.lookup FieldName.username.wire = ms'.lookup FieldName.username.wire
    ∨ TellsNothing (ms.lookup FieldName.username.wire)
      ∧ TellsNothing (ms'.lookup FieldName.username.wire)

section

variable {f : FieldName} {ms ms' : Json.Members}

theorem find_congr (wire : ms.lookup f.wire = ms'.lookup f.wire)
    (plain : ms.lookup f.plain = ms'.lookup f.plain) : f.find ms = f.find ms' := by
  rw [FieldName.find, FieldName.find, wire, plain]

theorem optional_of_tellsNothing (plain : ms.lookup f.plain = none)
    (blank : TellsNothing (ms.lookup f.wire)) : optional ms f "" textOrNull = .ok "" := by
  rcases blank with hwire | hwire | hwire
  · simp [optional, FieldName.find, hwire, plain]
  · simp [optional, FieldName.find, hwire, textOrNull, Checked.under, Except.mapError]
  · simp [optional, FieldName.find, hwire, textOrNull, textOf, Checked.under, Except.mapError]

/-- A text that may be null is the same in both objects. -/
theorem optional_congr (plain : ms.lookup f.plain = none) (plain' : ms'.lookup f.plain = none)
    (wire : ms.lookup f.wire = ms'.lookup f.wire
      ∨ TellsNothing (ms.lookup f.wire) ∧ TellsNothing (ms'.lookup f.wire)) :
    optional ms f "" textOrNull = optional ms' f "" textOrNull := by
  rcases wire with hsame | ⟨hblank, hblank'⟩
  · rw [optional, optional, find_congr hsame (plain.trans plain'.symm)]
  · rw [optional_of_tellsNothing plain hblank, optional_of_tellsNothing plain' hblank']

end

theorem check_congr {ms ms' : Json.Members} (same : SameButBlanks ms ms')
    (url : ms.lookup FieldName.url.plain = none)
    (username : ms.lookup FieldName.username.plain = none) :
    Login.check (.object ms) = Login.check (.object ms') := by
  have hother {name : String} (hurl : name ≠ "URL") (husername : name ≠ "Username") :
      ms.lookup name = ms'.lookup name := same.others name hurl husername
  -- the identifier and the password are read from members that are the same
  have hid : required ms .id loginIdOf = required ms' .id loginIdOf := by
    rw [required, required, find_congr (hother (by decide) (by decide))
      (hother (by decide) (by decide))]
  have hpassword : optional ms .password "" textOf = optional ms' .password "" textOf := by
    rw [optional, optional, find_congr (hother (by decide) (by decide))
      (hother (by decide) (by decide))]
  -- without a plain name to fall back on, a blank is read as the empty text
  have hurl : optional ms .url "" textOrNull = optional ms' .url "" textOrNull :=
    optional_congr url ((hother (by decide) (by decide)).symm.trans url) same.url
  have husername : optional ms .username "" textOrNull = optional ms' .username "" textOrNull :=
    optional_congr username ((hother (by decide) (by decide)).symm.trans username) same.username
  rw [Login.check, Login.check, hid, hurl, husername, hpassword]

/-! ## The round trip -/

/-- Creating a record and reading the answer are inverse to each other. -/
structure CreateRoundTrip (c : Client) : Prop where
  /-- If a response of success holds an object that is made of the members of the record, an
  identifier and others under other names, in any order, the login that is created has that
  identifier, and the address, the user name and the password of the record. -/
  returned : ∀ (record : NewLogin) (id : LoginId) (further ms : Json.Members) (s : Script)
    (r : Response) (rest : List Answer), (∀ m ∈ further, m.1 ∉ wireNames) →
    s.answers = .response r :: rest → r.isSuccess = true →
    Json.decode? r.body = some (.object ms) → ms.Perm (record.answered id ++ further) →
    s.create c record
      = (.ok (record.withId id), ⟨rest, s.sent ++ [c.request (.create record)]⟩)
  /-- So it is with every body that writes such members, each by any text that is read as its
  value. -/
  written : ∀ (record : NewLogin) (id : LoginId) (further : Json.Members) (ms : List Json.Member)
    (s : Script) (status : Nat) (rest : List Answer), (∀ m ∈ further, m.1 ∉ wireNames) →
    (ms.map (·.pair)).Perm (record.answered id ++ further) → 200 ≤ status → status < 300 →
    s.answers = .response ⟨status, objectBody (ms.map (·.written))⟩ :: rest →
    s.create c record
      = (.ok (record.withId id), ⟨rest, s.sent ++ [c.request (.create record)]⟩)
  /-- Such texts there are for every record and every identifier but an integer of too many
  digits. -/
  writable : ∀ (record : NewLogin) (id : LoginId),
    (∃ ms : List Json.Member, ms.map (·.pair) = record.answered id) ↔ id.Short
  /-- An object without the plain names of the address and the user name is read alike whether
  either of the two is null, absent or empty. -/
  blanks : ∀ ms ms' : Json.Members, SameButBlanks ms ms' →
    ms.lookup FieldName.url.plain = none → ms.lookup FieldName.username.plain = none →
    Login.check (.object ms) = Login.check (.object ms')

namespace Client

theorem create_roundTrip (c : Client) : CreateRoundTrip c := by
  constructor
  · intro record id further ms s r rest others answers success body perm
    exact Script.create_of_holdsLogin record answers success body (holdsLogin_of_perm others perm)
  · intro record id further ms s status rest others perm low high answers
    have hsuccess : Response.isSuccess ⟨status, objectBody (ms.map (·.written))⟩ = true := by
      simp [Response.isSuccess, low, high]
    -- only other names can come twice, so it does not matter that the last value counts
    have hholds : HoldsLogin (ms.map (·.pair)).reverse (record.withId id) :=
      holdsLogin_of_perm others ((List.reverse_perm _).trans perm)
    exact Script.create_of_holdsLogin record answers hsuccess (decode?_objectBody ms) hholds.ofPairs
  · exact exists_answer_iff
  · exact fun ms ms' same url username => check_congr same url username

/-- An answer in the opposite order, with values under the plain names that tell otherwise. -/
theorem create_roundTrip_met :
    let client : Client := ⟨⟨"http://localhost:3625", .whole 30, 100, by decide⟩, ""⟩
    let record : NewLogin := ⟨"", "a \"b\"", "π"⟩
    let ms : List Json.Member := [.ofText "password" "p", .ofText "url" "u", .ofText "Password" "π",
      .ofText "Username" "a \"b\"", .ofText "URL" "", .ofText "ID" "7"]
    let s : Script := .ofAnswers [.response ⟨201, objectBody (ms.map (·.written))⟩]
    s.create client record
      = (.ok ⟨.name "7", "", "a \"b\"", "π"⟩, ⟨[], [client.request (.create record)]⟩) := by
  intro client record ms s
  let further : Json.Members := [("url", .text "u"), ("password", .text "p")]
  have hmembers : ms.map (·.pair) = (record.answered (.name "7") ++ further).reverse := rfl
  have hothers : ∀ m ∈ further, m.1 ∉ wireNames := by
    simp [further, wireNames, FieldName.id, FieldName.url, FieldName.username, FieldName.password]
  exact (create_roundTrip client).written record (.name "7") further ms s 201 [] hothers
    (hmembers ▸ List.reverse_perm _) (by decide) (by decide) rfl

/-- An integer of 4301 digits is enough for the answer not to be read, though it stands under a name
that no field has. -/
theorem create_long_integer :
    let client : Client := ⟨⟨"http://localhost:3625", .whole 30, 100, by decide⟩, ""⟩
    let record : NewLogin := ⟨"u", "n", "p"⟩
    let body := objectBody [("x", spellInteger (10 ^ 4300)), ("ID", spellInteger 1),
      ("URL", spellText "u"), ("Username", spellText "n"), ("Password", spellText "p")]
    (Script.ofAnswers [.response ⟨200, body⟩]).create client record
      = (.error (.store (.protocol (.notJson 200))), ⟨[], [client.request (.create record)]⟩) := by
  intro client record body
  have hlong : ¬ Number.Short (10 ^ 4300) := by
    apply not_short_pow
    exact Nat.le_refl Number.maxDigits
  have hbody : Json.decode? body = none := decode?_long hlong "x" _
  exact Script.create_of_unread (r := ⟨200, body⟩) record rfl rfl hbody

end Client

end LoginVault
