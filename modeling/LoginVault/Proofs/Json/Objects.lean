import LoginVault.Proofs.Json.Scalars

/-!
# Json.Objects — lists and objects are read part by part

A list is written from its items and an object from its members: the name of each as a text, a
colon, and a text that by itself is read as the value. The lexer reads the parts one after another,
and the parser, which works on a stack, reads each value inside as it reads it alone.

Main results: `parse?_listText`, `parse?_objectText` and `decode?_objectBody`.
-/

namespace LoginVault.Json

open Text

/-! ## Values inside lists and objects -/

/-- A parser that stands inside the lists and objects `outer`. Where it would be at the end, it has
read one more value of the innermost of them. -/
def Parser.within (outer : List Frame) (p : Parser) : Parser :=
  match p.expect with
  | .finished v => .complete outer v
  | e => ⟨p.opened ++ outer, e⟩

theorem Parser.complete_within (opened outer : List Frame) (v : Json) :
    (Parser.complete opened v).within outer = .complete (opened ++ outer) v := by
  cases opened with
  | nil => rfl
  | cons f opened => cases f <;> rfl

theorem Parser.value?_within {opened : List Frame} {t : Token} {p : Parser} (outer : List Frame)
    (h : Parser.value? opened t = some p) :
    Parser.value? (opened ++ outer) t = some (p.within outer) := by
  cases t with
  | scalar v =>
    cases h
    rw [complete_within]
    rfl
  | openList | openObject =>
    cases h
    rfl
  | closeList | closeObject | comma | colon => cases h

/-- A token does inside what it does alone. -/
theorem Parser.next?_within {p p' : Parser} {t : Token} (outer : List Frame)
    (h : p.next? t = some p') : (p.within outer).next? t = some (p'.within outer) := by
  rcases p with ⟨opened, expect⟩
  unfold Parser.next? at h
  dsimp only at h
  -- the cases stand in the order of the definition
  split at h
  · cases opened with
    | nil => cases h
    | cons f rest =>
      cases f with
      | list done =>
        cases h
        rw [complete_within]
        rfl
      | object done name => cases h
  · exact value?_within outer h
  · cases t with
    | closeList => cases h
    | scalar | openList | openObject | closeObject | comma | colon => exact value?_within outer h
  · cases h
    rw [complete_within]
    rfl
  · cases h
    rfl
  · cases h
    rfl
  · cases h
    rfl
  · cases h
    rfl
  · cases h
    rw [complete_within]
    rfl
  · cases h
    rfl
  · cases h
    rw [complete_within]
    rfl
  · cases h

theorem foldlM_within {ts : List Token} {p p' : Parser} (outer : List Frame)
    (h : ts.foldlM Parser.next? p = some p') :
    ts.foldlM Parser.next? (p.within outer) = some (p'.within outer) := by
  induction ts generalizing p with
  | nil =>
    cases h
    rfl
  | cons t rest ih =>
    rw [List.foldlM_cons] at h ⊢
    obtain ⟨mid, hmid, hlater⟩ := Option.bind_eq_some_iff.mp h
    rw [Parser.next?_within outer hmid]
    exact ih hlater

/-- The tokens of a value complete it, whatever it stands in. -/
theorem foldlM_of_ofTokens? {ts : List Token} {v : Json} (h : ofTokens? ts = some v)
    (outer : List Frame) :
    ts.foldlM Parser.next? ⟨outer, .value⟩ = some (.complete outer v) := by
  obtain ⟨p, hp, hfinished⟩ := Option.bind_eq_some_iff.mp h
  -- alone, the parser is at the end; inside, it has one more value
  have hwithin := foldlM_within outer hp
  split at hfinished
  · rename_i heq
    cases hfinished
    simpa [Parser.within, heq] using hwithin
  · cases hfinished

/-- So they do where a list may end instead. -/
theorem foldlM_valueOrClose {ts : List Token} {v : Json} (h : ofTokens? ts = some v)
    (outer : List Frame) :
    ts.foldlM Parser.next? ⟨outer, .valueOrClose⟩ = some (.complete outer v) := by
  have hvalue := foldlM_of_ofTokens? h outer
  cases ts with
  | nil => cases h
  | cons t rest =>
    cases t with
    | closeList => cases hvalue
    | scalar | openList | openObject | closeObject | comma | colon => exact hvalue

/-! ## Parts -/

/-- The tokens of a text. -/
def tokensOf (text : List Char) : List Token := (lex? text).getD []

theorem tokens_of_parse? {text : List Char} {v : Json} (h : parse? text = some v) :
    lex? text = some (tokensOf text) ∧ ofTokens? (tokensOf text) = some v := by
  obtain ⟨ts, hts, hvalue⟩ := Option.bind_eq_some_iff.mp h
  have htokens : tokensOf text = ts := by rw [tokensOf, hts, Option.getD_some]
  exact htokens ▸ ⟨hts, hvalue⟩

/-- More parts, each after a comma, and what follows them. -/
def moreText (parts : List (List Char)) (rest : List Char) : List Char :=
  parts.foldr (fun part after => ',' :: (part ++ after)) rest

/-- Parts between two marks, with commas between them. -/
def enclosed (opening closing : Char) : List (List Char) → List Char
  | [] => [opening, closing]
  | part :: parts => opening :: (part ++ moreText parts [closing])

/-- The tokens of more parts. -/
def moreTokens (parts : List (List Char)) : List Token :=
  parts.flatMap fun part => .comma :: tokensOf part

/-- The tokens of parts, with commas between them. -/
def joinedTokens : List (List Char) → List Token
  | [] => []
  | part :: parts => tokensOf part ++ moreTokens parts

/-- No number and no word goes on with a mark. -/
theorem mark_stops {c : Char} {t : Token} (mark : mark? c = some t) :
    isGap c = false ∧ c ∈ stops := by
  unfold mark? at mark
  split at mark
  case h_7 => cases mark
  all_goals exact ⟨rfl, by decide⟩

section Parts

variable {opening closing : Char} {t u : Token} {parts : List (List Char)}

theorem moreText_eq_cons (parts : List (List Char)) (closes : mark? closing = some u) :
    ∃ c rest, moreText parts [closing] = c :: rest ∧ c ∈ stops := by
  cases parts with
  | nil => exact ⟨closing, [], rfl, (mark_stops closes).2⟩
  | cons part parts => exact ⟨',', part ++ moreText parts [closing], rfl, by decide⟩

/-- What is read of a part does not depend on the parts that follow it. -/
theorem lex?_part {part : List Char} (reads : lex? part = some (tokensOf part))
    (closes : mark? closing = some u) :
    lex? (part ++ moreText parts [closing])
      = (lex? (moreText parts [closing])).map (tokensOf part ++ ·) := by
  obtain ⟨c, rest, heq, stop⟩ := moreText_eq_cons parts closes
  rw [heq, lex?_append stop rest reads]

theorem lex?_moreText (reads : ∀ part ∈ parts, lex? part = some (tokensOf part))
    (closes : mark? closing = some u) :
    lex? (moreText parts [closing]) = some (moreTokens parts ++ [u]) := by
  -- what follows a part begins with a comma or with the closing mark, and no part goes on with it
  induction parts with
  | nil =>
    show lex? [closing] = _
    rw [lex?_mark closes (mark_stops closes).1, lex?_nil]
    rfl
  | cons part parts ih =>
    have hrest := ih fun other mem => reads other (List.mem_cons_of_mem _ mem)
    show lex? (',' :: (part ++ moreText parts [closing])) = _
    rw [lex?_mark (t := .comma) rfl rfl, lex?_part (reads part List.mem_cons_self) closes, hrest]
    simp [moreTokens]

theorem lex?_enclosed (opens : mark? opening = some t) (closes : mark? closing = some u)
    (reads : ∀ part ∈ parts, lex? part = some (tokensOf part)) :
    lex? (enclosed opening closing parts) = some (t :: (joinedTokens parts ++ [u])) := by
  cases parts with
  | nil =>
    rw [enclosed, lex?_mark opens (mark_stops opens).1, lex?_mark closes (mark_stops closes).1,
      lex?_nil]
    rfl
  | cons part parts =>
    have hrest := lex?_moreText (fun other mem => reads other (List.mem_cons_of_mem _ mem)) closes
    rw [enclosed, lex?_mark opens (mark_stops opens).1,
      lex?_part (reads part List.mem_cons_self) closes, hrest]
    simp [joinedTokens]

end Parts

/-- How parts are parsed before a closing mark: `start` is the parser in front of the first of them,
`after` the one behind those whose values are known, last first, and `closed` the one behind the
mark. -/
structure Parsed {α β : Type} (text : α → List Char) (value : α → β) (parts : List α)
    (close : Token) (start : Parser) (after closed : List β → Parser) : Prop where
  empty : start.next? close = some (closed [])
  first : ∀ a ∈ parts, (tokensOf (text a)).foldlM Parser.next? start = some (after [value a])
  more : ∀ a ∈ parts, ∀ done, (Token.comma :: tokensOf (text a)).foldlM Parser.next? (after done)
    = some (after (value a :: done))
  last : ∀ done, (after done).next? close = some (closed done.reverse)

section Parsed

variable {α β : Type} {text : α → List Char} {value : α → β} {parts : List α} {close : Token}
  {start : Parser} {after closed : List β → Parser}

theorem foldlM_moreTokens (more : ∀ a ∈ parts, ∀ done,
      (Token.comma :: tokensOf (text a)).foldlM Parser.next? (after done)
        = some (after (value a :: done))) (done : List β) :
    (moreTokens (parts.map text)).foldlM Parser.next? (after done)
      = some (after ((parts.map value).reverse ++ done)) := by
  -- by induction on the parts, each of which puts its value in front of those that are done
  induction parts generalizing done with
  | nil => rfl
  | cons a parts ih =>
    have hcons : moreTokens ((a :: parts).map text)
        = (Token.comma :: tokensOf (text a)) ++ moreTokens (parts.map text) := rfl
    have hrest := ih fun b mem => more b (List.mem_cons_of_mem _ mem)
    rw [hcons, List.foldlM_append, more a List.mem_cons_self, Option.bind_eq_bind, Option.bind_some,
      hrest]
    simp

theorem Parsed.foldlM (parsed : Parsed text value parts close start after closed) :
    (joinedTokens (parts.map text) ++ [close]).foldlM Parser.next? start
      = some (closed (parts.map value)) := by
  cases parts with
  | nil =>
    show [close].foldlM Parser.next? start = _
    rw [List.foldlM_cons, parsed.empty]
    rfl
  | cons a rest =>
    have hmore : (moreTokens (rest.map text)).foldlM Parser.next? (after [value a])
        = some (after ((rest.map value).reverse ++ [value a])) :=
      foldlM_moreTokens (fun b mem => parsed.more b (List.mem_cons_of_mem _ mem)) _
    rw [List.map_cons, joinedTokens, List.append_assoc, List.foldlM_append,
      parsed.first a List.mem_cons_self, Option.bind_eq_bind, Option.bind_some, List.foldlM_append,
      hmore, Option.bind_eq_bind, Option.bind_some, List.foldlM_cons, parsed.last]
    simp

end Parsed

/-! ## Lists -/

/-- A list with these items. -/
def listText (items : List (List Char)) : List Char := enclosed '[' ']' items

section Lists

variable {α : Type} {text : α → List Char} {value : α → Json} {items : List α}
  (reads : ∀ a ∈ items, parse? (text a) = some (value a))

include reads

theorem parsed_items : Parsed text value items .closeList ⟨[.list []], .valueOrClose⟩
    (fun done => ⟨[], .afterItem done⟩) (fun values => ⟨[], .finished (.list values)⟩) where
  empty := rfl
  first a ha := foldlM_valueOrClose (tokens_of_parse? (reads a ha)).2 [.list []]
  more a ha done := foldlM_of_ofTokens? (tokens_of_parse? (reads a ha)).2 [.list done]
  last _ := rfl

/-- A list is read as it was written. -/
theorem parse?_listText :
    parse? (listText (items.map text)) = some (.list (items.map value)) := by
  have hlex : ∀ part ∈ items.map text, lex? part = some (tokensOf part) := by
    intro part mem
    obtain ⟨a, ha, rfl⟩ := List.mem_map.mp mem
    exact (tokens_of_parse? (reads a ha)).1
  have hfold : (Token.openList :: (joinedTokens (items.map text) ++ [.closeList])).foldlM
      Parser.next? ⟨[], .value⟩ = some ⟨[], .finished (.list (items.map value))⟩ :=
    (parsed_items reads).foldlM
  rw [parse?, listText, lex?_enclosed (t := .openList) (u := .closeList) rfl rfl hlex,
    Option.bind_some, ofTokens?, hfold]
  rfl

end Lists

/-! ## Members -/

/-- A member, its value given as it is written. -/
def memberText (m : String × List Char) : List Char := spellText m.1 ++ ':' :: m.2

/-- A member of an object: its name, and a text that is read as its value. -/
structure Member where
  name : String
  text : List Char
  value : Json
  reads : parse? text = some value

namespace Member

/-- The member as it is written. -/
def written (m : Member) : String × List Char := (m.name, m.text)

/-- The member as it is read. -/
def pair (m : Member) : String × Json := (m.name, m.value)

/-- A member whose value is a text. -/
def ofText (name s : String) : Member := ⟨name, spellText s, .text s, parse?_spellText s⟩

theorem lex?_written (m : Member) :
    lex? (memberText m.written) = some (.scalar (.text m.name) :: .colon :: tokensOf m.text) := by
  rw [written, memberText, lex?_spellText, lex?_mark (t := .colon) rfl rfl,
    (tokens_of_parse? m.reads).1]
  rfl

theorem tokensOf_written (m : Member) :
    tokensOf (memberText m.written) = .scalar (.text m.name) :: .colon :: tokensOf m.text := by
  rw [tokensOf, m.lex?_written, Option.getD_some]

/-- A member is read where the name of one may stand. -/
theorem foldlM_tokens (m : Member) {p : Parser} {done : List (String × Json)}
    (name : p.next? (.scalar (.text m.name)) = some ⟨p.opened, .colon done m.name⟩) :
    (tokensOf (memberText m.written)).foldlM Parser.next? p
      = some ⟨p.opened, .afterMember (m.pair :: done)⟩ := by
  rw [tokensOf_written, List.foldlM_cons, name]
  exact foldlM_of_ofTokens? (tokens_of_parse? m.reads).2 (.object done m.name :: p.opened)

end Member

/-! ## Objects -/

/-- An object with these members. -/
def objectText (ms : List (String × List Char)) : List Char := enclosed '{' '}' (ms.map memberText)

theorem parsed_members (ms : List Member) :
    Parsed (memberText ·.written) (·.pair) ms .closeObject ⟨[], .nameOrClose⟩
      (fun done => ⟨[], .afterMember done⟩)
      (fun pairs => ⟨[], .finished (.object (Members.ofPairs pairs))⟩) where
  empty := rfl
  first m _ := m.foldlM_tokens rfl
  more m _ done := by
    have hcomma : Parser.next? ⟨[], .afterMember done⟩ .comma = some ⟨[], .name done⟩ := rfl
    rw [List.foldlM_cons, hcomma]
    exact m.foldlM_tokens rfl
  last _ := rfl

/-- An object is read as it was written. -/
theorem parse?_objectText (ms : List Member) :
    parse? (objectText (ms.map (·.written)))
      = some (.object (Members.ofPairs (ms.map (·.pair)))) := by
  have hlex : ∀ part ∈ ms.map (memberText ·.written), lex? part = some (tokensOf part) := by
    intro part mem
    obtain ⟨m, -, rfl⟩ := List.mem_map.mp mem
    rw [m.tokensOf_written, m.lex?_written]
  have hfold : (Token.openObject :: (joinedTokens (ms.map (memberText ·.written))
      ++ [.closeObject])).foldlM Parser.next? ⟨[], .value⟩
        = some ⟨[], .finished (.object (Members.ofPairs (ms.map (·.pair))))⟩ :=
    (parsed_members ms).foldlM
  have hparts : (ms.map (·.written)).map memberText = ms.map (memberText ·.written) := by
    rw [List.map_map]
    rfl
  rw [parse?, objectText, hparts, lex?_enclosed (t := .openObject) (u := .closeObject) rfl rfl hlex,
    Option.bind_some, ofTokens?, hfold]
  rfl

/-- The octets of an object. -/
def objectBody (ms : List (String × List Char)) : List UInt8 :=
  (objectText ms).flatMap String.utf8EncodeChar

/-- An object begins with two ASCII characters, neither of them zero. -/
theorem detect_objectBody (ms : List (String × List Char)) :
    Encoding.detect (objectBody ms) = .utf8 false := by
  cases ms with
  | nil => rfl
  | cons m ms => rfl

theorem decode?_eq_parse? (ms : List (String × List Char)) :
    decode? (objectBody ms) = parse? (objectText ms) := by
  rw [decode?, detect_objectBody]
  show (decodeUtf8? (objectBody ms)).bind parse? = _
  rw [objectBody, decodeUtf8?_flatMap]
  rfl

theorem decode?_objectBody (ms : List Member) :
    decode? (objectBody (ms.map (·.written)))
      = some (.object (Members.ofPairs (ms.map (·.pair)))) := by
  rw [decode?_eq_parse?, parse?_objectText]

/-- An object whose first member is an integer of too many digits is not read. -/
theorem decode?_long {n : Int} (long : ¬ Number.Short n) (name : String)
    (ms : List (String × List Char)) :
    decode? (objectBody ((name, spellInteger n) :: ms)) = none := by
  obtain ⟨c, rest, heq, stop⟩ :=
    @moreText_eq_cons '}' .closeObject (ms.map memberText) rfl
  have hlex : lex? (objectText ((name, spellInteger n) :: ms)) = none := by
    show lex? ('{' :: (memberText (name, spellInteger n) ++ moreText (ms.map memberText) ['}'])) = _
    rw [lex?_mark (t := .openObject) rfl rfl, memberText, List.append_assoc, lex?_spellText,
      List.cons_append, lex?_mark (t := .colon) rfl rfl, heq, lex?_spellInteger_long long stop]
    rfl
  rw [decode?_eq_parse?, parse?, hlex]
  rfl

end LoginVault.Json
