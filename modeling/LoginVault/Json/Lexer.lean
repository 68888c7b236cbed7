import LoginVault.Json.Basic
import LoginVault.Number.Reading
import LoginVault.Text.Utf

/-!
# Json.Lexer — the tokens of a JSON text

White space is the space, the tab and the two line ends. Beside the numbers of the format there
are three words for those that are not finite. A text may hold no control character. Each lexeme
is taken off the front of the input and leaves less of it (`lex?` ends by that measure).
-/

namespace LoginVault.Json

open LoginVault.Text

/-- The tokens. -/
inductive Token where
  | openList
  | closeList
  | openObject
  | closeObject
  | comma
  | colon
  | scalar (v : Json)

/-- The white space between tokens. -/
def isGap (c : Char) : Bool := c == ' ' || c == '\t' || c == '\n' || c == '\r'

/-- The character that a one-letter escape stands for. -/
def simpleEscape? : Char → Option Char
  | '"' => some '"'
  | '\\' => some '\\'
  | '/' => some '/'
  | 'b' => some '\x08'
  | 'f' => some '\x0c'
  | 'n' => some '\n'
  | 'r' => some '\r'
  | 't' => some '\t'
  | _ => none

/-- The value of a hexadecimal digit. -/
def hexValue? (c : Char) : Option Nat :=
  if c.isDigit then some (c.toNat - '0'.toNat)
  else if 'a' ≤ c && c ≤ 'f' then some (c.toNat - 'a'.toNat + 10)
  else if 'A' ≤ c && c ≤ 'F' then some (c.toNat - 'A'.toNat + 10)
  else none

/-- The number that four hexadecimal digits make. -/
def hexUnit? (a b c d : Char) : Option Nat := do
  some (4096 * (← hexValue? a) + 256 * (← hexValue? b) + 16 * (← hexValue? c) + (← hexValue? d))

/-- An escaped unit at the front of the input, and what follows it. -/
def escapedUnit? : List Char → Option (Nat × List Char)
  | '\\' :: 'u' :: a :: b :: c :: d :: rest => (hexUnit? a b c d).map (·, rest)
  | _ => none

theorem escapedUnit?_length {s rest : List Char} {u : Nat}
    (h : escapedUnit? s = some (u, rest)) : rest.length < s.length := by
  unfold escapedUnit? at h
  split at h
  · simp only [Option.map_eq_some_iff, Prod.mk.injEq] at h
    obtain ⟨_, _, _, rfl⟩ := h
    simp +arith
  · cases h

/-- The unit of a surrogate pair's second half at the front of the input, if one stands there. -/
def lowHalf? (s : List Char) : Option (Nat × List Char) :=
  (escapedUnit? s).filter fun p => isLowSurrogate p.1

theorem lowHalf?_length {s rest : List Char} {v : Nat} (h : lowHalf? s = some (v, rest)) :
    rest.length < s.length :=
  escapedUnit?_length (Option.filter_eq_some_iff.mp h).1

set_option linter.unusedVariables false in
/-- Reads a text after its opening quote, up to and with its closing one. -/
def lexText? (s : List Char) : Option (List Char × List Char) :=
  match s with
  | [] => none
  | '"' :: rest => some ([], rest)
  | '\\' :: 'u' :: rest =>
    match he : escapedUnit? ('\\' :: 'u' :: rest) with
    | none => none
    | some (u, after) =>
      match hl : (if isHighSurrogate u then lowHalf? after else none) with
      | some (v, after') => (lexText? after').map fun p => (charOfCode (pairCode u v) :: p.1, p.2)
      | none => (lexText? after).map fun p => (charOfCode u :: p.1, p.2)
  | '\\' :: e :: rest => do
    let c ← simpleEscape? e
    let (chars, after) ← lexText? rest
    some (c :: chars, after)
  | c :: rest =>
    if c.toNat < 0x20 then none else (lexText? rest).map fun p => (c :: p.1, p.2)
termination_by s.length
decreasing_by
  · have h₁ := escapedUnit?_length he
    have h₂ : after'.length < after.length := by
      split at hl
      · exact lowHalf?_length hl
      · cases hl
    omega
  · exact escapedUnit?_length he
  · simp +arith
  · simp

theorem lexText?_length {s chars rest : List Char}
    (h : lexText? s = some (chars, rest)) : rest.length < s.length := by
  fun_induction lexText? s generalizing chars rest with
  | case1 => cases h
  | case2 =>
    obtain ⟨-, rfl⟩ := Prod.mk.inj (Option.some.inj h)
    exact Nat.lt_succ_self _
  | case3 => cases h
  | case4 rest' u after he v after' hl ih =>
    -- a surrogate pair
    obtain ⟨p, hp, he'⟩ := Option.map_eq_some_iff.mp h
    obtain ⟨-, rfl⟩ := Prod.mk.inj he'
    have h₁ := escapedUnit?_length he
    have h₂ := ih hp
    split at hl
    · have h₃ := lowHalf?_length hl
      omega
    · cases hl
  | case5 rest' u after he hl ih =>
    -- an escaped unit that stands alone
    obtain ⟨p, hp, he'⟩ := Option.map_eq_some_iff.mp h
    obtain ⟨-, rfl⟩ := Prod.mk.inj he'
    exact Nat.lt_trans (ih hp) (escapedUnit?_length he)
  | case6 e rest' _ ih =>
    simp only [bind, Option.bind_eq_some_iff, Option.some.injEq, Prod.mk.injEq] at h
    obtain ⟨_, -, ⟨chars', after⟩, hp, -, rfl⟩ := h
    have h₁ := ih hp
    simp only [List.length_cons]
    omega
  | case7 => cases h
  | case8 c rest' _ _ _ _ ih =>
    obtain ⟨p, hp, he'⟩ := Option.map_eq_some_iff.mp h
    obtain ⟨-, rfl⟩ := Prod.mk.inj he'
    exact Nat.lt_succ_of_lt (ih hp)

/-- Reads digits off the front of the input, at least one. -/
def lexDigits? (s : List Char) : Option (List Char × List Char) :=
  match s.takeWhile Char.isDigit with
  | [] => none
  | digits => some (digits, s.dropWhile Char.isDigit)

theorem lexDigits?_length {s digits rest : List Char}
    (h : lexDigits? s = some (digits, rest)) : rest.length < s.length := by
  unfold lexDigits? at h
  split at h
  · cases h
  · rename_i hne
    cases s with
    | nil => exact absurd rfl hne
    | cons c s =>
      have hc : c.isDigit = true := by
        by_cases hc : c.isDigit = true
        · exact hc
        · exact absurd (List.takeWhile_cons_of_neg hc) hne
      obtain ⟨-, rfl⟩ := Prod.mk.inj (Option.some.inj h)
      rw [List.dropWhile_cons_of_pos hc]
      exact Nat.lt_succ_of_le (List.dropWhile_sublist _).length_le

/-- Reads the whole part of a number: a lone zero or digits that do not start with zero. -/
def lexWhole? : List Char → Option (List Char × List Char)
  | '0' :: rest => some (['0'], rest)
  | s => lexDigits? s

theorem lexWhole?_length {s digits rest : List Char}
    (h : lexWhole? s = some (digits, rest)) : rest.length < s.length := by
  unfold lexWhole? at h
  split at h
  · obtain ⟨-, rfl⟩ := Prod.mk.inj (Option.some.inj h)
    exact Nat.lt_succ_self _
  · exact lexDigits?_length h

/-- Reads the digits after a point, none if there is no point. -/
def lexFraction? : List Char → Option (Option (List Char) × List Char)
  | '.' :: rest => (lexDigits? rest).map fun p => (some p.1, p.2)
  | s => some (none, s)

theorem lexFraction?_length {s rest : List Char} {digits : Option (List Char)}
    (h : lexFraction? s = some (digits, rest)) : rest.length ≤ s.length := by
  unfold lexFraction? at h
  split at h
  · obtain ⟨⟨d, r⟩, hd, he⟩ := Option.map_eq_some_iff.mp h
    obtain ⟨-, rfl⟩ := Prod.mk.inj he
    exact Nat.le_succ_of_le (Nat.le_of_lt (lexDigits?_length hd))
  · obtain ⟨-, rfl⟩ := Prod.mk.inj (Option.some.inj h)
    exact Nat.le_refl _

/-- Reads a power of ten, none if there is none. -/
def lexPower? (s : List Char) : Option (Option Int × List Char) :=
  match s with
  | [] => some (none, [])
  | c :: rest =>
    if c == 'e' || c == 'E' then do
      let (negative, rest) := Number.takeSign rest
      let (digits, rest) ← lexDigits? rest
      let values ← Number.plainDigits? digits
      some (some (Number.signed negative (ofDigits values)), rest)
    else some (none, s)

theorem takeSign_length (s : List Char) : (Number.takeSign s).2.length ≤ s.length := by
  unfold Number.takeSign
  split <;> simp

theorem lexPower?_length {s rest : List Char} {power : Option Int}
    (h : lexPower? s = some (power, rest)) : rest.length ≤ s.length := by
  unfold lexPower? at h
  split at h
  · obtain ⟨-, rfl⟩ := Prod.mk.inj (Option.some.inj h)
    exact Nat.le_refl _
  · rename_i c s
    split at h
    · have hs := takeSign_length s
      simp only [bind, Option.bind_eq_some_iff, Option.some.injEq, Prod.mk.injEq] at h
      obtain ⟨⟨digits, r⟩, hd, _, _, -, rfl⟩ := h
      have hr := lexDigits?_length hd
      simp only [List.length_cons]
      omega
    · obtain ⟨-, rfl⟩ := Prod.mk.inj (Option.some.inj h)
      exact Nat.le_refl _

/-- Takes a minus off the front. -/
def takeMinus : List Char → Bool × List Char
  | '-' :: rest => (true, rest)
  | s => (false, s)

theorem takeMinus_length (s : List Char) : (takeMinus s).2.length ≤ s.length := by
  unfold takeMinus
  split <;> simp

/-- Reads a finite number. An integer of too many digits is none. -/
def lexNumber? (s : List Char) : Option (Json × List Char) := do
  let (negative, rest) := takeMinus s
  let (whole, rest) ← lexWhole? rest
  let (fraction, rest) ← lexFraction? rest
  let (power, rest) ← lexPower? rest
  let shift := fraction.getD []
  let values ← Number.plainDigits? (whole ++ shift)
  match fraction, power with
  | none, none =>
    if Number.maxDigits < values.length then none
    else some (.integer (Number.signed negative (ofDigits values)), rest)
  | _, _ =>
    some (.real (Binary64.ofDecimal negative (ofDigits values) (power.getD 0 - shift.length)), rest)

theorem lexNumber?_length {s rest : List Char} {v : Json}
    (h : lexNumber? s = some (v, rest)) : rest.length < s.length := by
  simp only [lexNumber?, bind, Option.bind_eq_some_iff] at h
  obtain ⟨⟨w, r₁⟩, hw, ⟨f, r₂⟩, hf, ⟨p, r₃⟩, hp, values, -, h⟩ := h
  have h₀ := takeMinus_length s
  have h₁ : r₁.length < (takeMinus s).2.length := lexWhole?_length hw
  have h₂ : r₂.length ≤ r₁.length := lexFraction?_length hf
  have h₃ : r₃.length ≤ r₂.length := lexPower?_length hp
  have hr : rest = r₃ := by
    split at h
    · split at h
      · cases h
      · exact (Prod.mk.inj (Option.some.inj h)).2.symm
    · exact (Prod.mk.inj (Option.some.inj h)).2.symm
  subst hr
  omega

/-- The words of the format and what they stand for. -/
def words : List (List Char × Json) :=
  [("null".toList, .null), ("true".toList, .bool true), ("false".toList, .bool false),
   ("NaN".toList, .real .nan), ("Infinity".toList, .real (.infinite false)),
   ("-Infinity".toList, .real (.infinite true))]

/-- Reads a word of the format. -/
def lexWord? (s : List Char) : Option (Json × List Char) :=
  words.findSome? fun (word, value) =>
    if word.isPrefixOf s then some (value, s.drop word.length) else none

theorem length_pos_of_mem_words {p : List Char × Json} (h : p ∈ words) : 0 < p.1.length := by
  simp only [words, List.mem_cons, List.not_mem_nil, or_false] at h
  rcases h with rfl | rfl | rfl | rfl | rfl | rfl <;> decide

theorem lexWord?_length {s rest : List Char} {v : Json}
    (h : lexWord? s = some (v, rest)) : rest.length < s.length := by
  obtain ⟨⟨word, value⟩, hw, hp⟩ := List.exists_of_findSome?_eq_some h
  have hpos : 0 < word.length := length_pos_of_mem_words hw
  simp only at hp
  split at hp
  · rename_i hpre
    have hle := (List.isPrefixOf_iff_prefix.mp hpre).length_le
    obtain ⟨-, rfl⟩ := Prod.mk.inj (Option.some.inj hp)
    simp only [List.length_drop]
    omega
  · cases hp

/-- The mark of the format that `c` is. -/
def mark? : Char → Option Token
  | '[' => some .openList
  | ']' => some .closeList
  | '{' => some .openObject
  | '}' => some .closeObject
  | ',' => some .comma
  | ':' => some .colon
  | _ => none

/-- Reads one token off the front of an input that starts with `c`. -/
def lexToken? (c : Char) (rest : List Char) : Option (Token × List Char) :=
  match mark? c with
  | some t => some (t, rest)
  | none =>
    if c == '"' then (lexText? rest).map fun p => (.scalar (.text (String.ofList p.1)), p.2)
    else ((lexWord? (c :: rest)).or (lexNumber? (c :: rest))).map fun p => (.scalar p.1, p.2)

/-- A token leaves less of the input than there was. -/
theorem lexToken?_length {c : Char} {rest after : List Char} {t : Token}
    (h : lexToken? c rest = some (t, after)) : after.length < (c :: rest).length := by
  unfold lexToken? at h
  split at h
  · obtain ⟨-, rfl⟩ := Prod.mk.inj (Option.some.inj h)
    exact Nat.lt_succ_self _
  · split at h
    · obtain ⟨p, hp, he⟩ := Option.map_eq_some_iff.mp h
      obtain ⟨-, rfl⟩ := Prod.mk.inj he
      exact Nat.lt_succ_of_lt (lexText?_length hp)
    · obtain ⟨p, hp, he⟩ := Option.map_eq_some_iff.mp h
      obtain ⟨-, rfl⟩ := Prod.mk.inj he
      rcases Option.or_eq_some_iff.mp hp with hw | ⟨-, hn⟩
      · exact lexWord?_length hw
      · exact lexNumber?_length hn

/-- The tokens of `s`. -/
def lex? (s : List Char) : Option (List Token) :=
  match s with
  | [] => some []
  | c :: rest =>
    if isGap c then lex? rest
    else match _h : lexToken? c rest with
      | none => none
      | some (t, after) => (lex? after).map (t :: ·)
termination_by s.length
decreasing_by
  · exact Nat.lt_succ_self _
  · exact lexToken?_length _h

end LoginVault.Json
