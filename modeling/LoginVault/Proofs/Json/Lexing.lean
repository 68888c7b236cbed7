import LoginVault.Json.Lexer
import Mathlib.Logic.Basic

/-!
# Json.Lexing — a text that is read by itself is read the same in front of others

No lexeme but a text goes on with a mark of the format or with white space, and a text ends at its
own closing quote. So the tokens of a text, read up to its end, are the first tokens of anything
that begins with it and goes on with such a character.

Main result: `lex?_append`.
-/

namespace LoginVault.Json

open Text

/-- The characters that no number and no word goes on with: the marks and the white space. -/
def stops : List Char := ['[', ']', '{', '}', ',', ':', ' ', '\t', '\n', '\r']

/-- What was read, with `t` behind the input that is left. -/
def before {α : Type} (t : List Char) (p : α × List Char) : α × List Char := (p.1, p.2 ++ t)

theorem takeWhile_append_cons {p : Char → Bool} {c : Char} (hc : p c = false)
    (s rest : List Char) : (s ++ c :: rest).takeWhile p = s.takeWhile p := by
  induction s with
  | nil => simp [hc]
  | cons x s ih => simp [List.takeWhile_cons, ih]

theorem dropWhile_append_cons {p : Char → Bool} {c : Char} (hc : p c = false)
    (s rest : List Char) : (s ++ c :: rest).dropWhile p = s.dropWhile p ++ c :: rest := by
  induction s with
  | nil => simp [hc]
  | cons x s ih =>
    simp only [List.cons_append, List.dropWhile_cons, ih]
    split <;> rfl

/-- A word that does not hold `c` begins a text before `c` or not at all. -/
theorem isPrefixOf_append_cons {word : List Char} {c : Char} (hc : c ∉ word) (s rest : List Char) :
    word.isPrefixOf (s ++ c :: rest) = word.isPrefixOf s := by
  induction word generalizing s with
  | nil => simp only [List.isPrefixOf_nil_left]
  | cons x word ih =>
    rcases not_or.mp (List.mem_cons.not.mp hc) with ⟨hx, hword⟩
    cases s with
    | nil => simp [List.isPrefixOf, Ne.symm hx]
    | cons y s => simp [List.isPrefixOf, ih hword]

theorem findSome?_congr {α β : Type} {f g : α → Option β} {xs : List α}
    (h : ∀ x ∈ xs, f x = g x) : xs.findSome? f = xs.findSome? g := by
  induction xs with
  | nil => rfl
  | cons x xs ih =>
    rcases List.forall_mem_cons.mp h with ⟨hx, hxs⟩
    rw [List.findSome?_cons, List.findSome?_cons, hx, ih hxs]

section

variable {c : Char} (stop : c ∈ stops) (rest : List Char)

include stop

/-! ## Numbers -/

theorem not_isDigit_of_stop : c.isDigit = false := by
  have hstops : stops.all (fun c => !c.isDigit) = true := rfl
  simpa using List.all_eq_true.mp hstops c stop

theorem ne_of_stop : c ≠ '-' ∧ c ≠ '+' ∧ c ≠ '.' ∧ c ≠ 'e' ∧ c ≠ 'E' ∧ c ≠ '0' := by
  have hstops : ['-', '+', '.', 'e', 'E', '0'].all (fun d => !stops.contains d) = true := rfl
  have hne : ∀ d ∈ ['-', '+', '.', 'e', 'E', '0'], c ≠ d := by
    rintro d hd rfl
    simpa [stop] using List.all_eq_true.mp hstops c hd
  simpa using hne

theorem lexDigits?_append (s : List Char) :
    lexDigits? (s ++ c :: rest) = (lexDigits? s).map (before (c :: rest)) := by
  have hdigit := not_isDigit_of_stop stop
  rw [lexDigits?, lexDigits?, takeWhile_append_cons hdigit, dropWhile_append_cons hdigit]
  split <;> rfl

theorem lexWhole?_append (s : List Char) :
    lexWhole? (s ++ c :: rest) = (lexWhole? s).map (before (c :: rest)) := by
  rcases ne_of_stop stop with ⟨-, -, -, -, -, hzero⟩
  have hdigits := lexDigits?_append stop rest s
  cases s with
  | nil => simpa [lexWhole?, hzero] using hdigits
  | cons x s =>
    by_cases hx : x = '0'
    · subst hx
      rfl
    · simpa [lexWhole?, hx] using hdigits

theorem lexFraction?_append (s : List Char) :
    lexFraction? (s ++ c :: rest) = (lexFraction? s).map (before (c :: rest)) := by
  rcases ne_of_stop stop with ⟨-, -, hpoint, -⟩
  cases s with
  | nil => simp [lexFraction?, hpoint, before]
  | cons x s =>
    by_cases hx : x = '.'
    · subst hx
      simp [lexFraction?, lexDigits?_append stop rest s, Function.comp_def, before]
    · simp [lexFraction?, hx, before]

theorem takeSign_append (s : List Char) :
    Number.takeSign (s ++ c :: rest) = before (c :: rest) (Number.takeSign s) := by
  rcases ne_of_stop stop with ⟨hminus, hplus, -⟩
  cases s with
  | nil => simp [Number.takeSign, hminus, hplus, before]
  | cons x s =>
    unfold Number.takeSign
    split <;> simp_all [before]

theorem lexPower?_append (s : List Char) :
    lexPower? (s ++ c :: rest) = (lexPower? s).map (before (c :: rest)) := by
  rcases ne_of_stop stop with ⟨-, -, -, he, hE, -⟩
  cases s with
  | nil => simp [lexPower?, he, hE, before]
  | cons x s =>
    rw [List.cons_append, lexPower?, lexPower?]
    split
    · simp only [takeSign_append stop rest s, before, lexDigits?_append stop rest, bind]
      cases lexDigits? (Number.takeSign s).2 with
      | none => rfl
      | some p =>
        simp only [Option.map_some, Option.bind_some, before]
        cases Number.plainDigits? p.1 <;> rfl
    · rfl

theorem takeMinus_append (s : List Char) :
    takeMinus (s ++ c :: rest) = before (c :: rest) (takeMinus s) := by
  rcases ne_of_stop stop with ⟨hminus, -⟩
  cases s with
  | nil => simp [takeMinus, hminus, before]
  | cons x s =>
    unfold takeMinus
    split <;> simp_all [before]

theorem lexNumber?_append (s : List Char) :
    lexNumber? (s ++ c :: rest) = (lexNumber? s).map (before (c :: rest)) := by
  simp only [lexNumber?, takeMinus_append stop rest s, before, lexWhole?_append stop rest, bind]
  -- one part after another, each of which leaves what follows alone
  cases lexWhole? (takeMinus s).2 with
  | none => rfl
  | some whole =>
    simp only [Option.map_some, Option.bind_some, before, lexFraction?_append stop rest]
    cases lexFraction? whole.2 with
    | none => rfl
    | some fraction =>
      simp only [Option.map_some, Option.bind_some, before, lexPower?_append stop rest]
      cases lexPower? fraction.2 with
      | none => rfl
      | some power =>
        simp only [Option.map_some, Option.bind_some, before]
        cases Number.plainDigits? (whole.1 ++ fraction.1.getD []) with
        | none => rfl
        | some values =>
          simp only [Option.bind_some]
          split
          · split <;> rfl
          · rfl

/-! ## Words -/

theorem not_mem_word_of_stop {p : List Char × Json} (word : p ∈ words) : c ∉ p.1 := by
  have hwords : words.all (fun p => p.1.all fun d => !stops.contains d) = true := rfl
  intro hc
  have hword := List.all_eq_true.mp (List.all_eq_true.mp hwords p word) c hc
  simp [stop] at hword

theorem lexWord?_append (s : List Char) :
    lexWord? (s ++ c :: rest) = (lexWord? s).map (before (c :: rest)) := by
  unfold lexWord?
  rw [List.map_findSome?]
  refine findSome?_congr fun p hp => ?_
  have hbegins := isPrefixOf_append_cons (not_mem_word_of_stop stop hp) s rest
  simp only [hbegins, Function.comp_apply]
  split
  · rename_i hword
    have hle := (List.isPrefixOf_iff_prefix.mp hword).length_le
    simp [before, List.drop_append_of_le_length hle]
  · rfl

end

/-! ## Texts -/

theorem escapedUnit?_append {s after : List Char} {u : Nat} (t : List Char)
    (h : escapedUnit? s = some (u, after)) : escapedUnit? (s ++ t) = some (u, after ++ t) := by
  unfold escapedUnit? at h
  split at h
  · obtain ⟨v, hv, heq⟩ := Option.map_eq_some_iff.mp h
    cases heq
    simp [escapedUnit?, hv]
  · cases h

theorem lowHalf?_append {s after : List Char} {v : Nat} (t : List Char)
    (h : lowHalf? s = some (v, after)) : lowHalf? (s ++ t) = some (v, after ++ t) := by
  obtain ⟨hunit, hlow⟩ := Option.filter_eq_some_iff.mp h
  rw [lowHalf?, escapedUnit?_append t hunit]
  exact Option.filter_eq_some_iff.mpr ⟨rfl, hlow⟩

/-- A text that begins like an escaped unit holds the whole of it. -/
theorem escapedUnit?_append_none {s : List Char} {p : List Char × List Char} (t : List Char)
    (text : lexText? s = some p) (other : escapedUnit? s = none) :
    escapedUnit? (s ++ t) = none := by
  have hunit : ∀ rest, s ≠ '\\' :: 'u' :: rest := by
    rintro rest rfl
    rw [lexText?] at text
    split at text
    · cases text
    · rename_i h
      cases other.symm.trans h
  cases s with
  | nil => simp [lexText?] at text
  | cons x s =>
    by_cases hx : x = '\\'
    · subst hx
      cases s with
      | nil => simp [lexText?] at text
      | cons y s =>
        have hy : y ≠ 'u' := by
          rintro rfl
          exact hunit s rfl
        simp [escapedUnit?, hy]
    · simp [escapedUnit?, hx]

theorem lowHalf?_append_none {s : List Char} {p : List Char × List Char} (t : List Char)
    (text : lexText? s = some p) (alone : lowHalf? s = none) :
    lowHalf? (s ++ t) = none := by
  unfold lowHalf? at alone ⊢
  cases hunit : escapedUnit? s with
  | none => rw [escapedUnit?_append_none t text hunit, Option.filter_none]
  | some q =>
    rw [escapedUnit?_append t hunit]
    rw [hunit] at alone
    exact Option.filter_eq_none_iff.mpr fun a ha => by
      cases ha
      exact Option.filter_eq_none_iff.mp alone q rfl

section

variable {rest mid : List Char} {u : Nat}

/-- The second half of a surrogate pair, if `u` is a first half and a second one follows. -/
def secondHalf? (u : Nat) (mid : List Char) : Option (Nat × List Char) :=
  if isHighSurrogate u then lowHalf? mid else none

theorem lexText?_simple {c e : Char} (escape : simpleEscape? e = some c) (other : e ≠ 'u') :
    lexText? ('\\' :: e :: rest) = (lexText? rest).map fun p => (c :: p.1, p.2) := by
  rw [lexText?]
  · rw [escape]
    cases lexText? rest <;> rfl
  · exact other

theorem lexText?_pair {mid' : List Char} {v : Nat}
    (unit : escapedUnit? ('\\' :: 'u' :: rest) = some (u, mid))
    (paired : secondHalf? u mid = some (v, mid')) :
    lexText? ('\\' :: 'u' :: rest)
      = (lexText? mid').map fun p => (charOfCode (pairCode u v) :: p.1, p.2) := by
  rw [lexText?]
  split
  · rename_i h
    cases unit.symm.trans h
  · rename_i h
    cases unit.symm.trans h
    split
    · rename_i h
      cases paired.symm.trans h
      rfl
    · rename_i h
      cases paired.symm.trans h

theorem lexText?_unit (unit : escapedUnit? ('\\' :: 'u' :: rest) = some (u, mid))
    (alone : secondHalf? u mid = none) :
    lexText? ('\\' :: 'u' :: rest) = (lexText? mid).map fun p => (charOfCode u :: p.1, p.2) := by
  rw [lexText?]
  split
  · rename_i h
    cases unit.symm.trans h
  · rename_i h
    cases unit.symm.trans h
    split
    · rename_i h
      cases alone.symm.trans h
    · rfl

end

/-- A text ends at its own closing quote, whatever follows. -/
theorem lexText?_append {s chars after : List Char} (t : List Char)
    (h : lexText? s = some (chars, after)) : lexText? (s ++ t) = some (chars, after ++ t) := by
  fun_induction lexText? s generalizing chars after with
  | case1 => cases h
  | case2 rest =>
    cases h
    rw [List.cons_append, lexText?]
  | case3 => cases h
  | case4 rest u mid unit v mid' paired ih =>
    -- a surrogate pair
    obtain ⟨p, hp, heq⟩ := Option.map_eq_some_iff.mp h
    cases heq
    have hpaired : secondHalf? u (mid ++ t) = some (v, mid' ++ t) := by
      obtain ⟨hhigh, hlow⟩ := Option.ite_none_right_eq_some.mp paired
      rw [secondHalf?, if_pos hhigh, lowHalf?_append t hlow]
    have hunit : escapedUnit? ('\\' :: 'u' :: (rest ++ t)) = some (u, mid ++ t) :=
      escapedUnit?_append t unit
    rw [List.cons_append, List.cons_append, lexText?_pair hunit hpaired, ih hp]
    rfl
  | case5 rest u mid unit alone ih =>
    -- an escaped unit that stands alone, and so it does in front of `t`
    obtain ⟨p, hp, heq⟩ := Option.map_eq_some_iff.mp h
    cases heq
    have halone : secondHalf? u (mid ++ t) = none := by
      unfold secondHalf?
      split
      · rename_i hhigh
        exact lowHalf?_append_none t hp (by simpa [hhigh] using alone)
      · rfl
    have hunit : escapedUnit? ('\\' :: 'u' :: (rest ++ t)) = some (u, mid ++ t) :=
      escapedUnit?_append t unit
    rw [List.cons_append, List.cons_append, lexText?_unit hunit halone, ih hp]
    rfl
  | case6 e rest unit ih =>
    simp only [bind, Option.bind_eq_some_iff, Option.some.injEq, Prod.mk.injEq] at h
    obtain ⟨c, hc, ⟨chars', mid⟩, hp, rfl, rfl⟩ := h
    rw [List.cons_append, List.cons_append, lexText?_simple hc unit, ih hp]
    rfl
  | case7 => cases h
  | case8 c rest quote unit escape control ih =>
    obtain ⟨p, hp, heq⟩ := Option.map_eq_some_iff.mp h
    cases heq
    -- the rest holds the closing quote, so a backslash would begin an escape
    have hplain : c ≠ '\\' := by
      rintro rfl
      cases rest with
      | nil => simp [lexText?] at hp
      | cons e rest => exact escape e rest rfl rfl
    rw [List.cons_append, lexText?]
    · simp [control, ih hp]
    · exact quote
    · exact fun _ h _ => hplain h
    · exact fun _ _ h _ => hplain h

/-! ## Tokens -/

theorem lex?_nil : lex? [] = some [] := by
  rw [lex?]

/-- A token at the front is read first. -/
theorem lex?_token {c : Char} {rest after : List Char} {t : Token} (noGap : isGap c = false)
    (token : lexToken? c rest = some (t, after)) :
    lex? (c :: rest) = (lex? after).map (t :: ·) := by
  rw [lex?]
  simp only [noGap, Bool.false_eq_true, if_false]
  split
  · rename_i h
    cases token.symm.trans h
  · rename_i t' after' h
    cases token.symm.trans h
    rfl

/-- A mark is a token of its own. -/
theorem lex?_mark {c : Char} {t : Token} (mark : mark? c = some t) (noGap : isGap c = false)
    (rest : List Char) : lex? (c :: rest) = (lex? rest).map (t :: ·) :=
  lex?_token noGap (by rw [lexToken?, mark])

theorem lexToken?_append {c x : Char} (stop : c ∈ stops) (rest : List Char) {s after : List Char}
    {t : Token} (h : lexToken? x s = some (t, after)) :
    lexToken? x (s ++ c :: rest) = some (t, after ++ c :: rest) := by
  unfold lexToken? at h ⊢
  split at h
  · rename_i mark hmark
    cases h
    rfl
  · split at h
    · rename_i hquote
      obtain ⟨p, hp, heq⟩ := Option.map_eq_some_iff.mp h
      cases heq
      simp [hquote, lexText?_append (c :: rest) hp]
    · rename_i hquote
      obtain ⟨p, hp, heq⟩ := Option.map_eq_some_iff.mp h
      cases heq
      rw [if_neg hquote, ← List.cons_append, lexWord?_append stop rest, lexNumber?_append stop rest,
        ← Option.map_or, hp]
      rfl

/-- The tokens of a text are the first tokens of what begins with it. -/
theorem lex?_append {c : Char} (stop : c ∈ stops) (rest : List Char) {s : List Char}
    {ts : List Token} (h : lex? s = some ts) :
    lex? (s ++ c :: rest) = (lex? (c :: rest)).map (ts ++ ·) := by
  fun_induction lex? s generalizing ts with
  | case1 =>
    cases h
    simp
  | case2 x s gap ih =>
    rw [List.cons_append, lex?, if_pos gap]
    exact ih h
  | case3 => cases h
  | case4 x s gap t after token ih =>
    obtain ⟨ts', hts, rfl⟩ := Option.map_eq_some_iff.mp h
    have htoken := lexToken?_append stop rest token
    have hgap : isGap x = false := by simpa using gap
    rw [List.cons_append, lex?_token hgap htoken, ih hts, Option.map_map]
    rfl

end LoginVault.Json
