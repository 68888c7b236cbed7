import LoginVault.Proofs.Json.Lexing
import LoginVault.Proofs.Paging.Counts
import LoginVault.Proofs.Text.Utf8
import Mathlib.Data.List.TakeWhile
import Mathlib.Tactic.IntervalCases

/-!
# Json.Scalars — texts and integers are read as they were written

A text is written between quotes, with escapes for the characters that it cannot hold, and an
integer with its decimal digits. Every text is read back, and so is every integer of few enough
digits. Nothing is read that begins with a longer one.

Main results: `parse?_spellText`, `parse?_spellInteger` and `lex?_spellInteger_long`.
-/

namespace LoginVault.Json

open Text

/-! ## Texts -/

/-- A character inside a text: quotes, backslashes and control characters are escaped. -/
def spellChar (c : Char) : List Char :=
  if c = '"' ∨ c = '\\' then ['\\', c]
  else if c.toNat < 0x20 then
    ['\\', 'u', '0', '0', Nat.digitChar (c.toNat / 16), Nat.digitChar (c.toNat % 16)]
  else [c]

/-- A text with its quotes. -/
def spellText (s : String) : List Char := '"' :: (s.toList.flatMap spellChar ++ ['"'])

theorem hexValue?_digitChar {d : Nat} (h : d < 16) : hexValue? (Nat.digitChar d) = some d := by
  interval_cases d <;> rfl

theorem escapedUnit?_control {n : Nat} (h : n < 0x20) (rest : List Char) :
    escapedUnit? ('\\' :: 'u' :: '0' :: '0' :: Nat.digitChar (n / 16) :: Nat.digitChar (n % 16)
      :: rest) = some (n, rest) := by
  have hhigh : hexValue? (Nat.digitChar (n / 16)) = some (n / 16) := hexValue?_digitChar (by omega)
  have hlow : hexValue? (Nat.digitChar (n % 16)) = some (n % 16) := hexValue?_digitChar (by omega)
  have hzero : hexValue? '0' = some 0 := rfl
  have hunit : 16 * (n / 16) + n % 16 = n := by omega
  simp [escapedUnit?, hexUnit?, hhigh, hlow, hzero, hunit]

/-- A character is read from what it is written as. -/
theorem lexText?_spellChar (c : Char) (rest : List Char) :
    lexText? (spellChar c ++ rest) = (lexText? rest).map fun p => (c :: p.1, p.2) := by
  unfold spellChar
  split
  · rename_i hescaped
    rcases hescaped with rfl | rfl
    · exact lexText?_simple rfl (by decide)
    · exact lexText?_simple rfl (by decide)
  · rename_i hplain
    rcases not_or.mp hplain with ⟨hquote, hescape⟩
    split
    · -- a control character is a unit that is no half of a pair
      rename_i hcontrol
      have halone : secondHalf? c.toNat rest = none := by
        have hhigh : isHighSurrogate c.toNat = false := by
          simp [isHighSurrogate]
          omega
        simp [secondHalf?, hhigh]
      exact (lexText?_unit (escapedUnit?_control hcontrol rest) halone).trans
        (by rw [charOfCode_toNat])
    · -- any other character stands for itself
      rename_i hprinted
      rw [List.singleton_append, lexText?]
      · simp [hprinted]
      · exact hquote
      · exact fun _ h _ => hescape h
      · exact fun _ _ h _ => hescape h

theorem lexText?_spellChars (s rest : List Char) :
    lexText? (s.flatMap spellChar ++ '"' :: rest) = some (s, rest) := by
  induction s with
  | nil => rw [List.flatMap_nil, List.nil_append, lexText?]
  | cons c s ih =>
    rw [List.flatMap_cons, List.append_assoc, lexText?_spellChar, ih, Option.map_some]

theorem lex?_spellText (s : String) (rest : List Char) :
    lex? (spellText s ++ rest) = (lex? rest).map (.scalar (.text s) :: ·) := by
  have htext := lexText?_spellChars s.toList rest
  have hspell : spellText s ++ rest = '"' :: (s.toList.flatMap spellChar ++ '"' :: rest) := by
    simp [spellText]
  rw [hspell]
  refine lex?_token rfl ?_
  simp [lexToken?, mark?, htext]

theorem parse?_spellText (s : String) : parse? (spellText s) = some (.text s) := by
  have hlex := lex?_spellText s []
  rw [List.append_nil, lex?_nil] at hlex
  rw [parse?, hlex]
  rfl

/-! ## Digits -/

/-- The decimal digits of a number. -/
def decimal (n : Nat) : List Char := (Nat.digits 10 n).reverse.map Nat.digitChar

/-- What there is to know of the digit `c` with the value `d`. -/
structure DigitOf (d : Nat) (c : Char) : Prop where
  isDigit : c.isDigit = true
  value : asciiDigitValue? c = some d
  zero : c = '0' ↔ d = 0
  noGap : isGap c = false
  noMark : mark? c = none
  noQuote : c ≠ '"'
  noMinus : c ≠ '-'
  noWord : ∀ rest, lexWord? (c :: rest) = none

theorem digitOf {d : Nat} (h : d < 10) : DigitOf d (Nat.digitChar d) := by
  interval_cases d <;>
    exact ⟨rfl, rfl, by decide, rfl, rfl, by decide, by decide, fun _ => rfl⟩

theorem lt_of_mem_digits {n : Nat} {d : Nat} (h : d ∈ (Nat.digits 10 n).reverse) : d < 10 :=
  Nat.digits_lt_base (by decide) (List.mem_reverse.mp h)

theorem ofDigits_digits (n : Nat) : ofDigits (Nat.digits 10 n).reverse = n := by
  rw [ofDigits_eq, List.reverse_reverse, Nat.ofDigits_digits]

/-- The first digit of a positive number is not zero. -/
theorem decimal_eq_cons {n : Nat} (pos : 0 < n) :
    ∃ d rest, decimal n = Nat.digitChar d :: rest ∧ d < 10 ∧ d ≠ 0 := by
  have hne : Nat.digits 10 n ≠ [] := Nat.digits_ne_nil_iff_ne_zero.mpr (Nat.ne_of_gt pos)
  obtain ⟨init, last, hdigits⟩ : ∃ init last, Nat.digits 10 n = init ++ [last] :=
    ⟨_, _, (List.dropLast_append_getLast hne).symm⟩
  have hlast : last ≠ 0 := by simpa [hdigits] using Nat.getLast_digit_ne_zero 10 (Nat.ne_of_gt pos)
  have hlt : last < 10 := Nat.digits_lt_base (by decide) (by rw [hdigits]; simp)
  exact ⟨last, init.reverse.map Nat.digitChar, by simp [decimal, hdigits], hlt, hlast⟩

theorem plainDigits?_decimal {n : Nat} (pos : 0 < n) :
    Number.plainDigits? (decimal n) = some (Nat.digits 10 n).reverse := by
  have hvalues (ds : List Nat) (h : ∀ d ∈ ds, d < 10) :
      (ds.map Nat.digitChar).mapM asciiDigitValue? = some ds := by
    induction ds with
    | nil => rfl
    | cons d rest ih =>
      have hd := (digitOf (h d List.mem_cons_self)).value
      have hrest := ih fun e he => h e (List.mem_cons_of_mem d he)
      simp [List.mapM_cons, hd, hrest]
  rcases decimal_eq_cons pos with ⟨d, rest, heq, -⟩
  have hne : (decimal n).isEmpty = false := by simp [heq]
  unfold Number.plainDigits?
  rw [hne]
  exact hvalues _ fun d hd => lt_of_mem_digits hd

theorem lexDigits?_decimal {n : Nat} (pos : 0 < n) :
    lexDigits? (decimal n) = some (decimal n, []) := by
  have hall : ∀ x ∈ decimal n, x.isDigit = true := by
    intro x hx
    rcases List.mem_map.mp hx with ⟨d, hd, rfl⟩
    exact (digitOf (lt_of_mem_digits hd)).isDigit
  have htake : (decimal n).takeWhile Char.isDigit = decimal n := List.takeWhile_eq_self_iff.mpr hall
  have hdrop : (decimal n).dropWhile Char.isDigit = [] := List.dropWhile_eq_nil_iff.mpr hall
  rcases decimal_eq_cons pos with ⟨d, rest, heq, -⟩
  rw [lexDigits?, htake, hdrop, heq]

/-! ## Integers -/

/-- A number without a sign. -/
def spellNatural (n : Nat) : List Char := if n = 0 then ['0'] else decimal n

/-- An integer. -/
def spellInteger (n : Int) : List Char :=
  if n < 0 then '-' :: spellNatural n.natAbs else spellNatural n.natAbs

/-- What there is to know of the digits `s` of the number `n`. -/
structure NaturalOf (n : Nat) (s : List Char) : Prop where
  begins : ∃ d rest, d < 10 ∧ s = Nat.digitChar d :: rest
  whole : lexWhole? s = some (s, [])
  values : ∃ ds, Number.plainDigits? s = some ds ∧ ofDigits ds = n
    ∧ (Number.maxDigits < ds.length ↔ ¬ n < 10 ^ Number.maxDigits)

theorem naturalOf (n : Nat) : NaturalOf n (spellNatural n) := by
  unfold spellNatural
  split
  · rename_i hzero
    subst hzero
    have hpos : 0 < 10 ^ Number.maxDigits := Nat.pow_pos (by decide)
    exact ⟨⟨0, [], by decide, rfl⟩, rfl, [0], rfl, rfl, iff_of_false (by decide) (not_not.mpr hpos)⟩
  · rename_i hne
    have hpos : 0 < n := Nat.pos_of_ne_zero hne
    obtain ⟨d, rest, heq, hlt, hd⟩ := decimal_eq_cons hpos
    refine ⟨⟨d, rest, hlt, heq⟩, ?_, ?_⟩
    · rw [← lexDigits?_decimal hpos, heq, lexWhole?]
      rintro rest' h
      exact hd ((digitOf hlt).zero.mp (List.cons.inj h).1)
    · have hlength : (Nat.digits 10 n).length ≤ Number.maxDigits ↔ n < 10 ^ Number.maxDigits :=
        Nat.digits_length_le_iff (by decide) n
      exact ⟨_, plainDigits?_decimal hpos, ofDigits_digits n, by
        rw [← hlength, List.length_reverse, Nat.not_le]⟩

/-- An integer is read unless it has too many digits. -/
theorem lexNumber?_spellInteger (n : Int) :
    lexNumber? (spellInteger n)
      = if n.natAbs < 10 ^ Number.maxDigits then some (.integer n, []) else none := by
  have hnatural := naturalOf n.natAbs
  obtain ⟨d, rest, hlt, hcons⟩ := hnatural.begins
  obtain ⟨ds, hvalues, hnumber, hlong⟩ := hnatural.values
  have hminus : takeMinus (spellInteger n) = (decide (n < 0), spellNatural n.natAbs) := by
    unfold spellInteger
    split
    · rename_i hneg
      simp [takeMinus, hneg]
    · rename_i hpos
      have hsign := (digitOf hlt).noMinus
      rw [hcons]
      simp [takeMinus, hpos, hsign]
  have hsigned : Number.signed (decide (n < 0)) (ofDigits ds) = n := by
    rw [hnumber, Number.signed]
    simp only [decide_eq_true_eq]
    split <;> omega
  have hfraction : lexFraction? [] = some (none, []) := rfl
  have hpower : lexPower? [] = some (none, []) := rfl
  simp only [lexNumber?, hminus, hnatural.whole, hfraction, hpower, bind, Option.bind_some,
    Option.getD_none, List.append_nil, hvalues, hlong, hsigned]
  split <;> simp_all

/-- What there is to know of the first character `c` of an integer and of the rest `s`. -/
structure IntegerBegins (c : Char) (s : List Char) : Prop where
  noGap : isGap c = false
  noMark : mark? c = none
  noQuote : c ≠ '"'
  noWord : lexWord? (c :: s) = none

theorem integerBegins (n : Int) : ∃ c s, spellInteger n = c :: s ∧ IntegerBegins c s := by
  obtain ⟨d, rest, hlt, hcons⟩ := (naturalOf n.natAbs).begins
  have hdigit := digitOf hlt
  unfold spellInteger
  rw [hcons]
  split
  · have hword : lexWord? ('-' :: Nat.digitChar d :: rest) = none := by
      interval_cases d <;> rfl
    exact ⟨'-', _, rfl, rfl, rfl, by decide, hword⟩
  · exact ⟨_, rest, rfl, hdigit.noGap, hdigit.noMark, hdigit.noQuote, hdigit.noWord rest⟩

theorem parse?_spellInteger {n : Int} (short : Number.Short n) :
    parse? (spellInteger n) = some (.integer n) := by
  obtain ⟨c, s, heq, begins⟩ := integerBegins n
  have hnumber := lexNumber?_spellInteger n
  have hshort : n.natAbs < 10 ^ Number.maxDigits := short
  rw [if_pos hshort, heq] at hnumber
  have htoken : lexToken? c s = some (.scalar (.integer n), []) := by
    simp [lexToken?, begins.noMark, begins.noQuote, begins.noWord, hnumber]
  rw [parse?, heq, lex?_token begins.noGap htoken, lex?_nil]
  rfl

/-- Nothing is read that begins with an integer of too many digits. -/
theorem lex?_spellInteger_long {n : Int} (long : ¬ Number.Short n) {c : Char} (stop : c ∈ stops)
    (rest : List Char) : lex? (spellInteger n ++ c :: rest) = none := by
  obtain ⟨x, s, heq, begins⟩ := integerBegins n
  have hnumber := lexNumber?_append stop rest (spellInteger n)
  have hword := lexWord?_append stop rest (x :: s)
  have hlong : ¬ n.natAbs < 10 ^ Number.maxDigits := long
  rw [lexNumber?_spellInteger, if_neg hlong, heq] at hnumber
  rw [begins.noWord] at hword
  have htoken : lexToken? x (s ++ c :: rest) = none := by
    rw [List.cons_append] at hnumber hword
    simp [lexToken?, begins.noMark, begins.noQuote, hnumber, hword]
  rw [heq, List.cons_append, lex?]
  simp only [begins.noGap, Bool.false_eq_true, if_false]
  split
  · rfl
  · rename_i h
    cases htoken.symm.trans h

end LoginVault.Json
