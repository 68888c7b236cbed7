import LoginVault.Client
import Mathlib.Data.Nat.Digits.Lemmas

/-!
# Paging.Counts — the counts that a page can tell

An integer of more than `Number.maxDigits` digits is not read, wherever it stands in a body and
however it is written. So no page tells a count of more digits (`Response.page_filtered_short`),
and a store with more rows than that answers no request.
-/

namespace LoginVault

open Text Json

/-! ## Numbers -/

theorem ofDigits_eq (ds : List Nat) : ofDigits ds = Nat.ofDigits 10 ds.reverse := by
  rw [Nat.ofDigits_eq_foldr, List.foldr_reverse]
  have hswap : (fun n d : Nat => 10 * n + d) = fun n d => d + 10 * n := by
    funext n d
    omega
  exact congrArg (fun f : Nat → Nat → Nat => ds.foldl f 0) hswap

theorem asciiDigitValue?_lt {c : Char} {d : Nat} (h : asciiDigitValue? c = some d) : d < 10 := by
  unfold asciiDigitValue? at h
  split at h
  · rename_i hdigit
    have hle : c.toNat ≤ '9'.toNat := of_decide_eq_true (Bool.and_eq_true_iff.mp hdigit).2
    have hnine : '9'.toNat = '0'.toNat + 9 := rfl
    cases h
    omega
  · cases h

theorem plainDigits?_lt {s : List Char} {ds : List Nat} (h : Number.plainDigits? s = some ds) :
    ∀ d ∈ ds, d < 10 := by
  rcases Option.ite_none_left_eq_some.mp h with ⟨-, hvalues⟩
  clear h
  induction s generalizing ds with
  | nil =>
    cases hvalues
    simp
  | cons c s ih =>
    simp only [List.mapM_cons, bind, Option.bind_eq_some_iff, pure, Option.some.injEq] at hvalues
    obtain ⟨d, hd, rest, hrest, rfl⟩ := hvalues
    exact List.forall_mem_cons.mpr ⟨asciiDigitValue?_lt hd, ih hrest⟩

/-- An integer of few enough digits to be read. -/
def Number.Short (n : Int) : Prop := n.natAbs < 10 ^ Number.maxDigits

theorem short_signed (negative : Bool) {s : List Char} {ds : List Nat}
    (digits : Number.plainDigits? s = some ds) (short : ¬ Number.maxDigits < ds.length) :
    Number.Short (Number.signed negative (ofDigits ds)) := by
  have hdigits : ∀ d ∈ ds.reverse, d < 10 := fun d hd =>
    plainDigits?_lt digits d (List.mem_reverse.mp hd)
  have hlt : ofDigits ds < 10 ^ ds.length := by
    rw [ofDigits_eq, ← List.length_reverse]
    exact Nat.ofDigits_lt_base_pow_length (by decide) hdigits
  have habs : (Number.signed negative (ofDigits ds)).natAbs = ofDigits ds := by
    cases negative <;> simp [Number.signed]
  rw [Number.Short, habs]
  exact Nat.lt_of_lt_of_le hlt (Nat.pow_le_pow_right (by decide) (Nat.not_lt.mp short))

theorem short_of_lt {n : Int} (lower : -integerBound < n) (upper : n < integerBound) :
    Number.Short n := by
  have hbound : integerBound = 2 ^ 63 := rfl
  have hlt : 2 ^ 63 < 10 ^ Number.maxDigits :=
    calc 2 ^ 63 < 10 ^ 63 := Nat.pow_lt_pow_left (by decide) (by decide)
      _ ≤ 10 ^ Number.maxDigits := Nat.pow_le_pow_right (by decide) (by decide)
  rw [hbound] at lower upper
  rw [Number.Short]
  omega

/-! ## Values -/

namespace Json

/-- All integers in a value have few enough digits to be read. -/
inductive Short : Json → Prop
  | null : Short .null
  | bool {b : Bool} : Short (.bool b)
  | integer {n : Int} (few : Number.Short n) : Short (.integer n)
  | real {x : Binary64} : Short (.real x)
  | text {s : String} : Short (.text s)
  | list {items : List Json} (all : ∀ v ∈ items, Short v) : Short (.list items)
  | object {ms : List (String × Json)} (all : ∀ m ∈ ms, Short m.2) : Short (.object ms)

theorem short_of_mem_words {p : List Char × Json} (h : p ∈ words) : p.2.Short := by
  simp only [words, List.mem_cons, List.not_mem_nil, or_false] at h
  rcases h with rfl | rfl | rfl | rfl | rfl | rfl
  · exact .null
  · exact .bool
  · exact .bool
  · exact .real
  · exact .real
  · exact .real

theorem lexWord?_short {s rest : List Char} {v : Json} (h : lexWord? s = some (v, rest)) :
    v.Short := by
  obtain ⟨⟨word, value⟩, hmem, hword⟩ := List.exists_of_findSome?_eq_some h
  simp only at hword
  split at hword
  · cases hword
    exact short_of_mem_words hmem
  · cases hword

theorem lexNumber?_short {s rest : List Char} {v : Json} (h : lexNumber? s = some (v, rest)) :
    v.Short := by
  simp only [lexNumber?, bind, Option.bind_eq_some_iff] at h
  obtain ⟨_, _, _, _, _, _, values, hvalues, h⟩ := h
  split at h
  · split at h
    · cases h
    · rename_i short
      cases h
      exact .integer (short_signed _ hvalues short)
  · cases h
    exact .real

/-- If the token is a value, its integers have few enough digits. -/
def Token.Short : Token → Prop
  | .scalar v => v.Short
  | _ => True

theorem lexToken?_short {c : Char} {rest after : List Char} {t : Token}
    (h : lexToken? c rest = some (t, after)) : t.Short := by
  unfold lexToken? at h
  split at h
  · rename_i mark hmark
    cases h
    unfold mark? at hmark
    split at hmark <;> cases hmark <;> trivial
  · split at h
    · obtain ⟨p, -, heq⟩ := Option.map_eq_some_iff.mp h
      cases heq
      exact .text
    · obtain ⟨p, hp, heq⟩ := Option.map_eq_some_iff.mp h
      cases heq
      rcases Option.or_eq_some_iff.mp hp with hword | ⟨-, hnumber⟩
      · exact lexWord?_short hword
      · exact lexNumber?_short hnumber

theorem lex?_short {s : List Char} {ts : List Token} (h : lex? s = some ts) :
    ∀ t ∈ ts, t.Short := by
  fun_induction lex? s generalizing ts with
  | case1 =>
    cases h
    simp
  | case2 c rest gap ih => exact ih h
  | case3 c rest gap refused => cases h
  | case4 c rest gap t after token ih =>
    obtain ⟨ts', hrest, rfl⟩ := Option.map_eq_some_iff.mp h
    exact List.forall_mem_cons.mpr ⟨lexToken?_short token, ih hrest⟩

/-! ## The parser -/

/-- The values that an open list or object has so far are short. -/
def Frame.Short : Frame → Prop
  | .list done => ∀ v ∈ done, v.Short
  | .object done _ => ∀ m ∈ done, m.2.Short

/-- So are those that are not in an open list or object yet. -/
def Expect.Short : Expect → Prop
  | .value | .valueOrClose | .nameOrClose => True
  | .name done | .colon done _ | .afterMember done => ∀ m ∈ done, m.2.Short
  | .afterItem done => ∀ v ∈ done, v.Short
  | .finished v => v.Short

/-- All values that a parser keeps between two tokens are short. -/
structure Parser.Short (p : Parser) : Prop where
  opened : ∀ f ∈ p.opened, f.Short
  expect : p.expect.Short

theorem Parser.complete_short {opened : List Frame} {v : Json} (hv : v.Short)
    (hopened : ∀ f ∈ opened, f.Short) : (Parser.complete opened v).Short := by
  unfold Parser.complete
  split
  · exact ⟨hopened, hv⟩
  · rcases List.forall_mem_cons.mp hopened with ⟨hdone, hrest⟩
    exact ⟨hrest, List.forall_mem_cons.mpr ⟨hv, hdone⟩⟩
  · rcases List.forall_mem_cons.mp hopened with ⟨hdone, hrest⟩
    exact ⟨hrest, List.forall_mem_cons.mpr ⟨hv, hdone⟩⟩

theorem Parser.value?_short {opened : List Frame} {t : Token} {p : Parser}
    (h : Parser.value? opened t = some p) (hopened : ∀ f ∈ opened, f.Short) (ht : t.Short) :
    p.Short := by
  cases t with
  | scalar v =>
    cases h
    exact complete_short ht hopened
  | openList =>
    cases h
    exact ⟨List.forall_mem_cons.mpr ⟨by simp [Frame.Short], hopened⟩, trivial⟩
  | openObject =>
    cases h
    exact ⟨hopened, trivial⟩
  | closeList | closeObject | comma | colon => cases h

theorem put_short {name : String} {v : Json} (hv : v.Short) {ms : Members}
    (hms : ∀ m ∈ ms, m.2.Short) : ∀ m ∈ Named.put name v ms, m.2.Short := by
  induction ms with
  | nil => simpa [Named.put] using hv
  | cons m rest ih => grind [Named.put]

theorem ofPairs_short {pairs : List (String × Json)} (h : ∀ m ∈ pairs, m.2.Short) :
    ∀ m ∈ Members.ofPairs pairs, m.2.Short := by
  suffices hfold : ∀ ms : Members, (∀ m ∈ ms, m.2.Short) →
      ∀ m ∈ pairs.foldl (fun ms p => Named.put p.1 p.2 ms) ms, m.2.Short from hfold [] (by simp)
  induction pairs with
  | nil => exact fun ms hms => hms
  | cons p rest ih =>
    rcases List.forall_mem_cons.mp h with ⟨hp, hrest⟩
    exact fun ms hms => ih hrest _ (put_short hp hms)

/-- A token adds its own value to what the parser keeps, or closes a list or an object of that. -/
theorem Parser.next?_short {p p' : Parser} {t : Token} (h : p.next? t = some p') (hp : p.Short)
    (ht : t.Short) : p'.Short := by
  rcases hp with ⟨hopened, hexpect⟩
  have hnow {e : Expect} (heq : p.expect = e) : e.Short := heq ▸ hexpect
  have hlist {done : List Json} (hdone : ∀ v ∈ done, v.Short) : (Json.list done.reverse).Short :=
    .list fun v hv => hdone v (List.mem_reverse.mp hv)
  have hobject {done : List (String × Json)} (hdone : ∀ m ∈ done, m.2.Short) :
      (Json.object (Members.ofPairs done.reverse)).Short :=
    .object (ofPairs_short fun m hm => hdone m (List.mem_reverse.mp hm))
  have hframe {f : Frame} (hf : f.Short) : ∀ g ∈ f :: p.opened, g.Short :=
    List.forall_mem_cons.mpr ⟨hf, hopened⟩
  unfold Parser.next? at h
  -- the cases stand in the order of the definition
  split at h
  · split at h
    · rename_i done rest hdone
      rcases List.forall_mem_cons.mp (hdone ▸ hopened) with ⟨hitems, hrest⟩
      cases h
      exact complete_short (hlist hitems) hrest
    · cases h
  · exact value?_short h hopened ht
  · exact value?_short h hopened ht
  · cases h
    exact complete_short (.object (by simp)) hopened
  · cases h
    exact ⟨hopened, by simp [Expect.Short]⟩
  · rename_i hname
    have hmembers := hnow hname
    cases h
    exact ⟨hopened, hmembers⟩
  · rename_i hcolon
    cases h
    exact ⟨hframe (hnow hcolon), trivial⟩
  · rename_i hitems
    cases h
    exact ⟨hframe (hnow hitems), trivial⟩
  · rename_i hitems
    cases h
    exact complete_short (hlist (hnow hitems)) hopened
  · rename_i hcomma
    have hmembers := hnow hcomma
    cases h
    exact ⟨hopened, hmembers⟩
  · rename_i hmembers
    cases h
    exact complete_short (hobject (hnow hmembers)) hopened
  · cases h

theorem foldlM_short {ts : List Token} {p p' : Parser} (h : ts.foldlM Parser.next? p = some p')
    (hp : p.Short) (hts : ∀ t ∈ ts, t.Short) : p'.Short := by
  induction ts generalizing p with
  | nil =>
    cases h
    exact hp
  | cons t rest ih =>
    rcases List.forall_mem_cons.mp hts with ⟨ht, hrest⟩
    rw [List.foldlM_cons] at h
    obtain ⟨mid, hmid, hlater⟩ := Option.bind_eq_some_iff.mp h
    exact ih hlater (Parser.next?_short hmid hp ht) hrest

theorem parse?_short {s : List Char} {v : Json} (h : parse? s = some v) : v.Short := by
  obtain ⟨ts, hts, hv⟩ := Option.bind_eq_some_iff.mp h
  obtain ⟨p, hp, hfinished⟩ := Option.bind_eq_some_iff.mp hv
  have hend := (foldlM_short hp ⟨by simp, trivial⟩ (lex?_short hts)).expect
  split at hfinished
  · rename_i heq
    cases hfinished
    rwa [heq] at hend
  · cases hfinished

/-- Whatever a body writes, its integers have few enough digits. -/
theorem decode?_short {octets : List UInt8} {v : Json} (h : decode? octets = some v) :
    v.Short := by
  obtain ⟨s, -, hs⟩ := Option.bind_eq_some_iff.mp h
  exact parse?_short hs

end Json

/-! ## Counts -/

theorem countOf_text_short {s : String} {n : Int} (h : Number.countOf s = .count n) :
    Number.Short n := by
  simp only [Number.countOf] at h
  split at h
  · cases h
  · rename_i digits hdigits
    split at h
    · cases h
    · rename_i short
      cases h
      obtain ⟨whole, -, hwhole⟩ := Option.bind_eq_some_iff.mp hdigits
      obtain ⟨plain, -, hplain⟩ := Option.bind_eq_some_iff.mp hwhole
      exact short_signed _ hplain short

theorem integerOfReal_short {x : Binary64} {n : Int} (h : integerOfReal x = .ok n) :
    Number.Short n := by
  unfold integerOfReal at h
  split at h
  · cases h
  · cases h
  · split at h
    · rename_i bounds
      cases h
      exact short_of_lt bounds.1 bounds.2
    · cases h

/-- A count is read from an integer, from a real number or from a text. -/
theorem countOf_short {v : Json} (hv : v.Short) {n : Int} (h : countOf v = .ok (some n)) :
    Number.Short n := by
  cases hv with
  | null => cases h
  | integer few =>
    cases h
    exact few
  | @bool b =>
    cases h
    cases b
    · exact Nat.pow_pos (by decide)
    · exact Nat.one_lt_pow (by decide) (by decide)
  | @real x =>
    -- an integer that is written with a point or a power of ten has its own bound
    unfold countOf at h
    cases hx : integerOfReal x with
    | error fs => simp [hx, Except.map] at h
    | ok m =>
      obtain rfl : m = n := by simpa [hx, Except.map] using h
      exact integerOfReal_short hx
  | @text s =>
    unfold countOf at h
    simp only at h
    split at h
    · rename_i m hm
      cases h
      exact countOf_text_short hm
    · cases h
    · cases h
  | list _ => cases h
  | object _ => cases h

theorem find_short {ms : Members} (hms : ∀ m ∈ ms, m.2.Short) {f : FieldName} {name : String}
    {v : Json} (h : f.find ms = some (name, v)) : v.Short := by
  have hmember {key : String} {w : Json} (hw : ms.lookup key = some w) : w.Short := by
    obtain ⟨before, after, rfl, -⟩ := List.lookup_eq_some_iff.mp hw
    exact hms (key, w) (by simp)
  unfold FieldName.find at h
  split at h
  · rename_i hwire
    cases h
    exact hmember hwire
  · obtain ⟨w, hplain, heq⟩ := Option.map_eq_some_iff.mp h
    cases heq
    exact hmember hplain

theorem optional_short {ms : Members} (hms : ∀ m ∈ ms, m.2.Short) {f : FieldName} {n : Int}
    (h : optional ms f none countOf = .ok (some n)) : Number.Short n := by
  unfold optional at h
  split at h
  · rename_i name v hfind
    cases hcount : countOf v with
    | error fs => simp [hcount, Checked.under, Except.mapError] at h
    | ok count =>
      obtain rfl : count = some n := by simpa [hcount, Checked.under, Except.mapError] using h
      exact countOf_short (find_short hms hfind) hcount
  · cases h

theorem check_filtered_short {ms : Members} (hms : ∀ m ∈ ms, m.2.Short) {page : LoginPage}
    (h : LoginPage.check (.object ms) = .ok page) {n : Int} (told : page.filtered = some n) :
    Number.Short n := by
  unfold LoginPage.check at h
  simp only at h
  split at h
  · rename_i logins total filtered _ _ hfiltered
    cases h
    obtain rfl : filtered = some n := told
    exact optional_short hms hfiltered
  · cases h

theorem value_short {r : Response} {v : Json} (h : r.value = .ok v) : v.Short := by
  unfold Response.value at h
  split at h
  · split at h
    · rename_i hdecode
      cases h
      exact decode?_short hdecode
    · cases h
  · cases h

/-- No page tells a count of too many digits. -/
theorem Response.page_filtered_short {r : Response} {page : LoginPage} (h : r.page = .ok page)
    {n : Int} (told : page.filtered = some n) : Number.Short n := by
  unfold Response.page at h
  cases hvalue : r.value with
  | error why =>
    rw [hvalue] at h
    cases h
  | ok v =>
    rw [hvalue] at h
    cases value_short hvalue with
    | @object ms all =>
      change (if (ms.lookup FieldName.data.wire).isNone then Except.error ProtocolFault.dataMissing
        else (LoginPage.decode (.object ms)).mapError (.malformed .page)) = .ok page at h
      split at h
      · cases h
      · cases hcheck : LoginPage.check (.object ms) with
        | error fs => simp [LoginPage.decode, hcheck, Except.mapError] at h
        | ok page' =>
          obtain rfl : page' = page := by simpa [LoginPage.decode, hcheck, Except.mapError] using h
          exact check_filtered_short all hcheck told
    | _ => cases h

end LoginVault
