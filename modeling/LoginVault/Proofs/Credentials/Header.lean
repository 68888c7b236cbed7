import LoginVault.Credentials
import Mathlib.Data.List.Basic
import Mathlib.Data.List.GetD

/-!
# Credentials.Header — what a header says of the credentials

A header carries the user name and the password, with a colon between them, in UTF-8 and Base64.
`Base64.decode?` reads Base64 strictly, so that reading accepts exactly what writing produces
(`Base64.decode?_eq_some_iff`). A header and its text therefore determine each other, however the
octets of a character fall into groups. The text in turn determines both of its parts if there is
no colon in the user name.

Main result: `header_roundTrip`.
-/

namespace LoginVault

/-! ## Base64 -/

namespace Base64

/-- The six bits that a character stands for. -/
def sextet? (c : Char) : Option Nat := alphabet.idxOf? c

/-- The octets that characters stand for. Four characters are three octets. Padding stands in the
last group alone, and then the bits that belong to no octet are zero. -/
def decode? : List Char → Option (List UInt8)
  | [] => some []
  | a :: b :: c :: d :: rest =>
    match sextet? a, sextet? b, sextet? c, sextet? d with
    | some w, some x, some y, some z =>
      let n := 262144 * w + 4096 * x + 64 * y + z
      (decode? rest).map
        (UInt8.ofNat (n / 65536) :: UInt8.ofNat (n / 256 % 256) :: UInt8.ofNat (n % 256) :: ·)
    | some w, some x, some y, none =>
      let n := 4096 * w + 64 * x + y
      if d = padding ∧ rest = [] ∧ n % 4 = 0 then
        some [UInt8.ofNat (n / 1024), UInt8.ofNat (n / 4 % 256)]
      else none
    | some w, some x, none, none =>
      let n := 64 * w + x
      if c = padding ∧ d = padding ∧ rest = [] ∧ n % 16 = 0 then some [UInt8.ofNat (n / 16)]
      else none
    | _, _, _, _ => none
  | _ => none

theorem nodup_alphabet : alphabet.Nodup := by decide +kernel

theorem length_alphabet : alphabet.length = 64 := by decide +kernel

theorem sextet?_padding : sextet? padding = none := by decide +kernel

theorem encodeSextet_eq_getElem {n : Nat} (h : n < alphabet.length) :
    encodeSextet n = alphabet[n] :=
  List.getD_eq_getElem _ _ h

/-- A character stands for the six bits that it is written for. -/
theorem sextet?_eq_some_iff {c : Char} {n : Nat} :
    sextet? c = some n ↔ n < 64 ∧ c = encodeSextet n := by
  rw [sextet?, List.idxOf?_eq_some_iff, ← length_alphabet]
  constructor
  · rintro ⟨h, hc, -⟩
    exact ⟨h, by rw [encodeSextet_eq_getElem h, hc]⟩
  · rintro ⟨h, rfl⟩
    refine ⟨h, (encodeSextet_eq_getElem h).symm, ?_⟩
    intro j hj heq
    rw [encodeSextet_eq_getElem h, List.getElem_inj nodup_alphabet] at heq
    omega

theorem sextet?_encodeSextet {n : Nat} (h : n < 64) : sextet? (encodeSextet n) = some n :=
  sextet?_eq_some_iff.mpr ⟨h, rfl⟩

/-- What is written is read. -/
theorem decode?_encode (octets : List UInt8) : decode? (encode octets) = some octets := by
  fun_induction encode octets with
  | case1 => rfl
  | case2 a n =>
    have ha := a.toNat_lt
    have hn : 64 * (n / 64) + n % 64 = n := Nat.div_add_mod n 64
    have hleft : n % 16 = 0 := by omega
    have hfirst : n / 16 = a.toNat := by omega
    simp [decode?, sextet?_encodeSextet (show n / 64 < 64 by omega),
      sextet?_encodeSextet (show n % 64 < 64 by omega), sextet?_padding, hn, hleft, hfirst]
  | case3 a b n =>
    have ha := a.toNat_lt
    have hb := b.toNat_lt
    have hn : 4096 * (n / 4096) + 64 * (n / 64 % 64) + n % 64 = n := by omega
    have hleft : n % 4 = 0 := by omega
    have hfirst : n / 1024 = a.toNat := by omega
    have hsecond : n / 4 % 256 = b.toNat := by omega
    simp [decode?, sextet?_encodeSextet (show n / 4096 < 64 by omega),
      sextet?_encodeSextet (show n / 64 % 64 < 64 by omega),
      sextet?_encodeSextet (show n % 64 < 64 by omega), sextet?_padding, hn, hleft, hfirst, hsecond]
  | case4 a b c rest n ih =>
    have ha := a.toNat_lt
    have hb := b.toNat_lt
    have hc := c.toNat_lt
    have hn : 262144 * (n / 262144) + 4096 * (n / 4096 % 64) + 64 * (n / 64 % 64) + n % 64 = n := by
      omega
    have hfirst : n / 65536 = a.toNat := by omega
    have hsecond : n / 256 % 256 = b.toNat := by omega
    have hthird : n % 256 = c.toNat := by omega
    simp [decode?, sextet?_encodeSextet (show n / 262144 < 64 by omega),
      sextet?_encodeSextet (show n / 4096 % 64 < 64 by omega),
      sextet?_encodeSextet (show n / 64 % 64 < 64 by omega),
      sextet?_encodeSextet (show n % 64 < 64 by omega), hn, ih, hfirst, hsecond, hthird]

section

variable {w x y z : Nat} (hw : w < 64) (hx : x < 64) (hy : y < 64) (hz : z < 64)

include hw hx

theorem encode_one (hleft : (64 * w + x) % 16 = 0) :
    encode [UInt8.ofNat ((64 * w + x) / 16)]
      = [encodeSextet w, encodeSextet x, padding, padding] := by
  generalize hn : 64 * w + x = n at hleft
  have hoctet : n / 16 < 256 := by omega
  have hjoined : 16 * (n / 16) = n := by omega
  have hcuts : n / 64 = w ∧ n % 64 = x := by omega
  simp only [encode, UInt8.toNat_ofNat_of_lt' hoctet, hjoined, hcuts]

include hy

theorem encode_two (hleft : (4096 * w + 64 * x + y) % 4 = 0) :
    encode [UInt8.ofNat ((4096 * w + 64 * x + y) / 1024),
        UInt8.ofNat ((4096 * w + 64 * x + y) / 4 % 256)]
      = [encodeSextet w, encodeSextet x, encodeSextet y, padding] := by
  generalize hn : 4096 * w + 64 * x + y = n at hleft
  have hfirst : n / 1024 < 256 := by omega
  have hsecond : n / 4 % 256 < 256 := by omega
  have hjoined : 4 * (256 * (n / 1024) + n / 4 % 256) = n := by omega
  have hcuts : n / 4096 = w ∧ n / 64 % 64 = x ∧ n % 64 = y := by omega
  simp only [encode, UInt8.toNat_ofNat_of_lt' hfirst, UInt8.toNat_ofNat_of_lt' hsecond, hjoined,
    hcuts]

include hz

theorem encode_three (rest : List UInt8) :
    encode (UInt8.ofNat ((262144 * w + 4096 * x + 64 * y + z) / 65536)
        :: UInt8.ofNat ((262144 * w + 4096 * x + 64 * y + z) / 256 % 256)
        :: UInt8.ofNat ((262144 * w + 4096 * x + 64 * y + z) % 256) :: rest)
      = encodeSextet w :: encodeSextet x :: encodeSextet y :: encodeSextet z :: encode rest := by
  generalize hn : 262144 * w + 4096 * x + 64 * y + z = n
  have hfirst : n / 65536 < 256 := by omega
  have hsecond : n / 256 % 256 < 256 := by omega
  have hthird : n % 256 < 256 := by omega
  have hjoined : 65536 * (n / 65536) + 256 * (n / 256 % 256) + n % 256 = n := by omega
  have hcuts : n / 262144 = w ∧ n / 4096 % 64 = x ∧ n / 64 % 64 = y ∧ n % 64 = z := by omega
  simp only [encode, UInt8.toNat_ofNat_of_lt' hfirst, UInt8.toNat_ofNat_of_lt' hsecond,
    UInt8.toNat_ofNat_of_lt' hthird, hjoined, hcuts]

end

/-- What is read was written. -/
theorem eq_encode_of_decode? {token : List Char} {octets : List UInt8}
    (h : decode? token = some octets) : token = encode octets := by
  fun_induction decode? token generalizing octets with
  | case1 =>
    obtain rfl := Option.some.inj h
    rfl
  | case2 =>
    rename_i a b c d rest w x y z hd hc hb ha n ih
    obtain ⟨octets, hrest, rfl⟩ := Option.map_eq_some_iff.mp h
    obtain ⟨hw, rfl⟩ := sextet?_eq_some_iff.mp ha
    obtain ⟨hx, rfl⟩ := sextet?_eq_some_iff.mp hb
    obtain ⟨hy, rfl⟩ := sextet?_eq_some_iff.mp hc
    obtain ⟨hz, rfl⟩ := sextet?_eq_some_iff.mp hd
    rw [encode_three hw hx hy hz, ← ih hrest]
  | case3 =>
    rename_i a b c d rest w x y hd hc hb ha n filled
    obtain ⟨rfl, rfl, hleft⟩ := filled
    obtain ⟨hw, rfl⟩ := sextet?_eq_some_iff.mp ha
    obtain ⟨hx, rfl⟩ := sextet?_eq_some_iff.mp hb
    obtain ⟨hy, rfl⟩ := sextet?_eq_some_iff.mp hc
    obtain rfl := Option.some.inj h
    exact (encode_two hw hx hy hleft).symm
  | case5 =>
    rename_i a b c d rest w x hd hc hb ha n filled
    obtain ⟨rfl, rfl, rfl, hleft⟩ := filled
    obtain ⟨hw, rfl⟩ := sextet?_eq_some_iff.mp ha
    obtain ⟨hx, rfl⟩ := sextet?_eq_some_iff.mp hb
    obtain rfl := Option.some.inj h
    exact (encode_one hw hx hleft).symm
  | case4 | case6 | case7 | case8 => cases h

theorem decode?_eq_some_iff {token : List Char} {octets : List UInt8} :
    decode? token = some octets ↔ token = encode octets := by
  constructor
  · exact eq_encode_of_decode?
  · rintro rfl
    exact decode?_encode octets

/-- Whether characters are those of the alphabet, filled up to whole groups for `n` octets. -/
structure IsFilled (n : Nat) (token : List Char) : Prop where
  written : ∃ body, (∀ c ∈ body, c ∈ alphabet)
    ∧ token = body ++ List.replicate ((3 - n % 3) % 3) padding
  length : token.length = 4 * ((n + 2) / 3)

theorem encodeSextet_mem {n : Nat} (h : n < 64) : encodeSextet n ∈ alphabet := by
  rw [← length_alphabet] at h
  rw [encodeSextet_eq_getElem h]
  exact List.getElem_mem _

theorem isFilled_encode (octets : List UInt8) : IsFilled octets.length (encode octets) := by
  fun_induction encode octets with
  | case1 => exact ⟨⟨[], by simp, rfl⟩, rfl⟩
  | case2 a n =>
    have ha := a.toNat_lt
    refine ⟨⟨[encodeSextet (n / 64), encodeSextet (n % 64)], ?_, rfl⟩, by simp⟩
    simp only [List.forall_mem_cons]
    exact ⟨encodeSextet_mem (by omega), encodeSextet_mem (by omega), by simp⟩
  | case3 a b n =>
    have ha := a.toNat_lt
    have hb := b.toNat_lt
    refine ⟨⟨[encodeSextet (n / 4096), encodeSextet (n / 64 % 64), encodeSextet (n % 64)], ?_,
      rfl⟩, by simp⟩
    simp only [List.forall_mem_cons]
    exact ⟨encodeSextet_mem (by omega), encodeSextet_mem (by omega), encodeSextet_mem (by omega),
      by simp⟩
  | case4 a b c rest n ih =>
    have ha := a.toNat_lt
    have hb := b.toNat_lt
    have hc := c.toNat_lt
    obtain ⟨⟨body, hbody, htoken⟩, hlength⟩ := ih
    have hpadding : (3 - rest.length % 3) % 3 = (3 - (a :: b :: c :: rest).length % 3) % 3 := by
      simp only [List.length_cons]
      omega
    refine ⟨⟨encodeSextet (n / 262144) :: encodeSextet (n / 4096 % 64)
      :: encodeSextet (n / 64 % 64) :: encodeSextet (n % 64) :: body, ?_, ?_⟩, ?_⟩
    · simp only [List.forall_mem_cons]
      exact ⟨encodeSextet_mem (by omega), encodeSextet_mem (by omega), encodeSextet_mem (by omega),
        encodeSextet_mem (by omega), hbody⟩
    · rw [htoken, ← hpadding]
      rfl
    · simp only [List.length_cons, hlength]
      omega

end Base64

namespace Credentials

/-! ## UTF-8 -/

/-- The text that octets are in UTF-8. -/
def textOf? (octets : List UInt8) : Option String := String.fromUTF8? octets.toByteArray

theorem toByteArray_octets (s : String) : (octets s).toByteArray = s.toByteArray :=
  String.utf8Encode_toList

theorem textOf?_eq_some_iff {read : List UInt8} {s : String} :
    textOf? read = some s ↔ read = octets s := by
  unfold textOf? String.fromUTF8?
  constructor
  · intro h
    split at h
    · obtain rfl := Option.some.inj h
      rw [← List.toByteArray_inj, toByteArray_octets]
      rfl
    · cases h
  · rintro rfl
    rw [toByteArray_octets, dif_pos s.isValidUTF8]
    rfl

theorem length_octets (s : String) : (octets s).length = s.utf8ByteSize := by
  rw [← List.size_toByteArray, toByteArray_octets]
  rfl

/-! ## Headers -/

/-- The text that a header carries. -/
def text (c : Credentials) : String := c.username ++ ":" ++ c.password

/-- The text that the characters of a header stand for. -/
def read? (token : List Char) : Option String := (Base64.decode? token).bind textOf?

theorem read?_eq_some_iff {token : List Char} {s : String} :
    read? token = some s ↔ token = Base64.encode (octets s) := by
  simp [read?, Option.bind_eq_some_iff, Base64.decode?_eq_some_iff, textOf?_eq_some_iff]

theorem header_eq_iff {c c' : Credentials} : c'.header = c.header ↔ c'.text = c.text := by
  constructor
  · intro h
    have htoken : Base64.encode (octets c'.text) = Base64.encode (octets c.text) := by
      simpa [header, text, String.ofList_inj] using h
    have hread := read?_eq_some_iff.mpr htoken
    exact Option.some.inj ((read?_eq_some_iff.mpr rfl).symm.trans hread)
  · intro h
    rw [header, header, ← text, ← text, h]

/-- A text gives back a user name without a colon, and the password. -/
theorem text_inj {c c' : Credentials} (plain : ':' ∉ c.username.toList)
    (plain' : ':' ∉ c'.username.toList) (h : c'.text = c.text) : c' = c := by
  have hlist : c'.username.toList ++ ':' :: c'.password.toList
      = c.username.toList ++ ':' :: c.password.toList := by
    simpa [text] using congrArg String.toList h
  -- both user names end before the first colon
  have hlength : c'.username.toList.length = c.username.toList.length := by
    simpa [List.idxOf_append_of_notMem plain, List.idxOf_append_of_notMem plain']
      using congrArg (List.idxOf ':') hlist
  obtain ⟨husername, hpassword⟩ := List.append_inj hlist hlength
  cases c
  cases c'
  simp only [String.toList_inj, List.cons.injEq, true_and] at husername hpassword
  rw [husername, hpassword]

/-- The header is one word in Base64 that stands for the text of the credentials, no other word
stands for it, and credentials are told apart by their headers as far as by their texts. -/
theorem header_roundTrip (c : Credentials) :
    (∃ token, c.header = "Basic " ++ String.ofList token
        ∧ Base64.IsFilled (c.username ++ ":" ++ c.password).utf8ByteSize token
        ∧ ∀ token', read? token' = some (c.username ++ ":" ++ c.password) ↔ token' = token)
      ∧ (∀ c' : Credentials, c'.header = c.header
        ↔ c'.username ++ ":" ++ c'.password = c.username ++ ":" ++ c.password)
      ∧ ∀ c' : Credentials, ':' ∉ c.username.toList → ':' ∉ c'.username.toList →
        c'.header = c.header → c' = c := by
  refine ⟨⟨Base64.encode (octets c.text), rfl, ?_, fun _ => read?_eq_some_iff⟩, ?_, ?_⟩
  · rw [← text, ← length_octets]
    exact Base64.isFilled_encode _
  · intro c'
    exact header_eq_iff
  · intro c' plain plain' h
    exact text_inj plain plain' (header_eq_iff.mp h)

example : header ⟨"a:b", "c"⟩ = header ⟨"a", "b:c"⟩ := rfl

end Credentials

end LoginVault
