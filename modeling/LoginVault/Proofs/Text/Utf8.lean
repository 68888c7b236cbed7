import LoginVault.Text.Utf
import Mathlib.Tactic.SplitIfs

/-!
# Text.Utf8 — what is written in UTF-8 is read back

A character is written in one to four octets. The first of them tells how many there are and,
where the character is the least of its length or near the end of the code points, narrows what the
second may be. One lemma for each length, and one for each octet inside a character.

Main result: `decodeUtf8?_flatMap`.
-/

namespace LoginVault.Text

theorem charOfCode_toNat (c : Char) : charOfCode c.toNat = c := by
  have hvalid : c.toNat.isValidChar := c.valid
  rw [charOfCode, dif_pos hvalid]
  rfl

/-! ## First octets -/

section

variable {v : Nat}

theorem firstOctet_of_le_7f (h : v ≤ 0x7f) : firstOctet true v = .completes v := by
  simp [firstOctet, Nat.lt_succ_of_le h]

theorem firstOctet_of_le_7ff (low : 0x7f < v) (high : v ≤ 0x7ff) :
    firstOctet true (v / 64 % 32 + 192) = .continues ⟨1, 0x80, 0xbf, v / 64⟩ := by
  have hbits : v / 64 % 32 + 192 - 0xc0 = v / 64 := by omega
  have hlow : ¬ v / 64 % 32 + 192 < 0xc2 := by omega
  have hhigh : v / 64 % 32 + 192 < 0xe0 := by omega
  have hascii : ¬ v / 64 % 32 + 192 < 0x80 := by omega
  simp only [firstOctet, hascii, hlow, hhigh, hbits, if_true, if_false]

/-- The second octet of three is in the range that the first one gives. -/
theorem firstOctet_of_le_ffff (low : 0x7ff < v) (high : v ≤ 0xffff) :
    ∃ least, firstOctet true (v / 4096 % 16 + 224) = .continues ⟨2, least, 0xbf, v / 4096⟩
      ∧ least ≤ v / 64 % 64 + 128 := by
  have hbits : v / 4096 % 16 + 224 - 0xe0 = v / 4096 := by omega
  have hlow : ¬ v / 4096 % 16 + 224 < 0xe0 := by omega
  have hhigh : v / 4096 % 16 + 224 < 0xf0 := by omega
  have htwo : ¬ v / 4096 % 16 + 224 < 0xc2 := by omega
  have hascii : ¬ v / 4096 % 16 + 224 < 0x80 := by omega
  simp only [firstOctet, hascii, htwo, hlow, hhigh, hbits, if_true, if_false]
  -- the least first octet asks for more of the second
  by_cases hleast : v / 4096 = 0
  · refine ⟨0xa0, ?_, by omega⟩
    simp [hleast]
  · refine ⟨0x80, ?_, by omega⟩
    have hne : v / 4096 % 16 ≠ 0 := by omega
    simp [hne]

/-- So is the second octet of four. -/
theorem firstOctet_of_le_10ffff (low : 0xffff < v) (high : v ≤ 0x10ffff) :
    ∃ least greatest,
      firstOctet true (v / 262144 % 8 + 240) = .continues ⟨3, least, greatest, v / 262144⟩
      ∧ least ≤ v / 4096 % 64 + 128 ∧ v / 4096 % 64 + 128 ≤ greatest := by
  have hbits : v / 262144 % 8 + 240 - 0xf0 = v / 262144 := by omega
  have hthree : ¬ v / 262144 % 8 + 240 < 0xf0 := by omega
  have hlow : ¬ v / 262144 % 8 + 240 < 0xe0 := by omega
  have htwo : ¬ v / 262144 % 8 + 240 < 0xc2 := by omega
  have hascii : ¬ v / 262144 % 8 + 240 < 0x80 := by omega
  simp only [firstOctet, hascii, htwo, hlow, hthree, hbits, if_false]
  -- the least first octet asks for more of the second, the greatest for less
  rcases (by omega : v / 262144 = 0 ∨ v / 262144 = 4 ∨ 0 < v / 262144 ∧ v / 262144 < 4)
    with hleast | hgreatest | hbetween
  · refine ⟨0x90, 0xbf, ?_, by omega, by omega⟩
    simp [hleast]
  · refine ⟨0x80, 0x8f, ?_, by omega, by omega⟩
    simp [hgreatest]
  · refine ⟨0x80, 0xbf, ?_, by omega, by omega⟩
    have hne : v / 262144 % 8 ≠ 0 := by omega
    have hlt : v / 262144 % 8 + 240 < 0xf4 := by omega
    simp [hne, hlt]

end

/-! ## Characters -/

section

variable {s : Begun} {x : Nat} {rest : List UInt8}

/-- An octet inside a character adds six bits. -/
theorem Begun.next_inside (low : s.low ≤ x + 128) (high : x + 128 ≤ s.high) :
    s.next (x + 128) = if s.owed ≤ 1 then .completes (64 * s.bits + x)
      else .continues ⟨s.owed - 1, 0x80, 0xbf, 64 * s.bits + x⟩ := by
  have hrange : ¬ (x + 128 < s.low ∨ s.high < x + 128) := by omega
  simp [Begun.next, hrange]

theorem toNat_ofNat_octet {b : Nat} (h : b < 256) : (UInt8.ofNat b).toNat = b :=
  UInt8.toNat_ofNat_of_lt h

theorem utf8From_continues {state : Begun} {b : Nat} (h : b < 256)
    (octet : firstOctet true b = .continues state) :
    utf8From none (UInt8.ofNat b :: rest) = utf8From (some state) rest := by
  rw [utf8From, toNat_ofNat_octet h, octet]

/-- An octet inside a character that is not the last of it. -/
theorem utf8From_inside (owed : 1 < s.owed) (hx : x < 64) (low : s.low ≤ x + 128)
    (high : x + 128 ≤ s.high) :
    utf8From (some s) (UInt8.ofNat (x + 128) :: rest)
      = utf8From (some ⟨s.owed - 1, 0x80, 0xbf, 64 * s.bits + x⟩) rest := by
  have hoctet : (UInt8.ofNat (x + 128)).toNat = x + 128 := toNat_ofNat_octet (by omega)
  rw [utf8From, hoctet]
  simp only [Begun.next_inside low high, Nat.not_le.mpr owed, if_false]

/-- The last octet of a character. -/
theorem utf8From_last (owed : s.owed = 1) (hx : x < 64) (low : s.low ≤ x + 128)
    (high : x + 128 ≤ s.high) :
    utf8From (some s) (UInt8.ofNat (x + 128) :: rest)
      = (utf8From none rest).map (charOfCode (64 * s.bits + x) :: ·) := by
  have hoctet : (UInt8.ofNat (x + 128)).toNat = x + 128 := toNat_ofNat_octet (by omega)
  rw [utf8From, hoctet]
  simp only [Begun.next_inside low high, owed, Nat.le_refl, if_true]

end

/-- A character is read from its octets, whatever follows it. -/
theorem utf8From_char (c : Char) (rest : List UInt8) :
    utf8From none (String.utf8EncodeChar c ++ rest) = (utf8From none rest).map (c :: ·) := by
  have hchar : charOfCode c.val.toNat = c := charOfCode_toNat c
  have hlimit : c.val.toNat ≤ 0x10ffff := by
    have hvalid : c.val.toNat.isValidChar := c.valid
    unfold Nat.isValidChar at hvalid
    omega
  unfold String.utf8EncodeChar
  generalize c.val.toNat = v at hchar hlimit
  simp only
  split_ifs with hone htwo hthree
  · have hread : utf8From none (UInt8.ofNat v :: rest)
        = (utf8From none rest).map (charOfCode v :: ·) := by
      rw [utf8From, toNat_ofNat_octet (by omega), firstOctet_of_le_7f hone]
    rw [List.singleton_append, hread, hchar]
  · have hcode : 64 * (v / 64) + v % 64 = v := by omega
    rw [List.cons_append, List.singleton_append,
      utf8From_continues (by omega) (firstOctet_of_le_7ff (by omega) htwo),
      utf8From_last rfl (by omega) (by simp) (by simp only; omega), hcode, hchar]
  · obtain ⟨least, hfirst, hleast⟩ := firstOctet_of_le_ffff (v := v) (by omega) hthree
    have hcode : 64 * (64 * (v / 4096) + v / 64 % 64) + v % 64 = v := by omega
    rw [List.cons_append, List.cons_append, List.singleton_append,
      utf8From_continues (by omega) hfirst,
      utf8From_inside (by simp) (by omega) hleast (by simp only; omega),
      utf8From_last rfl (by omega) (by simp) (by simp only; omega), hcode, hchar]
  · obtain ⟨least, greatest, hfirst, hleast, hgreatest⟩ :=
      firstOctet_of_le_10ffff (v := v) (by omega) hlimit
    have hcode : 64 * (64 * (64 * (v / 262144) + v / 4096 % 64) + v / 64 % 64) + v % 64 = v := by
      omega
    rw [List.cons_append, List.cons_append, List.cons_append, List.singleton_append,
      utf8From_continues (by omega) hfirst,
      utf8From_inside (by simp) (by omega) hleast hgreatest,
      utf8From_inside (by simp) (by omega) (by simp) (by simp only; omega),
      utf8From_last rfl (by omega) (by simp) (by simp only; omega), hcode, hchar]

/-- Characters are read from their octets. -/
theorem decodeUtf8?_flatMap (s : List Char) :
    decodeUtf8? (s.flatMap String.utf8EncodeChar) = some s := by
  unfold decodeUtf8?
  induction s with
  | nil => rfl
  | cons c s ih => rw [List.flatMap_cons, utf8From_char, ih, Option.map_some]

end LoginVault.Text
