import LoginVault.LookupKey
import Mathlib.Data.List.TakeWhile

/-!
# Lookup.Keys — what the key of an address is

An address is a scheme or nothing, then its key, then what follows the key. No separator stands in
the key, and what follows it is empty or starts with one. There is only one such division of an
address (`ofAddress_eq_iff`), so whatever can be divided in this way tells its key: a key is its
own, it does not depend on which of the schemes stands before it, and anything may follow.

Main result: `key_laws`.
-/

namespace LoginVault.LookupKey

/-! ## Divisions of an address -/

/-- The characters that no key holds. -/
def separators : List Char := ['/', '?', '#']

theorem isSeparator_iff {c : Char} : isSeparator c = true ↔ c ∈ separators := by
  simp [isSeparator, separators, or_assoc]

/-- The first of the schemes that an address starts with, empty if there is none. -/
def schemeOf (address : String) : String :=
  (schemes.find? fun s => s.toList <+: address.toList).getD ""

/-- Whether a text has no separator. -/
def IsHost (s : String) : Prop := ∀ c ∈ s.toList, c ∉ separators

/-- Whether a text is empty or starts with a separator. -/
def IsRest (s : String) : Prop := ∀ c ∈ s.toList.head?, c ∈ separators

theorem isPrefixOf_eq_decide (s address : List Char) :
    s.isPrefixOf address = decide (s <+: address) := by
  rw [Bool.eq_iff_iff, List.isPrefixOf_iff_prefix, decide_eq_true_iff]

/-- The scheme is what is taken off an address. -/
theorem toList_schemeOf_append (address : String) :
    (schemeOf address).toList ++ dropScheme address.toList = address.toList := by
  simp only [schemeOf, dropScheme, isPrefixOf_eq_decide]
  cases hs : schemes.find? fun s => s.toList <+: address.toList with
  | none => rfl
  | some s =>
    obtain ⟨rest, hrest⟩ : s.toList <+: address.toList := by simpa using List.find?_some hs
    have hdrop : (s.toList ++ rest).drop s.length = rest := List.drop_left' String.length_toList
    simp only [Option.getD_some, ← hrest, hdrop]

theorem takeWhile_eq_iff {α : Type} {p : α → Bool} {s key : List α} :
    s.takeWhile p = key
      ↔ (∀ c ∈ key, p c = true) ∧ ∃ rest, (∀ c ∈ rest.head?, p c = false) ∧ s = key ++ rest := by
  constructor
  · rintro rfl
    refine ⟨fun c hc => List.mem_takeWhile_imp hc, s.dropWhile p, ?_, ?_⟩
    · intro c hc
      have hstop := List.head?_dropWhile_not p s
      rw [hc] at hstop
      exact hstop
    · exact List.takeWhile_append_dropWhile.symm
  · rintro ⟨hkey, rest, hrest, rfl⟩
    rw [List.takeWhile_append_of_pos hkey]
    cases rest with
    | nil => simp
    | cons c rest => simp [hrest c rfl]

/-- A key is the host of one division of the address, which there is no other of. -/
theorem ofAddress_eq_iff {address key : String} :
    ofAddress address = key
      ↔ IsHost key ∧ ∃ rest, IsRest rest ∧ address = schemeOf address ++ key ++ rest := by
  have hstop {c : Char} : (!isSeparator c) = false ↔ c ∈ separators := by
    rw [Bool.not_eq_false', isSeparator_iff]
  have hgo {c : Char} : (!isSeparator c) = true ↔ c ∉ separators := by
    rw [Bool.not_eq_true', ← Bool.not_eq_true, isSeparator_iff]
  rw [ofAddress, ← String.toList_inj, String.toList_ofList, takeWhile_eq_iff]
  simp only [hstop, hgo]
  refine and_congr_right fun _ => ?_
  constructor
  · rintro ⟨rest, hrest, hdivided⟩
    refine ⟨String.ofList rest, by simpa [IsRest] using hrest, ?_⟩
    rw [← String.toList_inj]
    simp only [String.toList_append, String.toList_ofList, List.append_assoc, ← hdivided,
      toList_schemeOf_append]
  · rintro ⟨rest, hrest, hdivided⟩
    have hscheme : (schemeOf address).toList ++ dropScheme address.toList
        = (schemeOf address).toList ++ (key.toList ++ rest.toList) := by
      rw [toList_schemeOf_append, ← List.append_assoc, ← String.toList_append,
        ← String.toList_append, ← hdivided]
    exact ⟨rest.toList, hrest, List.append_cancel_left hscheme⟩

/-! ## Schemes -/

theorem isHost_ofAddress (address : String) : IsHost (ofAddress address) :=
  (ofAddress_eq_iff.mp rfl).1

theorem schemeOf_of_no_scheme {s : String} (none : ∀ t ∈ schemes, ¬ t.toList <+: s.toList) :
    schemeOf s = "" := by
  have hfind : (schemes.find? fun t => t.toList <+: s.toList) = .none := by
    simpa using none
  rw [schemeOf, hfind, Option.getD_none]

/-- Every scheme has a separator, so a host starts with none. -/
theorem schemeOf_of_isHost {s : String} (h : IsHost s) : schemeOf s = "" := by
  have hslash : ∀ t ∈ schemes, '/' ∈ t.toList := by decide +kernel
  refine schemeOf_of_no_scheme fun t ht starts => ?_
  exact h '/' (starts.subset (hslash t ht)) (by decide)

/-- No scheme starts with another. -/
theorem scheme_eq_of_starts : ∀ s ∈ schemes, ∀ t ∈ schemes, s.toList <+: t.toList → s = t := by
  decide +kernel

/-- So an address starts with no scheme but the one that was put before it. -/
theorem schemeOf_append {s : String} (hs : s ∈ schemes) (address : String) :
    schemeOf (s ++ address) = s := by
  have starts : s.toList <+: (s ++ address).toList := by simp
  cases hfind : schemes.find? fun t => t.toList <+: (s ++ address).toList with
  | none =>
    exact absurd (decide_eq_true starts) (List.find?_eq_none.mp hfind s hs)
  | some t =>
    have ht : t ∈ schemes := List.mem_of_find?_eq_some hfind
    have starts' : t.toList <+: (s ++ address).toList := by simpa using List.find?_some hfind
    rw [schemeOf, hfind, Option.getD_some]
    rcases List.prefix_or_prefix_of_prefix starts' starts with hprefix | hprefix
    · exact scheme_eq_of_starts t ht s hs hprefix
    · exact (scheme_eq_of_starts s hs t ht hprefix).symm

/-- Behind a scheme the key depends on what follows it alone. -/
theorem ofAddress_append_iff {s address key : String} (hs : s ∈ schemes) :
    ofAddress (s ++ address) = key ↔ IsHost key ∧ ∃ rest, IsRest rest ∧ address = key ++ rest := by
  have hcancel (rest : String) : s ++ address = s ++ key ++ rest ↔ address = key ++ rest := by
    rw [String.append_assoc, String.append_right_inj]
  simp only [ofAddress_eq_iff, schemeOf_append hs, hcancel]

theorem ofAddress_append_eq {s t : String} (hs : s ∈ schemes) (ht : t ∈ schemes)
    (address : String) : ofAddress (s ++ address) = ofAddress (t ++ address) := by
  rw [ofAddress_append_iff hs, ← ofAddress_append_iff ht]

/-! ## Keys -/

/-- What is true of keys. -/
structure KeyLaws : Prop where
  /-- An address is its scheme, its key and a rest, and no other text is its key. -/
  divided : ∀ address key : String, ofAddress address = key
    ↔ IsHost key ∧ ∃ rest, IsRest rest ∧ address = schemeOf address ++ key ++ rest
  again : ∀ address, ofAddress (ofAddress address) = ofAddress address
  /-- The three schemes are alike. -/
  file : ∀ address, ofAddress ("file://" ++ address) = ofAddress ("http://" ++ address)
  secure : ∀ address, ofAddress ("http://" ++ address) = ofAddress ("https://" ++ address)
  /-- None of them is needed if no other follows. -/
  bare : ∀ s ∈ schemes, ∀ address, (∀ t ∈ schemes, ¬ t.toList <+: address.toList) →
    ofAddress (s ++ address) = ofAddress address
  /-- What follows a host does not matter. -/
  host : ∀ s ∈ schemes, ∀ c ∈ separators, ∀ host rest, IsHost host →
    ofAddress (s ++ host ++ String.singleton c ++ rest) = host

theorem key_laws : KeyLaws where
  divided _ _ := ofAddress_eq_iff
  again address := by
    have host := isHost_ofAddress address
    refine ofAddress_eq_iff.mpr ⟨host, "", by simp [IsRest], ?_⟩
    rw [schemeOf_of_isHost host]
    simp
  file := ofAddress_append_eq (by decide) (by decide)
  secure := ofAddress_append_eq (by decide) (by decide)
  bare s hs address none := by
    have hscheme := schemeOf_of_no_scheme none
    rw [ofAddress_append_iff hs]
    obtain ⟨host, rest, hrest, hdivided⟩ := ofAddress_eq_iff.mp (rfl : ofAddress address = _)
    exact ⟨host, rest, hrest, by simpa [hscheme] using hdivided⟩
  host s hs c hc host rest isHost := by
    rw [String.append_assoc, String.append_assoc, ofAddress_append_iff hs]
    refine ⟨isHost, String.singleton c ++ rest, ?_, rfl⟩
    simpa [IsRest] using hc

-- of two schemes the second is no scheme any more
example : ofAddress "http://http://a" = "http:" ∧ ofAddress "http://a" = "a" := by decide +kernel

end LoginVault.LookupKey
