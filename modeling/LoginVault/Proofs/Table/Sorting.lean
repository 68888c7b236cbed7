import LoginVault.Table
import Mathlib.Data.List.Lex
import Mathlib.Data.Char
import Mathlib.Data.Prod.Lex

/-!
# Table.Sorting — logins in the order of their addresses

Two logins are compared by the pair of their folded address and their address, so they tie
exactly if they have one address (`Login.sortKey_eq_iff`). Sorting rearranges them, puts them in
order, and leaves those that tie as they stood, in both directions. Nothing else does so
(`eq_of_pairwise_of_filter_eq`): the order and the ties determine the list. That is how a sort is
recognized that was made another way, as by sorting first and leaving out logins afterwards.
-/

namespace LoginVault

/-! ## What is compared -/

/-- The pair that logins are compared by, texts by their code points. -/
def Login.sortKey (l : Login) : List Char ×ₗ List Char :=
  toLex (Text.caseFold l.url.toList, l.url.toList)

theorem codePointLe_iff {s t : List Char} : codePointLe s t = true ↔ s ≤ t := by
  induction s generalizing t with
  | nil => simp [codePointLe, ← not_lt]
  | cons a s ih =>
    cases t with
    | nil => simp [codePointLe, ← not_lt]
    | cons b t =>
      simp only [codePointLe, Bool.or_eq_true, Bool.and_eq_true, decide_eq_true_eq, ih]
      rw [le_iff_lt_or_eq, le_iff_lt_or_eq, List.cons_lt_cons_iff, List.cons.injEq]
      tauto

theorem Login.addressLe_iff {a b : Login} : a.addressLe b = true ↔ a.sortKey ≤ b.sortKey := by
  unfold Login.addressLe Login.sortKey
  rw [Prod.Lex.toLex_le_toLex]
  simp only
  split
  · rename_i hfold
    simp [codePointLe_iff, hfold]
  · rename_i hfold
    simp [codePointLe_iff, hfold, le_iff_lt_or_eq]

/-- Logins tie exactly if they have one address. -/
theorem Login.sortKey_eq_iff {a b : Login} : a.sortKey = b.sortKey ↔ a.url = b.url := by
  constructor
  · intro h
    exact String.toList_inj.mp (Prod.mk.inj (toLex_inj.mp h)).2
  · intro h
    rw [Login.sortKey, Login.sortKey, h]

/-- Whether two logins may follow each other in a direction. -/
def SortOrder.InOrder : SortOrder → Login → Login → Prop
  | .ascend, a, b => a.sortKey ≤ b.sortKey
  | .descend, a, b => b.sortKey ≤ a.sortKey

namespace SortOrder

variable {o : SortOrder} {a b c : Login}

theorem InOrder.trans (ab : o.InOrder a b) (bc : o.InOrder b c) : o.InOrder a c := by
  cases o with
  | ascend => exact le_trans ab bc
  | descend => exact le_trans bc ab

theorem inOrder_total (o : SortOrder) (a b : Login) : o.InOrder a b ∨ o.InOrder b a := by
  cases o with
  | ascend => exact le_total _ _
  | descend => exact le_total _ _

theorem inOrder_of_url_eq (h : a.url = b.url) : o.InOrder a b := by
  have hkey := Login.sortKey_eq_iff.mpr h
  cases o with
  | ascend => exact le_of_eq hkey
  | descend => exact le_of_eq hkey.symm

theorem InOrder.url_eq (ab : o.InOrder a b) (ba : o.InOrder b a) : a.url = b.url := by
  cases o with
  | ascend => exact Login.sortKey_eq_iff.mp (le_antisymm ab ba)
  | descend => exact Login.sortKey_eq_iff.mp (le_antisymm ba ab)

/-- The comparison that sorts in a direction. -/
def compares : SortOrder → Login → Login → Bool
  | .ascend, a, b => a.addressLe b
  | .descend, a, b => b.addressLe a

theorem compares_iff : o.compares a b = true ↔ o.InOrder a b := by
  cases o with
  | ascend => exact Login.addressLe_iff
  | descend => exact Login.addressLe_iff

theorem sort_some (o : SortOrder) (logins : List Login) :
    SortOrder.sort (some o) logins = logins.mergeSort o.compares := by
  cases o with
  | ascend => rfl
  | descend => rfl

theorem compares_trans (a b c : Login) (ab : o.compares a b = true) (bc : o.compares b c = true) :
    o.compares a c = true :=
  compares_iff.mpr ((compares_iff.mp ab).trans (compares_iff.mp bc))

theorem compares_total (a b : Login) : (o.compares a b || o.compares b a) = true := by
  rw [Bool.or_eq_true, compares_iff, compares_iff]
  exact inOrder_total o a b

end SortOrder

/-! ## What a sort does -/

theorem SortOrder.sort_perm (order : Option SortOrder) (logins : List Login) :
    (SortOrder.sort order logins).Perm logins := by
  cases order with
  | none => exact .refl _
  | some order => cases order <;> exact List.mergeSort_perm _ _

theorem SortOrder.sort_pairwise (o : SortOrder) (logins : List Login) :
    (SortOrder.sort (some o) logins).Pairwise o.InOrder := by
  rw [SortOrder.sort_some]
  have h := List.pairwise_mergeSort (SortOrder.compares_trans (o := o)) compares_total logins
  exact h.imp fun hab => SortOrder.compares_iff.mp hab

/-- Logins with one address keep their order. -/
theorem SortOrder.filter_url_sort (order : Option SortOrder) (url : String) (logins : List Login) :
    (SortOrder.sort order logins).filter (·.url = url) = logins.filter (·.url = url) := by
  cases order with
  | none => rfl
  | some o =>
    -- those with this address stand in order already, so sorting all of them keeps them so
    have htied : (logins.filter (·.url = url)).Pairwise fun a b => o.compares a b = true := by
      refine List.pairwise_of_forall_mem_list fun a ha b hb => ?_
      have hurls : a.url = b.url := by
        have ha := (List.mem_filter.mp ha).2
        have hb := (List.mem_filter.mp hb).2
        simp only [decide_eq_true_eq] at ha hb
        rw [ha, hb]
      exact SortOrder.compares_iff.mpr (SortOrder.inOrder_of_url_eq hurls)
    have hsublist : (logins.filter (·.url = url)).Sublist (SortOrder.sort (some o) logins) := by
      rw [SortOrder.sort_some]
      exact List.sublist_mergeSort compares_trans compares_total htied List.filter_sublist
    have hkept := hsublist.filter (·.url = url)
    rw [List.filter_filter] at hkept
    have hlength := ((SortOrder.sort_perm (some o) logins).filter (·.url = url)).length_eq
    exact (List.Sublist.eq_of_length (by simpa using hkept) hlength.symm).symm

/-- Logins in order are determined by those of each address. -/
theorem eq_of_pairwise_of_filter_eq {o : SortOrder} {xs ys : List Login}
    (sortedLeft : xs.Pairwise o.InOrder) (sortedRight : ys.Pairwise o.InOrder)
    (tied : ∀ url, xs.filter (·.url = url) = ys.filter (·.url = url)) : xs = ys := by
  induction xs generalizing ys with
  | nil =>
    cases ys with
    | nil => rfl
    | cons b ys =>
      have h := tied b.url
      simp at h
  | cons a xs ih =>
    cases ys with
    | nil =>
      have h := tied a.url
      simp at h
    | cons b ys =>
      have hmem (l : Login) : l ∈ a :: xs ↔ l ∈ b :: ys := by
        have h := congrArg (l ∈ ·) (tied l.url)
        simpa using h
      -- each of the two first logins stands in the other list, so neither comes before the other
      have hurls : a.url = b.url := by
        have hab : o.InOrder a b := by
          rcases List.mem_cons.mp ((hmem b).mpr List.mem_cons_self) with rfl | hb
          · exact SortOrder.inOrder_of_url_eq rfl
          · exact List.rel_of_pairwise_cons sortedLeft hb
        have hba : o.InOrder b a := by
          rcases List.mem_cons.mp ((hmem a).mp List.mem_cons_self) with rfl | ha
          · exact SortOrder.inOrder_of_url_eq rfl
          · exact List.rel_of_pairwise_cons sortedRight ha
        exact hab.url_eq hba
      -- so they are the first of those with their address, in both lists
      obtain rfl : a = b := by
        have h := tied a.url
        simp only [List.filter_cons, hurls, decide_true, if_true] at h
        exact (List.cons.inj h).1
      have hrest : ∀ url, xs.filter (·.url = url) = ys.filter (·.url = url) := by
        intro url
        have h := tied url
        simp only [List.filter_cons] at h
        split at h
        · exact (List.cons.inj h).2
        · exact h
      rw [ih (List.pairwise_cons.mp sortedLeft).2 (List.pairwise_cons.mp sortedRight).2 hrest]

end LoginVault
