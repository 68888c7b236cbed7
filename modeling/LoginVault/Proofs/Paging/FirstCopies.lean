import LoginVault.Paging
import Mathlib.Data.List.Induction

/-!
# Paging.FirstCopies — the first of several rows with one identifier

`firstCopies` says which rows of a sequence are kept: those that no earlier row shares its
identifier with. Adding rows one by one, as pages do, keeps the same rows
(`foldl_keep`), and adds none exactly if all identifiers are known (`foldl_keep_length_eq`).
-/

namespace LoginVault

/-- The rows without those whose identifier an earlier row has. -/
def firstCopies (rows : List Login) : List Login :=
  (rows.zipIdx.filter fun x => (rows.take x.2).all (·.id ≠ x.1.id)).map Prod.fst

/-- Whether a row has the identifier of one of the rows. -/
def Login.IsKnownIn (l : Login) (rows : List Login) : Prop := ∃ known ∈ rows, known.id = l.id

@[simp] theorem firstCopies_nil : firstCopies [] = [] := rfl

/-- The last row is kept if no row before it has its identifier. -/
theorem firstCopies_concat (rows : List Login) (l : Login) :
    firstCopies (rows ++ [l])
      = firstCopies rows ++ if rows.all (·.id ≠ l.id) then [l] else [] := by
  -- the last row stands behind all others and takes nothing from them
  have hbefore : (rows.zipIdx.filter fun x => ((rows ++ [l]).take x.2).all (·.id ≠ x.1.id))
      = rows.zipIdx.filter fun x => (rows.take x.2).all (·.id ≠ x.1.id) := by
    refine List.filter_congr fun x hx => ?_
    have hlt : x.2 < rows.length := by simpa using List.snd_lt_add_of_mem_zipIdx hx
    rw [List.take_append_of_le_length (Nat.le_of_lt hlt)]
  unfold firstCopies
  rw [List.zipIdx_append, List.filter_append, List.map_append, hbefore]
  congr 1
  cases h : rows.all (·.id ≠ l.id) <;> simp_all

/-- No identifier is lost. -/
theorem isKnownIn_firstCopies (l : Login) (rows : List Login) :
    l.IsKnownIn (firstCopies rows) ↔ l.IsKnownIn rows := by
  unfold Login.IsKnownIn
  induction rows using List.reverseRecOn with
  | nil => rfl
  | append_singleton rows last ih =>
    rw [firstCopies_concat]
    by_cases hnew : rows.all (·.id ≠ last.id) = true
    · rw [if_pos hnew]
      simp [or_and_right, exists_or, ih]
    · -- the last row is dropped, but a row with its identifier is kept
      obtain ⟨known, hmem, hid⟩ : ∃ known ∈ rows, known.id = last.id := by simpa using hnew
      simp only [hnew, Bool.false_eq_true, if_false, List.append_nil, ih]
      constructor
      · rintro ⟨x, hx, h⟩
        exact ⟨x, List.mem_append_left _ hx, h⟩
      · rintro ⟨x, hx, h⟩
        rcases List.mem_append.mp hx with hbefore | hlast
        · exact ⟨x, hbefore, h⟩
        · obtain rfl : x = last := by simpa using hlast
          exact ⟨known, hmem, hid.trans h⟩

/-- No two rows that are kept have one identifier. -/
theorem nodup_firstCopies (rows : List Login) : ((firstCopies rows).map (·.id)).Nodup := by
  induction rows using List.reverseRecOn with
  | nil => exact List.nodup_nil
  | append_singleton rows last ih =>
    rw [firstCopies_concat]
    by_cases hnew : rows.all (·.id ≠ last.id) = true
    · rw [if_pos hnew, List.map_append, List.nodup_append]
      refine ⟨ih, by simp, ?_⟩
      rintro a ha b hb rfl
      obtain rfl : a = last.id := by simpa using hb
      rcases List.mem_map.mp ha with ⟨x, hx, hid⟩
      rcases (isKnownIn_firstCopies last rows).mp ⟨x, hx, hid⟩ with ⟨known, hmem, h⟩
      exact absurd h (by simpa using List.all_eq_true.mp hnew known hmem)
    · rwa [if_neg hnew, List.append_nil]

/-- Which rows are kept does not change their order. -/
theorem firstCopies_sublist (rows : List Login) : (firstCopies rows).Sublist rows := by
  have h := (List.filter_sublist (p := fun x => (rows.take x.2).all (·.id ≠ x.1.id))
    (l := rows.zipIdx)).map Prod.fst
  rwa [List.zipIdx_map_fst] at h

/-! ## Row by row -/

/-- A row is added to the rows that are kept unless its identifier is known. -/
theorem keep_firstCopies (rows : List Login) (l : Login) :
    Paging.keep (firstCopies rows) l = firstCopies (rows ++ [l]) := by
  rw [firstCopies_concat]
  unfold Paging.keep
  have hknown : ((firstCopies rows).any (·.id = l.id) = true)
      ↔ ¬ rows.all (·.id ≠ l.id) = true := by
    have h := isKnownIn_firstCopies l rows
    simpa [Login.IsKnownIn] using h
  by_cases hnew : rows.all (·.id ≠ l.id) = true
  · rw [if_pos hnew, if_neg (fun h => hknown.mp h hnew)]
  · rw [if_neg hnew, if_pos (hknown.mpr hnew), List.append_nil]

/-- Adding a page to the rows that are kept keeps what is kept of all rows. -/
theorem foldl_keep (rows page : List Login) :
    page.foldl Paging.keep (firstCopies rows) = firstCopies (rows ++ page) := by
  induction page generalizing rows with
  | nil => simp
  | cons l rest ih =>
    rw [List.foldl_cons, keep_firstCopies, ih, List.append_assoc, List.singleton_append]

/-- Rows are never taken away. -/
theorem length_le_foldl_keep (known page : List Login) :
    known.length ≤ (page.foldl Paging.keep known).length := by
  induction page generalizing known with
  | nil => exact Nat.le_refl _
  | cons l rest ih =>
    refine Nat.le_trans ?_ (ih (Paging.keep known l))
    unfold Paging.keep
    split <;> simp

/-- A page adds nothing exactly if all its identifiers are known. -/
theorem foldl_keep_length_eq_iff (known page : List Login) :
    (page.foldl Paging.keep known).length = known.length ↔ ∀ l ∈ page, l.IsKnownIn known := by
  induction page with
  | nil => simp
  | cons l rest ih =>
    rw [List.foldl_cons, List.forall_mem_cons, Paging.keep]
    by_cases hknown : l.IsKnownIn known
    · have hany : known.any (·.id = l.id) = true := by simpa [Login.IsKnownIn] using hknown
      rw [if_pos hany, ih, and_iff_right hknown]
    · -- a new identifier makes the rows longer, and they never get shorter again
      have hany : ¬ known.any (·.id = l.id) = true := by simpa [Login.IsKnownIn] using hknown
      have hlonger := length_le_foldl_keep (known ++ [l]) rest
      rw [List.length_append, List.length_singleton] at hlonger
      rw [if_neg hany]
      constructor
      · intro h
        omega
      · exact fun h => absurd h.1 hknown

end LoginVault
