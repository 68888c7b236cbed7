import LoginVault.Proofs.Paging.Reference
import LoginVault.Proofs.Paging.Written

/-!
# Paging.Inserts — lists while records are inserted

A store that shows its newest records first moves all rows behind those that are inserted, so a
page that is asked for by offset begins with rows that the pages before have shown. As long as
fewer records are inserted between two requests than a page holds, the pages leave no gap, and
each full page shows a row that no page before it has shown. So a list is what the store held at
first. With as many inserted as a page holds, the second page shows the rows of the first, and
the list ends there.

Main result: `Script.inserts_tolerated`.
-/

namespace LoginVault

/-! ## A store and its inserts -/

/-- The rows of the store at each request: at first those that it holds, and before the next
request those of `inserted` stand in front. -/
def rowsAt (held : List Login) (inserted : Nat → List Login) : Nat → List Login
  | 0 => held
  | i + 1 => inserted i ++ rowsAt held inserted i

/-- How many records are inserted before each request. -/
def insertedBefore (inserted : Nat → List Login) : Nat → Nat
  | 0 => 0
  | i + 1 => insertedBefore inserted i + (inserted i).length

section Store

variable (held : List Login) (inserted : Nat → List Login)

/-- The rows that the store held at first stand behind all that were inserted. -/
theorem rowsAt_eq_append (i : Nat) :
    ∃ front, rowsAt held inserted i = front ++ held ∧ front.length = insertedBefore inserted i := by
  induction i with
  | zero => exact ⟨[], rfl, rfl⟩
  | succ i ih =>
    rcases ih with ⟨front, hrows, hlength⟩
    refine ⟨inserted i ++ front, by simp [rowsAt, hrows], ?_⟩
    simp only [List.length_append, insertedBefore]
    omega

theorem length_rowsAt (i : Nat) :
    (rowsAt held inserted i).length = insertedBefore inserted i + held.length := by
  rcases rowsAt_eq_append held inserted i with ⟨front, hrows, hlength⟩
  rw [hrows, List.length_append, hlength]

variable {inserted}

/-- Behind the records that were inserted the rows are those that the store held at first. -/
theorem drop_rowsAt {i k : Nat} (h : insertedBefore inserted i ≤ k) :
    (rowsAt held inserted i).drop k = held.drop (k - insertedBefore inserted i) := by
  rcases rowsAt_eq_append held inserted i with ⟨front, hrows, hlength⟩
  rw [hrows, List.drop_append, hlength, List.drop_eq_nil_of_le (by omega), List.nil_append]

/-- With fewer inserts than a page holds, the requests are never behind them. -/
theorem insertedBefore_le {n : Nat} (few : ∀ i, (inserted i).length < n) (i : Nat) :
    insertedBefore inserted i ≤ i * n := by
  induction i with
  | zero => exact Nat.zero_le _
  | succ i ih =>
    have hfew := few i
    rw [insertedBefore, Nat.succ_mul]
    omega

end Store

/-! ## A page of rows that are known in part -/

/-- The next row of a store has an identifier that the rows before it do not have. -/
theorem keep_take_next {held : List Login} (distinct : (held.map (·.id)).Nodup) {k : Nat} {l : Login}
    (next : held[k]? = some l) : Paging.keep (held.take k) l = held.take (k + 1) := by
  have hsucc : held.take (k + 1) = held.take k ++ [l] := by
    rw [List.take_add_one, next]
    rfl
  have hnodup := ((held.take_sublist (k + 1)).map (·.id)).nodup distinct
  rw [hsucc, List.map_append, List.nodup_append] at hnodup
  have hnew : ¬ (held.take k).any (·.id = l.id) = true := by
    intro hknown
    rcases List.any_eq_true.mp hknown with ⟨x, hx, hid⟩
    exact hnodup.2.2 x.id (List.mem_map_of_mem hx) l.id (by simp) (by simpa using hid)
  rw [Paging.keep, if_neg hnew, hsucc]

/-- A row that was shown is not added again. -/
theorem keep_take_known {held : List Login} {a k : Nat} {l : Login} (row : held[k]? = some l)
    (known : k < a) : Paging.keep (held.take a) l = held.take a := by
  have hmem : l ∈ held.take a := by
    have hrow : (held.take a)[k]? = some l := by rw [List.getElem?_take_of_lt known, row]
    exact List.mem_of_getElem? hrow
  exact if_pos (List.any_eq_true.mpr ⟨l, hmem, by simp⟩)

/-- Of a page that begins among the known rows or right after them the rows are added that go
beyond. -/
theorem foldl_keep_take {held : List Login} (distinct : (held.map (·.id)).Nodup) {a b : Nat}
    (noGap : b ≤ a) (m : Nat) :
    ((held.drop b).take m).foldl Paging.keep (held.take a) = held.take (max a (b + m)) := by
  induction m with
  | zero => simp [noGap]
  | succ m ih =>
    rw [List.take_add_one, List.foldl_append, ih, List.getElem?_drop]
    cases hrow : held[b + m]? with
    | none =>
      -- the store has no further row
      have hend : held.length ≤ b + m := List.getElem?_eq_none_iff.mp hrow
      have hall : held.take (max a (b + m)) = held := List.take_of_length_le (by omega)
      have hall' : held.take (max a (b + (m + 1))) = held := List.take_of_length_le (by omega)
      rw [hall, hall']
      rfl
    | some l =>
      show Paging.keep (held.take (max a (b + m))) l = _
      rcases Nat.lt_or_ge (b + m) a with hknown | hbeyond
      · have hmax : max a (b + m) = a := by omega
        have hmax' : max a (b + (m + 1)) = a := by omega
        rw [hmax, hmax', keep_take_known hrow hknown]
      · have hmax : max a (b + m) = b + m := by omega
        have hmax' : max a (b + (m + 1)) = b + m + 1 := by omega
        rw [hmax, hmax', keep_take_next distinct hrow]

namespace Script

/-- The answer at this place is what a store answers that holds these rows: as many as were asked
for, from the offset of the request on, and the count of all. -/
def Serves (s : Script) (pageSize i : Nat) (rows : List Login) : Prop :=
  ∃ page, s.page? i = some page ∧ page.logins = (rows.drop (s.offset i)).take pageSize
    ∧ page.filtered = some (rows.length : Int)

/-- A store that is served has no more rows than a page can tell. -/
theorem Serves.length_lt {s : Script} {pageSize i : Nat} {rows : List Login}
    (serves : s.Serves pageSize i rows) : rows.length < 10 ^ Number.maxDigits := by
  rcases serves with ⟨page, hpage, -, told⟩
  rcases page?_eq_some_iff.mp hpage with ⟨r, -, hr⟩
  exact Response.page_filtered_short hr told

/-- Every request of a list is answered by a store that holds `held` at first and into which
`inserted` are inserted. -/
def ServedFrom (s : Script) (pageSize : Nat) (held : List Login) (inserted : Nat → List Login) :
    Prop :=
  ∀ i, s.Reaches pageSize i → s.Serves pageSize i (rowsAt held inserted i)

/-! ## Fewer inserts than a page holds -/

variable {s : Script} {n i : Nat} {held : List Login} {inserted : Nat → List Login}

/-- How far a list has come that has reached this request: it asks for the next full page, and
has read `shown` rows of those that the store held at first. The page that it asks for begins
among these rows or right after them, and goes beyond them if it is full. -/
structure Progress (s : Script) (n : Nat) (held : List Login) (inserted : Nat → List Login)
    (i shown : Nat) : Prop where
  offset : s.offset i = i * n
  rows : firstCopies (s.rowsBefore i) = held.take shown
  noGap : i * n ≤ shown + insertedBefore inserted i
  beyond : shown + insertedBefore inserted i < (i + 1) * n
  steady : i ≤ shown

/-- A page that a store serves, by the rows that the store held at first, and what is shown with
it. -/
theorem Progress.read {shown : Nat} (progress : Progress s n held inserted i shown)
    (distinct : (held.map (·.id)).Nodup) (few : ∀ i, (inserted i).length < n)
    (serves : s.Serves n i (rowsAt held inserted i)) :
    ∃ page, s.page? i = some page
      ∧ page.logins = (held.drop (i * n - insertedBefore inserted i)).take n
      ∧ page.filtered = some ((insertedBefore inserted i + held.length : Nat) : Int)
      ∧ firstCopies (s.rowsBefore (i + 1)) = held.take ((i + 1) * n - insertedBefore inserted i) := by
  rcases serves with ⟨page, hpage, hlogins, hfiltered⟩
  rw [progress.offset, drop_rowsAt held (insertedBefore_le few i)] at hlogins
  rw [length_rowsAt] at hfiltered
  refine ⟨page, hpage, hlogins, hfiltered, ?_⟩
  have hbehind := insertedBefore_le few i
  have hnoGap := progress.noGap
  have hbeyond := progress.beyond
  rw [Nat.succ_mul] at hbeyond ⊢
  have hmax : max shown (i * n - insertedBefore inserted i + n)
      = i * n + n - insertedBefore inserted i := by omega
  rw [rowsBefore_succ hpage, ← foldl_keep, progress.rows, hlogins,
    foldl_keep_take distinct (by omega), hmax]

/-- A page that does not end the list is full, leaves rows of the store to be shown, and leads to
the next request. -/
theorem Progress.step {shown : Nat} (progress : Progress s n held inserted i shown)
    (distinct : (held.map (·.id)).Nodup) (few : ∀ i, (inserted i).length < n)
    (serves : s.Serves n i (rowsAt held inserted i)) (goesOn : ¬ s.EndsAt n i) :
    ∃ more, Progress s n held inserted (i + 1) more ∧ more < held.length := by
  rcases progress.read distinct few serves with ⟨page, hpage, hlogins, hfiltered, hrows⟩
  have hfull : page.logins.length = n := by
    have hle : page.logins.length ≤ n := by
      rw [hlogins]
      exact List.length_take_le _ _
    have hge : ¬ page.logins.length < n := fun h => goesOn ⟨page, hpage, Or.inl h⟩
    omega
  have hoffset : s.offset (i + 1) = (i + 1) * n := by
    rw [offset_succ hpage, progress.offset, hfull, Nat.succ_mul]
  -- the count is not reached either, so the store has rows behind the page
  have hleft : (i + 1) * n < insertedBefore inserted i + held.length := by
    by_contra hreached
    refine goesOn ⟨page, hpage, Or.inr (Or.inr (Or.inl ⟨_, hfiltered, ?_⟩))⟩
    omega
  have hbehind := insertedBefore_le few i
  have hbeyond := progress.beyond
  have hsteady := progress.steady
  have hfew := few i
  -- at the next request at most `n - 1` more rows stand in front of those that are shown
  refine ⟨(i + 1) * n - insertedBefore inserted i, ⟨hoffset, hrows, ?_, ?_, ?_⟩, by omega⟩
  · rw [insertedBefore]
    omega
  · rw [insertedBefore, Nat.succ_mul (i + 1)]
    rw [Nat.succ_mul] at hbeyond hleft ⊢
    omega
  · omega

/-- A page that ends the list shows the last of the rows that the store held at first. -/
theorem Progress.ends {shown : Nat} (progress : Progress s n held inserted i shown)
    (distinct : (held.map (·.id)).Nodup) (few : ∀ i, (inserted i).length < n)
    (serves : s.Serves n i (rowsAt held inserted i)) (ends : s.EndsAt n i) :
    firstCopies (s.rowsBefore (i + 1)) = held := by
  rcases progress.read distinct few serves with ⟨page, hpage, hlogins, hfiltered, hrows⟩
  rw [hrows]
  refine List.take_of_length_le ?_
  have hbehind := insertedBefore_le few i
  have hbeyond := progress.beyond
  have hlength : page.logins.length = min n (held.length - (i * n - insertedBefore inserted i)) := by
    rw [hlogins, List.length_take, List.length_drop]
  rw [Nat.succ_mul] at hbeyond ⊢
  rcases ends with ⟨page', hpage', short | none | ⟨count, hcount, reached⟩ | known⟩
  all_goals obtain rfl : page = page' := Option.some.inj (hpage.symm.trans hpage')
  · -- a short page takes all rows that were left
    omega
  · cases none.symm.trans hfiltered
  · obtain rfl := Option.some.inj (hfiltered.symm.trans hcount)
    rw [offset_succ hpage, progress.offset] at reached
    omega
  · -- a page without new rows can only stand behind them all, since it begins among them
    have hsame := (length_firstCopies_succ_iff hpage).mpr known
    rw [hrows, progress.rows, List.length_take, List.length_take, Nat.succ_mul] at hsame
    omega

theorem progress_start (few : ∀ i, (inserted i).length < n) : Progress s n held inserted 0 0 := by
  have hfew := few 0
  refine ⟨by simp [offset], by simp [rowsBefore], ?_, ?_, Nat.le_refl 0⟩
  · simp [insertedBefore]
  · simp only [insertedBefore]
    omega

/-- How far a list has come that has reached a request. -/
theorem exists_progress (distinct : (held.map (·.id)).Nodup) (few : ∀ i, (inserted i).length < n)
    (served : s.ServedFrom n held inserted) {k : Nat} (reaches : s.Reaches n k) :
    ∃ shown, Progress s n held inserted k shown ∧ (k = 0 ∨ shown < held.length) := by
  induction k with
  | zero => exact ⟨0, progress_start few, Or.inl rfl⟩
  | succ k ih =>
    have hbefore : s.Reaches n k := fun i hi => reaches i (Nat.lt_succ_of_lt hi)
    rcases ih hbefore with ⟨shown, progress, -⟩
    rcases progress.step distinct few (served k hbefore) (reaches k (Nat.lt_succ_self k)).2 with
      ⟨more, hmore, hleft⟩
    exact ⟨more, hmore, Or.inr hleft⟩

/-- A list from a store that serves it ends with a page. -/
theorem exists_end (served : s.ServedFrom n held inserted) :
    ∃ k, s.Reaches n k ∧ s.EndsAt n k :=
  exists_endsAt fun i reaches => (served i reaches).imp fun _ h => h.1

/-- With fewer inserts between two requests than a page holds, a list is what the store held at
first, and it takes no more requests than this has rows. -/
theorem list_of_few_inserts (c : Client) (search : Option String)
    (distinct : (held.map (·.id)).Nodup) (few : ∀ i, (inserted i).length < c.config.pageSize)
    (served : s.ServedFrom c.config.pageSize held inserted) :
    ∃ k, k < max 1 held.length ∧ s.list c search = (.ok held, s.after c search k) := by
  rcases exists_end served with ⟨k, reaches, ends⟩
  rcases exists_progress distinct few served reaches with ⟨shown, progress, hleft⟩
  have hsteady := progress.steady
  refine ⟨k, by omega, ?_⟩
  rw [list_of_endsAt reaches ends, progress.ends distinct few (served k reaches) ends]

/-! ## As many inserts as a page holds -/

/-- With as many inserts between the first two requests as a page holds, the second page shows
the rows of the first, and the list ends without the rows behind them. -/
theorem list_of_page_of_inserts (c : Client) (search : Option String)
    (distinct : (held.map (·.id)).Nodup) (full : (inserted 0).length = c.config.pageSize)
    (more : c.config.pageSize < held.length)
    (served : s.ServedFrom c.config.pageSize held inserted) :
    s.list c search = (.ok (held.take c.config.pageSize), s.after c search 1) := by
  have hpos := c.config.pageSize_pos
  generalize hn : c.config.pageSize = n at full more served hpos ⊢
  have reachesFirst : s.Reaches n 0 := fun i hi => absurd hi (Nat.not_lt_zero i)
  -- the first page is full and leaves rows behind it
  rcases served 0 reachesFirst with ⟨first, hfirst, hlogins, hfiltered⟩
  have hrowsFirst : first.logins = held.take n := by simpa [offset, rowsAt] using hlogins
  have hlength : first.logins.length = n := by
    rw [hrowsFirst, List.length_take]
    omega
  have hoffset : s.offset 1 = n := by
    rw [offset_succ hfirst, hlength]
    exact Nat.zero_add n
  have hshown : firstCopies (s.rowsBefore 1) = held.take n := by
    have hstart : firstCopies (s.rowsBefore 0) = held.take 0 := by simp [rowsBefore]
    have hpage : first.logins = (held.drop 0).take n := by simpa using hrowsFirst
    rw [rowsBefore_succ hfirst, ← foldl_keep, hstart, hpage,
      foldl_keep_take distinct (Nat.le_refl 0), Nat.zero_add, Nat.zero_max]
  have goesOn : ¬ s.EndsAt n 0 := by
    rintro ⟨page, hpage, short | none | ⟨count, hcount, reached⟩ | known⟩
    all_goals obtain rfl : first = page := Option.some.inj (hfirst.symm.trans hpage)
    · omega
    · cases none.symm.trans hfiltered
    · obtain rfl := Option.some.inj (hfiltered.symm.trans hcount)
      rw [hoffset] at reached
      simp only [rowsAt] at reached
      omega
    · have hsame := (length_firstCopies_succ_iff hfirst).mpr known
      rw [hshown, List.length_take] at hsame
      simp only [rowsBefore, List.range_zero, List.flatMap_nil, firstCopies_nil,
        List.length_nil] at hsame
      omega
  have reachesSecond : s.Reaches n 1 := by
    intro i hi
    obtain rfl : i = 0 := by omega
    exact ⟨Option.isSome_iff_exists.mpr ⟨first, hfirst⟩, goesOn⟩
  -- the second page begins right behind the records that were inserted
  rcases served 1 reachesSecond with ⟨second, hsecond, hlogins, -⟩
  have hrowsSecond : second.logins = (held.drop 0).take n := by
    rw [hlogins, hoffset, drop_rowsAt held (by simp [insertedBefore, full])]
    simp [insertedBefore, full]
  have hshownAll : firstCopies (s.rowsBefore 2) = held.take n := by
    rw [rowsBefore_succ hsecond, ← foldl_keep, hshown, hrowsSecond,
      foldl_keep_take distinct (Nat.zero_le n), Nat.zero_add, Nat.max_self]
  have ends : s.EndsAt n 1 := by
    refine ⟨second, hsecond, Or.inr (Or.inr (Or.inr ?_))⟩
    exact (length_firstCopies_succ_iff hsecond).mp (by rw [hshown, hshownAll])
  subst hn
  rw [list_of_endsAt reachesSecond ends, hshownAll]

/-! ## A store that loses a row -/

/-- The first page of a store with the numbers from one to `m + 2`, of which it shows all but the
last. -/
def firstRows (m : Nat) : List Login := (1 :: List.range' 2 m).map Written.numbered

/-- What that store holds. -/
def heldRows (m : Nat) : List Login := firstRows m ++ [Written.numbered (m + 2)]

/-- The rows that are inserted after the first request: as many as a page holds. -/
def insertedRows (m : Nat) : Nat → List Login
  | 0 => (List.range' (m + 3) (m + 1)).map Written.numbered
  | _ + 1 => []

/-- What the store answers to the first two requests, in octets. -/
def losing (m : Nat) : Script := ofAnswers
  [.response (Written.response 1 (List.range' 2 m) (m + 2)),
    .response (Written.response 1 (List.range' 2 m) (2 * m + 3))]

theorem length_firstRows (m : Nat) : (firstRows m).length = m + 1 := by
  simp [firstRows]

/-- All records of the store are different. -/
theorem nodup_heldRows (m : Nat) : ((insertedRows m 0 ++ heldRows m).map (·.id)).Nodup := by
  have hnumbers : (List.range' (m + 3) (m + 1) ++ (1 :: List.range' 2 m ++ [m + 2])).Nodup := by
    have hrest : (List.range' 2 m).Nodup := List.nodup_range'
    have hinserted : (List.range' (m + 3) (m + 1)).Nodup := List.nodup_range'
    rw [List.nodup_append, List.nodup_append, List.nodup_cons]
    refine ⟨hinserted, ⟨⟨?_, hrest⟩, by simp, ?_⟩, ?_⟩
    · rw [List.mem_range'_1]
      omega
    · intro a ha b hb
      simp only [List.mem_cons, List.mem_range'_1, List.not_mem_nil, or_false] at ha hb
      omega
    · intro a ha b hb
      simp only [List.mem_append, List.mem_cons, List.mem_range'_1, List.not_mem_nil, or_false]
        at ha hb
      omega
  -- different numbers make different identifiers
  have hinjective : Function.Injective fun k : Nat => LoginId.number k := by
    intro a b h
    simpa using h
  have hids : (insertedRows m 0 ++ heldRows m).map (·.id)
      = (List.range' (m + 3) (m + 1) ++ (1 :: List.range' 2 m ++ [m + 2])).map
        fun k : Nat => LoginId.number k := by
    simp [insertedRows, heldRows, firstRows, Written.numbered, Function.comp_def]
  rw [hids]
  exact hnumbers.map hinjective

theorem page?_losing {m : Nat} (small : 2 * m + 3 < 10 ^ Number.maxDigits) :
    (losing m).page? 0 = some ⟨firstRows m, none, some ((m + 2 : Nat) : Int)⟩
      ∧ (losing m).page? 1 = some ⟨firstRows m, none, some ((2 * m + 3 : Nat) : Int)⟩ := by
  have hshort {k : Nat} (le : k ≤ 2 * m + 3) : Number.Short k := Nat.lt_of_le_of_lt le small
  have hids : ∀ id ∈ 1 :: List.range' 2 m, Number.Short id := by
    intro id hid
    rw [List.mem_cons, List.mem_range'_1] at hid
    exact hshort (by omega)
  have hpage {count : Nat} (le : count ≤ 2 * m + 3) :
      (Written.response 1 (List.range' 2 m) count).page.toOption
        = some ⟨firstRows m, none, some (count : Int)⟩ := by
    rw [Written.page_response hids (hshort le)]
    rfl
  exact ⟨hpage (by omega), hpage (Nat.le_refl _)⟩

/-- It answers all requests of a list that asks for so many rows at a time. -/
theorem losing_served {m : Nat} (small : 2 * m + 3 < 10 ^ Number.maxDigits) :
    (losing m).ServedFrom (m + 1) (heldRows m) (insertedRows m) := by
  rcases page?_losing small with ⟨hfirst, hsecond⟩
  have hlength := length_firstRows m
  have htake : (heldRows m).take (m + 1) = firstRows m := by
    rw [heldRows, ← hlength, List.take_left]
  have hoffset : (losing m).offset 1 = m + 1 := by
    rw [offset_succ hfirst, hlength]
    exact Nat.zero_add _
  intro i reaches
  match i with
  | 0 =>
    refine ⟨_, hfirst, ?_, ?_⟩
    · simp only [offset, rowsAt, List.drop_zero]
      exact htake.symm
    · simp only [rowsAt, heldRows, List.length_append, hlength, List.length_singleton]
  | 1 =>
    refine ⟨_, hsecond, ?_, ?_⟩
    · rw [hoffset, drop_rowsAt _ (by simp [insertedBefore, insertedRows])]
      simpa [insertedBefore, insertedRows] using htake.symm
    · rw [length_rowsAt]
      have hheld : (heldRows m).length = m + 2 := by simp [heldRows, hlength]
      have hinserted : insertedBefore (insertedRows m) 1 = m + 1 := by
        simp [insertedBefore, insertedRows]
      have hcount : m + 1 + (m + 2) = 2 * m + 3 := by omega
      rw [hheld, hinserted, hcount]
  | i + 2 =>
    -- the second page ends the list, because the first has shown all its rows
    refine absurd ?_ (reaches 1 (by omega)).2
    refine ⟨_, hsecond, Or.inr (Or.inr (Or.inr fun l hl => ⟨l, ?_, rfl⟩))⟩
    rw [rowsBefore_succ hfirst]
    exact List.mem_append_right _ hl

/-! ## Lists and inserts -/

/-- What can be said of the lists of a client, while records are inserted at the front of the
store. -/
structure InsertsTolerated (c : Client) : Prop where
  /-- With fewer inserts between any two requests than a page holds, a list is exactly what the
  store held when it answered the first. No insert need be new for that. -/
  complete : ∀ (s : Script) search held inserted, (held.map (·.id)).Nodup →
    (∀ i, (inserted i).length < c.config.pageSize) →
    s.ServedFrom c.config.pageSize held inserted →
    ∃ k, k < max 1 held.length ∧ s.list c search = (.ok held, s.after c search k)
  /-- With as many inserts between the first two requests as a page holds, a list ends with the
  second and lacks all that the store held behind its first page. -/
  tight : ∀ (s : Script) search held inserted, (held.map (·.id)).Nodup →
    (inserted 0).length = c.config.pageSize → c.config.pageSize < held.length →
    s.ServedFrom c.config.pageSize held inserted →
    s.list c search = (.ok (held.take c.config.pageSize), s.after c search 1)
      ∧ ∃ lost ∈ held, lost ∉ held.take c.config.pageSize
  /-- A number of more digits than are read is no answer: at no request has the store more rows
  than can be told. -/
  told : ∀ (s : Script) i rows, s.Serves c.config.pageSize i rows →
    rows.length < 10 ^ Number.maxDigits
  /-- Within this bound there is a store as in `tight` for every page size: one that holds a row
  more than a page, and at the second request two pages and a row. -/
  loses : 2 * c.config.pageSize + 1 < 10 ^ Number.maxDigits →
    ∃ (s : Script) (held : List Login) (inserted : Nat → List Login),
      ((inserted 0 ++ held).map (·.id)).Nodup ∧ (inserted 0).length = c.config.pageSize
      ∧ s.ServedFrom c.config.pageSize held inserted
      ∧ ∀ search, ∃ logins, (s.list c search).1 = .ok logins ∧ ∃ lost ∈ held, lost ∉ logins

/-- Of different rows that are more than a page holds, the first page lacks one. -/
theorem exists_lost (distinct : (held.map (·.id)).Nodup) (more : n < held.length) :
    ∃ lost ∈ held, lost ∉ held.take n := by
  refine ⟨held[n], List.getElem_mem more, fun hmem => ?_⟩
  rcases List.mem_take_iff_getElem.mp hmem with ⟨j, hj, heq⟩
  have hjn : j = n := (List.Nodup.of_map _ distinct).getElem_inj_iff.mp heq
  omega

/-- Lists tolerate fewer inserts between two requests than a page holds, and no more. -/
theorem inserts_tolerated (c : Client) : InsertsTolerated c where
  complete := fun s search held inserted distinct few served =>
    list_of_few_inserts c search distinct few served
  tight := fun s search held inserted distinct full more served =>
    ⟨list_of_page_of_inserts c search distinct full more served, exists_lost distinct more⟩
  told := fun _ _ _ serves => serves.length_lt
  loses := by
    intro small
    obtain ⟨m, hm⟩ : ∃ m, c.config.pageSize = m + 1 :=
      ⟨c.config.pageSize - 1, by have hpos := c.config.pageSize_pos; omega⟩
    have hall := nodup_heldRows m
    have distinct : ((heldRows m).map (·.id)).Nodup := by
      rw [List.map_append] at hall
      exact (List.nodup_append.mp hall).2.1
    have full : (insertedRows m 0).length = c.config.pageSize := by simp [insertedRows, hm]
    have more : c.config.pageSize < (heldRows m).length := by
      simp [heldRows, length_firstRows, hm]
    have served : (losing m).ServedFrom c.config.pageSize (heldRows m) (insertedRows m) :=
      hm ▸ losing_served (by omega)
    refine ⟨losing m, heldRows m, insertedRows m, hall, full, served, fun search => ?_⟩
    rw [list_of_page_of_inserts c search distinct full more served]
    exact ⟨_, rfl, exists_lost distinct more⟩

/-- A list of three rows, two at a time. With one insert after the first page the second shows a
row again, with two it shows nothing new, and the last row is lost. -/
theorem inserts_tolerated_at_two :
    let client : Client := ⟨⟨"http://localhost:3625", .whole 30, 2, by decide⟩, ""⟩
    let row (id : String) := "\x7b\"ID\":" ++ id ++ "\x7d"
    let page (first second count : String) : Answer := .response ⟨200, ("\x7b\"Data\":["
      ++ row first ++ "," ++ row second ++ "],\"FilteredData\":" ++ count ++ "\x7d").toUTF8.data.toList⟩
    let listed (answers : List Answer) := ((ofAnswers answers).list client none).1.toOption
    InsertsTolerated client
      ∧ listed [page "3" "2" "3", page "2" "1" "4"] = some ([3, 2, 1].map Written.numbered)
      ∧ listed [page "3" "2" "3", page "3" "2" "5"] = some ([3, 2].map Written.numbered) := by
  refine ⟨inserts_tolerated _, ?_, ?_⟩
  · decide +kernel
  · decide +kernel

end Script

end LoginVault
