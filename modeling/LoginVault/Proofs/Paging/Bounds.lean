import LoginVault.Proofs.Paging.Lenient

/-!
# Paging.Bounds — how long a list can go on

Whatever a store answers, a list goes on only after a page that is full, that leaves the count it
tells unreached, and that brings an identifier no page before it has brought. So two numbers grow
with every request: the rows that were read, by a full page at least, and the identifiers that
are known, by one at least. A bound on the counts that the store tells bounds the first, a bound
on the identifiers that it gives bounds the second.

Nothing here supposes that the answers are those of one collection, or that they are what was
asked for. What a list does is settled by the answers to its requests (`Script.EndsAfter`), so
there is no need to say how many more the script holds.

Main result: `Script.list_bounds`.
-/

namespace LoginVault

/-- More rows have no fewer first copies. -/
theorem length_firstCopies_le_append (rows page : List Login) :
    (firstCopies rows).length ≤ (firstCopies (rows ++ page)).length := by
  rw [← foldl_keep]
  exact length_le_foldl_keep _ _

/-- First copies of rows whose identifiers are all in a set are no more than its elements. -/
theorem length_firstCopies_le_card {rows : List Login} {ids : Finset LoginId}
    (drawn : ∀ l ∈ rows, l.id ∈ ids) : (firstCopies rows).length ≤ ids.card := by
  have hsubset : ((firstCopies rows).map (·.id)).toFinset ⊆ ids := by
    intro id hid
    rcases List.mem_map.mp (List.mem_toFinset.mp hid) with ⟨l, hl, rfl⟩
    exact drawn l ((firstCopies_sublist rows).subset hl)
  calc (firstCopies rows).length
      = ((firstCopies rows).map (·.id)).toFinset.card := by
        rw [List.toFinset_card_of_nodup (nodup_firstCopies rows), List.length_map]
    _ ≤ ids.card := Finset.card_le_card hsubset

namespace Script

/-- No count that a list gets to see is above this one. -/
def TellsAtMost (s : Script) (pageSize : Nat) (most : Int) : Prop :=
  ∀ i, s.Reaches pageSize i → ∀ page, s.page? i = some page →
    ∀ count, page.filtered = some count → count ≤ most

/-- All rows that a list gets to see have their identifiers in this set. -/
def DrawsFrom (s : Script) (pageSize : Nat) (ids : Finset LoginId) : Prop :=
  ∀ i, s.Reaches pageSize i → ∀ page, s.page? i = some page → ∀ l ∈ page.logins, l.id ∈ ids

section Growth

variable {s : Script} {n k : Nat} {most : Int} {ids : Finset LoginId}

theorem Reaches.of_le {j : Nat} (reaches : s.Reaches n k) (h : j ≤ k) : s.Reaches n j :=
  fun i hi => reaches i (Nat.lt_of_lt_of_le hi h)

/-- The page before a request that is reached has all that it takes to go on. -/
theorem Reaches.page (reaches : s.Reaches n (k + 1)) :
    ∃ page count, s.page? k = some page ∧ n ≤ page.logins.length
      ∧ page.filtered = some count ∧ (s.offset (k + 1) : Int) < count
      ∧ ∃ l ∈ page.logins, ¬ l.IsKnownIn (s.rowsBefore k) := by
  rcases reaches k (Nat.lt_succ_self k) with ⟨hsome, goesOn⟩
  obtain ⟨page, hpage⟩ := Option.isSome_iff_exists.mp hsome
  -- each of the four ways to end the list is out
  have hends : ¬ (page.logins.length < n ∨ page.filtered = none
      ∨ (∃ count, page.filtered = some count ∧ count ≤ s.offset (k + 1))
      ∨ ∀ l ∈ page.logins, l.IsKnownIn (s.rowsBefore k)) :=
    fun h => goesOn ⟨page, hpage, h⟩
  simp only [not_or, Nat.not_lt, not_exists, not_and, not_forall] at hends
  obtain ⟨hfull, htold, hleft, l, hl, hnew⟩ := hends
  obtain ⟨count, hcount⟩ := Option.ne_none_iff_exists'.mp htold
  exact ⟨page, count, hpage, hfull, hcount, by have := hleft count hcount; omega, l, hl, hnew⟩

/-- With each request a full page was read. -/
theorem Reaches.full (reaches : s.Reaches n k) : k * n ≤ s.offset k := by
  induction k with
  | zero => simp
  | succ k ih =>
    obtain ⟨page, -, hpage, hfull, -⟩ := reaches.page
    have hbefore := ih (reaches.of_le (Nat.le_succ k))
    rw [offset_succ hpage, Nat.succ_mul]
    omega

/-- With each request an identifier became known. -/
theorem Reaches.fresh (reaches : s.Reaches n k) : k ≤ (firstCopies (s.rowsBefore k)).length := by
  induction k with
  | zero => exact Nat.zero_le _
  | succ k ih =>
    obtain ⟨page, -, hpage, -, -, -, l, hl, hnew⟩ := reaches.page
    have hbefore := ih (reaches.of_le (Nat.le_succ k))
    have hmore : (firstCopies (s.rowsBefore k)).length
        ≤ (firstCopies (s.rowsBefore (k + 1))).length := by
      rw [rowsBefore_succ hpage]
      exact length_firstCopies_le_append _ _
    have hne : (firstCopies (s.rowsBefore (k + 1))).length
        ≠ (firstCopies (s.rowsBefore k)).length := fun heq =>
      hnew ((length_firstCopies_succ_iff hpage).mp heq l hl)
    omega

/-- A list that was told of no more than so many rows has not read them all. -/
theorem TellsAtMost.requests_le (tells : s.TellsAtMost n most) (reaches : s.Reaches n k)
    (pos : 0 < n) : k + 1 ≤ max 1 (pagesFor most.toNat n) := by
  cases k with
  | zero => exact Nat.le_max_left _ _
  | succ k =>
    obtain ⟨page, count, hpage, -, hcount, hleft, -⟩ := reaches.page
    have hmost := tells k (reaches.of_le (Nat.le_succ k)) page hpage count hcount
    have hfull : (k + 1) * n + 1 ≤ most.toNat := by
      have := reaches.full
      omega
    -- one row beyond so many full pages takes another page
    have hpages : k + 1 + 1 ≤ pagesFor most.toNat n := by
      refine (Nat.le_div_iff_mul_le pos).mpr ?_
      rw [Nat.succ_mul]
      omega
    omega

theorem DrawsFrom.mem_rowsBefore (draws : s.DrawsFrom n ids) (reaches : s.Reaches n k) :
    ∀ l ∈ s.rowsBefore k, l.id ∈ ids := by
  induction k with
  | zero =>
    intro l hl
    simp [rowsBefore] at hl
  | succ k ih =>
    intro l hl
    obtain ⟨page, -, hpage, -⟩ := reaches.page
    have hbefore := reaches.of_le (Nat.le_succ k)
    rw [rowsBefore_succ hpage] at hl
    rcases List.mem_append.mp hl with hold | hnew
    · exact ih hbefore l hold
    · exact draws k hbefore page hpage l hnew

/-- A list has not come further than there are identifiers. -/
theorem DrawsFrom.requests_le (draws : s.DrawsFrom n ids) (reaches : s.Reaches n k) :
    k + 1 ≤ ids.card + 1 := by
  have hknown := length_firstCopies_le_card (draws.mem_rowsBefore reaches)
  have hfresh := reaches.fresh
  omega

end Growth

/-! ## What the answers settle -/

/-- Two scripts that answer the first requests alike. -/
def AgreesUpTo (s s' : Script) (k : Nat) : Prop := ∀ i < k, s'.answer i = s.answer i

namespace AgreesUpTo

variable {s s' : Script} {n k i : Nat} {search : Option String}

theorem of_le {j : Nat} (agrees : s.AgreesUpTo s' k) (h : j ≤ k) : s.AgreesUpTo s' j :=
  fun i hi => agrees i (Nat.lt_of_lt_of_le hi h)

theorem page? (agrees : s.AgreesUpTo s' k) (h : i < k) : s'.page? i = s.page? i := by
  unfold Script.page?
  rw [agrees i h]

theorem rowsBefore (agrees : s.AgreesUpTo s' k) : s'.rowsBefore k = s.rowsBefore k := by
  have hrows : ∀ i ∈ List.range k, s'.rows i = s.rows i := by
    intro i hi
    unfold Script.rows
    rw [agrees.page? (List.mem_range.mp hi)]
  unfold Script.rowsBefore
  rw [List.flatMap_def, List.flatMap_def, List.map_congr_left hrows]

theorem offset (agrees : s.AgreesUpTo s' k) : s'.offset k = s.offset k := by
  induction k with
  | zero => rfl
  | succ k ih =>
    have hpage := agrees.page? (Nat.lt_succ_self k)
    simp only [Script.offset, Script.rows, hpage, ih (agrees.of_le (Nat.le_succ k))]

theorem endsAt_iff (agrees : s.AgreesUpTo s' (k + 1)) : s'.EndsAt n k ↔ s.EndsAt n k := by
  have hpage := agrees.page? (Nat.lt_succ_self k)
  have hrows := (agrees.of_le (Nat.le_succ k)).rowsBefore
  simp only [EndsAt, hpage, hrows, agrees.offset]

theorem reaches (agrees : s.AgreesUpTo s' k) (h : s.Reaches n k) : s'.Reaches n k := by
  intro i hi
  rcases h i hi with ⟨hsome, goesOn⟩
  rw [agrees.page? hi, (agrees.of_le hi).endsAt_iff]
  exact ⟨hsome, goesOn⟩

theorem failsAt {f : Failure} (agrees : s.AgreesUpTo s' (k + 1)) (fails : s.FailsAt search n k f) :
    s'.FailsAt search n k f := by
  have hoffset := (agrees.of_le (Nat.le_succ k)).offset
  unfold FailsAt Script.query at *
  rw [agrees k (Nat.lt_succ_self k), hoffset]
  exact fails

theorem sentBefore (agrees : s.AgreesUpTo s' k) (sent : s'.sent = s.sent) (c : Client)
    (search : Option String) : s'.sentBefore c search k = s.sentBefore c search k := by
  have hqueries : ∀ j ∈ List.range k, c.request (s'.query search c.config.pageSize j)
      = c.request (s.query search c.config.pageSize j) := by
    intro j hj
    unfold Script.query
    rw [(agrees.of_le (Nat.le_of_lt (List.mem_range.mp hj))).offset]
  unfold Script.sentBefore
  rw [sent, List.map_congr_left hqueries]

end AgreesUpTo

/-- A list that is over after this many requests. -/
structure EndsAfter (s : Script) (c : Client) (search : Option String) (requests : Nat) :
    Prop where
  /-- It sends them, each for the rows after those that were read before, and no more. -/
  sends : (s.list c search).2 = ⟨s.answers.drop requests, s.sentBefore c search requests⟩
  /-- It waits for no further answer: whatever there would be past these, it gives and sends the
  same. -/
  settled : ∀ s' : Script, s'.sent = s.sent → s.AgreesUpTo s' requests →
    (s'.list c search).1 = (s.list c search).1
      ∧ (s'.list c search).2.sent = (s.list c search).2.sent

/-- Every list is over after the request that is the last one to be reached. -/
theorem exists_endsAfter (s : Script) (c : Client) (search : Option String) :
    ∃ k, s.Reaches c.config.pageSize k ∧ s.EndsAfter c search (k + 1) := by
  obtain ⟨k, reaches, hlast⟩ := s.exists_last search c.config.pageSize
  refine ⟨k, reaches, ?_, ?_⟩
  · rcases hlast with ends | ⟨f, fails⟩
    · rw [list_of_endsAt reaches ends, after]
    · rw [list_of_failsAt reaches fails, after]
  · intro s' sent agrees
    have hreaches := (agrees.of_le (Nat.le_succ k)).reaches reaches
    have hsent := agrees.sentBefore sent c search
    rcases hlast with ends | ⟨f, fails⟩
    · rw [list_of_endsAt reaches ends, list_of_endsAt hreaches (agrees.endsAt_iff.mpr ends),
        agrees.rowsBefore]
      exact ⟨rfl, hsent⟩
    · rw [list_of_failsAt reaches fails, list_of_failsAt hreaches (agrees.failsAt fails)]
      exact ⟨rfl, hsent⟩

/-! ## The bounds -/

/-- What bounds the lists of a client, whatever the answers are. -/
structure ListBounds (c : Client) : Prop where
  /-- If no count is told above this one, a list sends at most as many requests as pages hold so
  many rows, and at least one. -/
  counted : ∀ (s : Script) search (most : Int), s.TellsAtMost c.config.pageSize most →
    ∃ requests ≤ max 1 (pagesFor most.toNat c.config.pageSize), s.EndsAfter c search requests
  /-- If all rows have their identifiers in this set, a list sends at most one request more than
  the set has elements. -/
  drawn : ∀ (s : Script) search (ids : Finset LoginId), s.DrawsFrom c.config.pageSize ids →
    ∃ requests ≤ ids.card + 1, s.EndsAfter c search requests

/-- Every list ends within both bounds. -/
theorem list_bounds (c : Client) : ListBounds c where
  counted := by
    intro s search most tells
    obtain ⟨k, reaches, ends⟩ := s.exists_endsAfter c search
    exact ⟨k + 1, tells.requests_le reaches c.config.pageSize_pos, ends⟩
  drawn := by
    intro s search ids draws
    obtain ⟨k, reaches, ends⟩ := s.exists_endsAfter c search
    exact ⟨k + 1, draws.requests_le reaches, ends⟩

/-- Of a store that tells of seven rows at most a list asks four pages of two, and of one that
gives out three identifiers four as well, though it tells of nine rows. Both bounds are met. -/
theorem list_bounds_met :
    let client : Client := ⟨⟨"http://localhost:3625", .whole 30, 2, by decide⟩, ""⟩
    let page (first second count : Nat) : Answer :=
      .response (Written.response first [second] count)
    let telling := ofAnswers [page 1 2 7, page 4 3 6, page 5 6 7, page 8 7 7]
    let drawing := ofAnswers [page 1 1 9, page 2 1 8, page 2 3 9, page 3 1 9]
    let ids : Finset LoginId := {.number 1, .number 2, .number 3}
    let asked (s : Script) := (s.list client none).2.sent.map (·.query)
    (telling.TellsAtMost 2 7
        ∧ ∃ requests ≤ max 1 (pagesFor 7 2), telling.EndsAfter client none requests)
      ∧ asked telling = [.page none 2 0, .page none 2 2, .page none 2 4, .page none 2 6]
      ∧ (drawing.DrawsFrom 2 ids
        ∧ ∃ requests ≤ ids.card + 1, drawing.EndsAfter client none requests)
      ∧ asked drawing = [.page none 2 0, .page none 2 2, .page none 2 4, .page none 2 6] := by
  intro client page telling drawing ids asked
  have hcounts : ∀ i < 4, ∀ page ∈ telling.page? i, ∀ count ∈ page.filtered, count ≤ 7 := by
    decide +kernel
  have hids : ∀ i < 4, ∀ page ∈ drawing.page? i, ∀ l ∈ page.logins, l.id ∈ ids := by
    decide +kernel
  have tells : telling.TellsAtMost 2 7 := fun i _ page hpage count hcount =>
    hcounts i (lt_of_page? hpage) page hpage count hcount
  have draws : drawing.DrawsFrom 2 ids := fun i _ page hpage l hl =>
    hids i (lt_of_page? hpage) page hpage l hl
  refine ⟨⟨tells, (list_bounds client).counted telling none 7 tells⟩, ?_,
    ⟨draws, (list_bounds client).drawn drawing none ids draws⟩, ?_⟩
  · decide +kernel
  · decide +kernel

end Script

end LoginVault
