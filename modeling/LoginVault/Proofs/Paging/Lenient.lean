import LoginVault.Proofs.Paging.Inserts

/-!
# Paging.Lenient — lists from a store that answers freely

A store need not keep to the limit of a request, nor tell how many logins it holds. It may
answer with more rows than it was asked for, and tell of more than there are. As long as a page
begins at the offset of its request, and is short only if it takes all that is left, the pages
read so far are the first rows of the store, as many as the next offset says. So a list is all
that the store holds. Every page but the last holds as many rows as were asked for, which bounds
the requests.

Main result: `Script.whole_collection`.
-/

namespace LoginVault

/-- Rows without an identifier twice are their own first copies. -/
theorem firstCopies_of_nodup {rows : List Login} (distinct : (rows.map (·.id)).Nodup) :
    firstCopies rows = rows := by
  have h := foldl_keep_take distinct (Nat.le_refl 0) rows.length
  have hfold := foldl_keep [] rows
  simp only [firstCopies_nil, List.nil_append] at hfold
  simpa [hfold] using h

/-- Rows of a store that stand behind others are none of them. -/
theorem eq_nil_of_known {held : List Login} (distinct : (held.map (·.id)).Nodup) {o m : Nat}
    (known : ∀ l ∈ (held.drop o).take m, l.IsKnownIn (held.take o)) :
    (held.drop o).take m = [] := by
  have hadded := (foldl_keep_length_eq_iff (held.take o) _).mpr known
  rw [foldl_keep_take distinct (Nat.le_refl o), List.length_take, List.length_take] at hadded
  refine List.eq_nil_of_length_eq_zero ?_
  rw [List.length_take, List.length_drop]
  omega

/-- How many pages of this size hold so many rows, the last perhaps in part. -/
def pagesFor (rows pageSize : Nat) : Nat := (rows + pageSize - 1) / pageSize

/-- Full pages that leave a row, and no more rows than a page further holds. -/
theorem pagesFor_eq {rows n k : Nat} (left : k * n < rows) (most : rows ≤ (k + 1) * n) :
    pagesFor rows n = k + 1 := by
  rw [Nat.succ_mul] at most
  refine Nat.div_eq_of_lt_le ?_ ?_
  · rw [Nat.succ_mul]
    omega
  · rw [Nat.succ_mul, Nat.succ_mul]
    omega

/-- Rows that fill so many pages take at least as many. -/
theorem le_pagesFor {rows n k : Nat} (pos : 0 < n) (full : k * n ≤ rows) : k ≤ pagesFor rows n :=
  (Nat.le_div_iff_mul_le pos).mpr (by omega)

namespace Script

/-- The answer at this place is what a lenient store answers that holds these rows: a part of
them from the offset of the request on, with at least as many as were asked for or else all that
are left, and a count that is no less than theirs. -/
def ServesLeniently (s : Script) (pageSize i : Nat) (held : List Login) : Prop :=
  ∃ page m, s.page? i = some page ∧ page.logins = (held.drop (s.offset i)).take m
    ∧ min pageSize (held.length - s.offset i) ≤ m ∧ m ≤ held.length - s.offset i
    ∧ ∃ count, page.filtered = some count ∧ (held.length : Int) ≤ count

/-- The answer at this place has exactly as many rows as were asked for, or else all that are
left, but tells of more rows than the store holds. -/
def Overtells (s : Script) (pageSize i : Nat) (held : List Login) : Prop :=
  ∃ page, s.page? i = some page ∧ page.logins = (held.drop (s.offset i)).take pageSize
    ∧ ∃ count, page.filtered = some count ∧ (held.length : Int) < count

section Place

variable {s : Script} {n i : Nat} {held : List Login}

/-- A page that keeps to the limit of its request is one of a lenient store. -/
theorem servesLeniently_of_limit {page : LoginPage} {count : Int} (hpage : s.page? i = some page)
    (hlogins : page.logins = (held.drop (s.offset i)).take n) (hcount : page.filtered = some count)
    (enough : (held.length : Int) ≤ count) : s.ServesLeniently n i held := by
  refine ⟨page, min n (held.length - s.offset i), hpage, ?_, Nat.le_refl _, Nat.min_le_right _ _,
    count, hcount, enough⟩
  rw [hlogins, ← List.length_drop, ← List.take_eq_take_min]

theorem Serves.leniently (serves : s.Serves n i held) : s.ServesLeniently n i held := by
  rcases serves with ⟨page, hpage, hlogins, hcount⟩
  exact servesLeniently_of_limit hpage hlogins hcount (Int.le_refl _)

theorem Overtells.leniently (overtells : s.Overtells n i held) : s.ServesLeniently n i held := by
  rcases overtells with ⟨page, hpage, hlogins, count, hcount, more⟩
  exact servesLeniently_of_limit hpage hlogins hcount (Int.le_of_lt more)

/-- A number of more digits than are read is no count, so a store that is served has no more rows
than a page can tell. -/
theorem ServesLeniently.length_lt (serves : s.ServesLeniently n i held) :
    held.length < 10 ^ Number.maxDigits := by
  rcases serves with ⟨page, -, hpage, -, -, -, count, told, enough⟩
  rcases page?_eq_some_iff.mp hpage with ⟨r, -, hr⟩
  obtain ⟨m, rfl⟩ : ∃ m : Nat, count = m := Int.eq_ofNat_of_zero_le (by omega)
  have hshort : m < 10 ^ Number.maxDigits := Response.page_filtered_short hr told
  omega

/-! ## What is read so far -/

/-- How far a list has come that has reached this request: it has read the first rows of the
store, as many as its offset says, and with each request no fewer than a page holds. -/
structure HasPrefix (s : Script) (n : Nat) (held : List Login) (i : Nat) : Prop where
  rows : s.rowsBefore i = held.take (s.offset i)
  bounded : s.offset i ≤ held.length
  full : i * n ≤ s.offset i

theorem hasPrefix_zero (s : Script) (n : Nat) (held : List Login) : s.HasPrefix n held 0 :=
  ⟨by simp [rowsBefore, offset], Nat.zero_le _, by simp [offset]⟩

/-- A page of a lenient store takes the rows that follow. -/
theorem HasPrefix.read (reading : s.HasPrefix n held i) (serves : s.ServesLeniently n i held) :
    ∃ page m, s.page? i = some page ∧ page.logins = (held.drop (s.offset i)).take m
      ∧ page.logins.length = m ∧ min n (held.length - s.offset i) ≤ m
      ∧ s.offset (i + 1) = s.offset i + m ∧ s.offset i + m ≤ held.length
      ∧ s.rowsBefore (i + 1) = held.take (s.offset (i + 1)) := by
  rcases serves with ⟨page, m, hpage, hlogins, hleast, hmost, -⟩
  have hbounded := reading.bounded
  have hlength : page.logins.length = m := by
    rw [hlogins, List.length_take, List.length_drop]
    omega
  have hoffset : s.offset (i + 1) = s.offset i + m := by rw [offset_succ hpage, hlength]
  refine ⟨page, m, hpage, hlogins, hlength, hleast, hoffset, by omega, ?_⟩
  rw [rowsBefore_succ hpage, reading.rows, hlogins, hoffset, List.take_add]

/-- A page that does not end the list holds as many rows as were asked for. -/
theorem HasPrefix.step (reading : s.HasPrefix n held i) (serves : s.ServesLeniently n i held)
    (goesOn : ¬ s.EndsAt n i) : s.HasPrefix n held (i + 1) := by
  rcases reading.read serves with ⟨page, m, hpage, -, hlength, -, hoffset, hbounded, hrows⟩
  have hfull : n ≤ m := by
    by_contra hshort
    exact goesOn ⟨page, hpage, Or.inl (by omega)⟩
  have hbefore := reading.full
  refine ⟨hrows, by omega, ?_⟩
  rw [Nat.succ_mul]
  omega

/-- After the page that ends the list nothing is left. -/
theorem HasPrefix.ends (reading : s.HasPrefix n held i) (serves : s.ServesLeniently n i held)
    (pos : 0 < n) (distinct : (held.map (·.id)).Nodup) (ends : s.EndsAt n i) :
    s.offset (i + 1) = held.length := by
  rcases reading.read serves with ⟨page, m, hpage, hlogins, hlength, hleast, hoffset, hbounded, -⟩
  obtain ⟨told, htold, enough⟩ : ∃ count, page.filtered = some count
      ∧ (held.length : Int) ≤ count := by
    rcases serves with ⟨page', -, hpage', -, -, -, htold⟩
    exact Option.some.inj (hpage.symm.trans hpage') ▸ htold
  rcases ends with ⟨page', hpage', short | none | ⟨count, hcount, reached⟩ | known⟩
  all_goals obtain rfl : page = page' := Option.some.inj (hpage.symm.trans hpage')
  · omega
  · cases none.symm.trans htold
  · obtain rfl := Option.some.inj (htold.symm.trans hcount)
    omega
  · -- rows that follow are new, so there are none
    rw [reading.rows, hlogins] at known
    have hempty := congrArg List.length (eq_nil_of_known distinct known)
    rw [← hlogins, hlength, List.length_nil] at hempty
    omega

end Place

/-! ## Whole lists -/

section Store

variable {s : Script} {n k : Nat} {held : List Login}

theorem hasPrefix_of_reaches (serves : ∀ i, s.Reaches n i → s.ServesLeniently n i held)
    (reaches : s.Reaches n k) : s.HasPrefix n held k := by
  induction k with
  | zero => exact hasPrefix_zero s n held
  | succ k ih =>
    have hbefore : s.Reaches n k := fun i hi => reaches i (Nat.lt_succ_of_lt hi)
    exact (ih hbefore).step (serves k hbefore) (reaches k (Nat.lt_succ_self k)).2

/-- A list from a lenient store ends with a page, and holds all rows of the store. -/
theorem list_of_servesLeniently {c : Client} (search : Option String)
    (serves : ∀ i, s.Reaches c.config.pageSize i → s.ServesLeniently c.config.pageSize i held)
    (distinct : (held.map (·.id)).Nodup) :
    ∃ k, s.Reaches c.config.pageSize k ∧ s.EndsAt c.config.pageSize k
      ∧ s.offset (k + 1) = held.length ∧ s.list c search = (.ok held, s.after c search k) := by
  obtain ⟨k, reaches, ends⟩ := exists_endsAt fun i reaches =>
    (serves i reaches).imp fun _ ⟨_, hpage, _⟩ => hpage
  have reading := hasPrefix_of_reaches serves reaches
  have hall := reading.ends (serves k reaches) c.config.pageSize_pos distinct ends
  have hrows : s.rowsBefore (k + 1) = held := by
    obtain ⟨-, -, -, -, -, -, -, -, hrows⟩ := reading.read (serves k reaches)
    rw [hrows, hall, List.take_length]
  refine ⟨k, reaches, ends, hall, ?_⟩
  rw [list_of_endsAt reaches ends, hrows, firstCopies_of_nodup distinct]

/-- As long as a store keeps to the limits of the requests, they ask for one full page after the
other. -/
theorem offset_of_limit (limit : ∀ i, s.Reaches n i → ∃ page, s.page? i = some page
      ∧ page.logins = (held.drop (s.offset i)).take n)
    (reaches : s.Reaches n k) : s.offset k = k * n := by
  induction k with
  | zero => simp [offset]
  | succ k ih =>
    have hbefore : s.Reaches n k := fun i hi => reaches i (Nat.lt_succ_of_lt hi)
    rcases limit k hbefore with ⟨page, hpage, hlogins⟩
    have hmost : page.logins.length ≤ n := hlogins ▸ List.length_take_le _ _
    have hfull : ¬ page.logins.length < n := fun short =>
      (reaches k (Nat.lt_succ_self k)).2 ⟨page, hpage, Or.inl short⟩
    rw [offset_succ hpage, ih hbefore, Nat.succ_mul]
    omega

/-- A store that keeps to the limits and tells what it holds is asked for as many pages as hold
its rows, and for one if it has none. -/
theorem requests_of_serves {c : Client} (search : Option String)
    (serves : ∀ i, s.Reaches c.config.pageSize i → s.Serves c.config.pageSize i held)
    (distinct : (held.map (·.id)).Nodup) :
    ∃ k, s.Reaches c.config.pageSize k ∧ k + 1 = max 1 (pagesFor held.length c.config.pageSize)
      ∧ s.list c search = (.ok held, s.after c search k) := by
  obtain ⟨k, reaches, -, hall, hlist⟩ :=
    list_of_servesLeniently search (fun i h => (serves i h).leniently) distinct
  have pos := c.config.pageSize_pos
  generalize hn : c.config.pageSize = n at *
  have hoffset : s.offset k = k * n := offset_of_limit (fun i h => (serves i h).imp
    fun _ h => ⟨h.1, h.2.1⟩) reaches
  have hmost : held.length ≤ (k + 1) * n := by
    rcases serves k reaches with ⟨page, hpage, hlogins, -⟩
    have hlength : page.logins.length ≤ n := hlogins ▸ List.length_take_le _ _
    rw [← hall, offset_succ hpage, hoffset, Nat.succ_mul]
    omega
  refine ⟨k, reaches, ?_, hlist⟩
  rcases Nat.eq_zero_or_pos held.length with hnone | hsome
  · -- nothing is held, so the first page is the last
    have hk : k = 0 := by
      have hfull := (hasPrefix_of_reaches (fun i h => (serves i h).leniently) reaches).bounded
      rw [hoffset, hnone, Nat.le_zero, Nat.mul_eq_zero] at hfull
      omega
    have hpages : pagesFor held.length n = 0 := by
      rw [hnone, pagesFor]
      exact Nat.div_eq_of_lt (by omega)
    omega
  · have hleft : k * n < held.length := by
      cases k with
      | zero => simpa using hsome
      | succ j =>
        -- the page before did not reach the count, which is that of all rows
        have hbefore : s.Reaches n j := fun i hi => reaches i (Nat.lt_succ_of_lt hi)
        rcases serves j hbefore with ⟨page, hpage, -, hcount⟩
        by_contra hreached
        refine (reaches j (Nat.lt_succ_self j)).2
          ⟨page, hpage, Or.inr (Or.inr (Or.inl ⟨_, hcount, ?_⟩))⟩
        rw [hoffset]
        omega
    rw [pagesFor_eq hleft hmost]
    omega

/-- A store that keeps to the limits but tells of more than it holds is asked for a page after
its last full one. -/
theorem requests_of_overtells {c : Client} (search : Option String)
    (overtells : ∀ i, s.Reaches c.config.pageSize i → s.Overtells c.config.pageSize i held)
    (distinct : (held.map (·.id)).Nodup) :
    s.list c search = (.ok held, s.after c search (held.length / c.config.pageSize)) := by
  obtain ⟨k, reaches, ends, hall, hlist⟩ :=
    list_of_servesLeniently search (fun i h => (overtells i h).leniently) distinct
  have pos := c.config.pageSize_pos
  generalize hn : c.config.pageSize = n at *
  have hoffset : s.offset k = k * n := offset_of_limit (fun i h => (overtells i h).imp
    fun _ h => ⟨h.1, h.2.1⟩) reaches
  rcases overtells k reaches with ⟨page, hpage, hlogins, told, htold, more⟩
  have hlength : k * n + page.logins.length = held.length := by
    rw [← hall, offset_succ hpage, hoffset]
  -- the count is never reached, so the last page is short
  have hshort : page.logins.length < n := by
    rcases ends with ⟨page', hpage', short | none | ⟨count, hcount, reached⟩ | known⟩
    all_goals obtain rfl : page = page' := Option.some.inj (hpage.symm.trans hpage')
    · exact short
    · cases none.symm.trans htold
    · obtain rfl := Option.some.inj (htold.symm.trans hcount)
      omega
    · rw [(hasPrefix_of_reaches (fun i h => (overtells i h).leniently) reaches).rows,
        hlogins] at known
      rw [hlogins, eq_nil_of_known distinct known]
      exact pos
  have hk : held.length / n = k := by
    refine Nat.div_eq_of_lt_le (by omega) ?_
    rw [Nat.succ_mul]
    omega
  rw [hk, hlist]

end Store

/-- What can be said of the lists of a client from a store that holds `held`, whatever part of it
the store answers with. -/
structure WholeCollection (c : Client) : Prop where
  /-- A lenient store gives all that it holds, in order, and is asked for at most one page more
  than hold its rows. -/
  lenient : ∀ (s : Script) search held, (held.map (·.id)).Nodup →
    (∀ i, s.Reaches c.config.pageSize i → s.ServesLeniently c.config.pageSize i held) →
    ∃ requests ≤ pagesFor held.length c.config.pageSize + 1,
      s.list c search
        = (.ok held, ⟨s.answers.drop requests, s.sentBefore c search requests⟩)
  /-- A store that keeps to the limits and tells what it holds is asked for exactly the pages that
  hold its rows, one full page after the other. -/
  exact : ∀ (s : Script) search held, (held.map (·.id)).Nodup →
    (∀ i, s.Reaches c.config.pageSize i → s.Serves c.config.pageSize i held) →
    let requests := max 1 (pagesFor held.length c.config.pageSize)
    s.list c search = (.ok held, ⟨s.answers.drop requests, s.sent ++ (List.range requests).map
      fun i => c.request (.page search c.config.pageSize (i * c.config.pageSize))⟩)
  /-- If it tells of more than it holds, it is asked for a page after its last full one, so if it
  holds full pages only, it is asked for one more than hold its rows. -/
  overtold : ∀ (s : Script) search held, (held.map (·.id)).Nodup →
    (∀ i, s.Reaches c.config.pageSize i → s.Overtells c.config.pageSize i held) →
    s.list c search = (.ok held, s.after c search (held.length / c.config.pageSize))
  /-- A number of more digits than are read is no count: a store that answers so holds no more
  rows than can be told. -/
  told : ∀ (s : Script) i held, s.ServesLeniently c.config.pageSize i held →
    held.length < 10 ^ Number.maxDigits

/-- A list is all that a lenient store holds. -/
theorem whole_collection (c : Client) : WholeCollection c where
  lenient := by
    intro s search held distinct serves
    obtain ⟨k, reaches, -, -, hlist⟩ := list_of_servesLeniently search serves distinct
    have reading := hasPrefix_of_reaches serves reaches
    have hle := le_pagesFor c.config.pageSize_pos (reading.full.trans reading.bounded)
    exact ⟨k + 1, Nat.succ_le_succ hle, hlist⟩
  exact := by
    intro s search held distinct serves requests
    obtain ⟨k, reaches, hk, hlist⟩ := requests_of_serves search serves distinct
    have hqueries : ∀ i ∈ List.range requests,
        c.request (s.query search c.config.pageSize i)
          = c.request (.page search c.config.pageSize (i * c.config.pageSize)) := by
      intro i hi
      have hreached : s.Reaches c.config.pageSize i := fun j hj =>
        reaches j (by have := List.mem_range.mp hi; omega)
      rw [query, offset_of_limit (fun i h => (serves i h).imp fun _ h => ⟨h.1, h.2.1⟩) hreached]
    rw [hlist, after, sentBefore, hk, List.map_congr_left hqueries]
  overtold := fun _ search _ distinct overtells => requests_of_overtells search overtells distinct
  told := fun _ _ _ serves => serves.length_lt

/-- Four rows, two at a time, from a store that answers with three rows first and tells of a
different count each time: the list holds all four after two requests. A store that keeps to the
limit is asked twice, and a third time if it tells of five rows. -/
theorem whole_collection_of_four :
    let client : Client := ⟨⟨"http://localhost:3625", .whole 30, 2, by decide⟩, ""⟩
    let page (first : Nat) (rest : List Nat) (count : Nat) : Answer :=
      .response (Written.response first rest count)
    let empty : Answer :=
      .response ⟨200, "\x7b\"Data\":[],\"FilteredData\":5\x7d".toUTF8.data.toList⟩
    let held := [1, 2, 3, 4].map Written.numbered
    let s := ofAnswers [page 1 [2, 3] 9, page 4 [] 7]
    let asked (answers : List Answer) := ((ofAnswers answers).list client none).2.sent.map (·.query)
    (∀ i, s.Reaches 2 i → s.ServesLeniently 2 i held)
      ∧ (∃ requests ≤ pagesFor 4 2 + 1,
        s.list client none = (.ok held, ⟨s.answers.drop requests, s.sentBefore client none requests⟩))
      ∧ (s.list client none).2.sent.map (·.query) = [.page none 2 0, .page none 2 3]
      ∧ asked [page 1 [2] 4, page 3 [4] 4] = [.page none 2 0, .page none 2 2]
      ∧ asked [page 1 [2] 5, page 3 [4] 5, empty]
        = [.page none 2 0, .page none 2 2, .page none 2 4] := by
  intro client page empty held s asked
  have hfirst : s.page? 0 = some ⟨[1, 2, 3].map Written.numbered, none, some 9⟩ := by
    decide +kernel
  have hsecond : s.page? 1 = some ⟨[4].map Written.numbered, none, some 7⟩ := by decide +kernel
  have serves : ∀ i, s.Reaches 2 i → s.ServesLeniently 2 i held := by
    intro i reaches
    match i with
    | 0 => exact ⟨_, 3, hfirst, rfl, by decide, by decide, 9, rfl, by decide⟩
    | 1 =>
      have hoffset : s.offset 1 = 3 := offset_succ hfirst
      refine ⟨_, 1, hsecond, ?_⟩
      rw [hoffset]
      exact ⟨rfl, by decide, by decide, 7, rfl, by decide⟩
    | i + 2 => exact absurd ⟨_, hsecond, Or.inl (by decide)⟩ (reaches 1 (by omega)).2
  refine ⟨serves, (whole_collection client).lenient s none held (by decide) serves, ?_, ?_, ?_⟩
  · decide +kernel
  · decide +kernel
  · decide +kernel

end Script

end LoginVault
