import LoginVault.Proofs.Paging.FirstCopies
import LoginVault.Script
import Mathlib.Data.Nat.Find

/-!
# Paging.Reference — what a list is, without its loop

A list is determined by the pages that the answers give. The request at each place asks for the
rows after all rows of the pages before it. The last request is the first whose page ends the
list (`Script.EndsAt`) or whose answer gives no page. In the first case the list holds the first
copies of all rows, in the second it fails as this answer does.

Main result: `Script.list_reference`.
-/

namespace LoginVault.Script

variable (s : Script)

/-- The answer to the request at this place. -/
def answer (i : Nat) : Answer := s.answers[i]?.getD (.fault exhausted)

/-- The page that the answer at this place gives, if it gives one. -/
def page? (i : Nat) : Option LoginPage :=
  match s.answer i with
  | .response r => r.page.toOption
  | .fault _ => none

/-- The rows of the page at this place. -/
def rows (i : Nat) : List Login := ((s.page? i).map LoginPage.logins).getD []

/-- The rows of all pages before this place. -/
def rowsBefore (i : Nat) : List Login := (List.range i).flatMap s.rows

/-- How many rows the pages before this place have. -/
def offset : Nat → Nat
  | 0 => 0
  | i + 1 => offset i + (s.rows i).length

/-- Whether the page at this place ends a list: it is short, tells no count of matching logins,
reaches this count, or brings no identifier that the pages before have not brought. -/
def EndsAt (pageSize i : Nat) : Prop :=
  ∃ page, s.page? i = some page ∧ (page.logins.length < pageSize
    ∨ page.filtered = none
    ∨ (∃ count, page.filtered = some count ∧ count ≤ s.offset (i + 1))
    ∨ ∀ l ∈ page.logins, l.IsKnownIn (s.rowsBefore i))

/-- Whether a list goes on to the request at this place: all answers before give pages, and none
of these ends the list. -/
def Reaches (pageSize k : Nat) : Prop :=
  ∀ i < k, (s.page? i).isSome ∧ ¬ s.EndsAt pageSize i

/-- The query of the request at this place. -/
def query (search : Option String) (pageSize i : Nat) : Query := .page search pageSize (s.offset i)

/-- Whether the answer at this place gives no page but this failure. -/
def FailsAt (search : Option String) (pageSize i : Nat) (f : Failure) : Prop :=
  (s.answer i).result (s.query search pageSize i) Response.page = .error f

/-- The requests before this place, after those that were sent before. -/
def sentBefore (c : Client) (search : Option String) (i : Nat) : List Request :=
  s.sent ++ (List.range i).map fun j => c.request (s.query search c.config.pageSize j)

/-- The script after the request at this place. -/
def after (c : Client) (search : Option String) (k : Nat) : Script :=
  ⟨s.answers.drop (k + 1), s.sentBefore c search (k + 1)⟩

/-! ## Answers -/

variable {s} {i n : Nat} {page : LoginPage} {search : Option String}

theorem page?_eq_some_iff :
    s.page? i = some page ↔ ∃ r, s.answer i = .response r ∧ r.page = .ok page := by
  unfold page?
  cases s.answer i with
  | fault cause => simp
  | response r => cases hr : r.page <;> simp [hr, Except.toOption]

theorem result_of_page? (h : s.page? i = some page) (q : Query) :
    (s.answer i).result q Response.page = .ok page := by
  rcases page?_eq_some_iff.mp h with ⟨r, ha, hr⟩
  simp [ha, Answer.result, hr, Except.mapError]

theorem failsAt_of_page? (h : s.page? i = none) : ∃ f, s.FailsAt search n i f := by
  unfold page? at h
  unfold FailsAt
  cases ha : s.answer i with
  | fault cause => cases cause <;> exact ⟨_, rfl⟩
  | response r =>
    cases hr : r.page with
    | error why => exact ⟨_, by simp [Answer.result, hr, Except.mapError]; rfl⟩
    | ok page' => simp [ha, hr, Except.toOption] at h

theorem lt_of_page? (h : s.page? i = some page) : i < s.answers.length := by
  by_contra hout
  simp [page?, answer, List.getElem?_eq_none (Nat.le_of_not_lt hout)] at h

/-! ## Reading on -/

/-- The logins read before this place. -/
def reading (s : Script) (search : Option String) (i : Nat) : Paging :=
  ⟨search, s.offset i, firstCopies (s.rowsBefore i)⟩

theorem rowsBefore_succ (h : s.page? i = some page) :
    s.rowsBefore (i + 1) = s.rowsBefore i ++ page.logins := by
  simp [rowsBefore, List.range_succ, rows, h]

theorem offset_succ (h : s.page? i = some page) :
    s.offset (i + 1) = s.offset i + page.logins.length := by
  simp [offset, rows, h]

/-- A page leads from its place to the next. -/
theorem add_reading (h : s.page? i = some page) :
    (s.reading search i).add page = s.reading search (i + 1) := by
  simp [reading, Paging.add, offset_succ h, rowsBefore_succ h, foldl_keep]

/-- When a page is the last one to be read. -/
theorem isLast_iff (before after : Paging) :
    before.isLast n page after = true ↔ page.logins.length < n ∨ page.filtered = none
      ∨ (∃ count, page.filtered = some count ∧ count ≤ after.offset)
      ∨ after.collected.length = before.collected.length := by
  unfold Paging.isLast
  cases page.filtered with
  | none => simp
  | some count => simp [or_assoc]

/-- A page brings nothing new exactly if the rows before have all its identifiers. -/
theorem length_firstCopies_succ_iff (h : s.page? i = some page) :
    (firstCopies (s.rowsBefore (i + 1))).length = (firstCopies (s.rowsBefore i)).length
      ↔ ∀ l ∈ page.logins, l.IsKnownIn (s.rowsBefore i) := by
  rw [rowsBefore_succ h, ← foldl_keep, foldl_keep_length_eq_iff]
  simp only [isKnownIn_firstCopies]

/-- The page at a place is the last one to be read exactly if it ends the list. -/
theorem isLast_reading (h : s.page? i = some page) :
    (s.reading search i).isLast n page (s.reading search (i + 1)) = true ↔ s.EndsAt n i := by
  rw [isLast_iff]
  simp only [reading, length_firstCopies_succ_iff h, EndsAt, h, Option.some.injEq, exists_eq_left']

/-- A page that does not end the list leads to the next request. -/
theorem advance_reading_more (h : s.page? i = some page) (goesOn : ¬ s.EndsAt n i) :
    (s.reading search i).advance n (s.answer i) = .ok (.more (s.reading search (i + 1))) := by
  have hlast : ¬ (s.reading search i).isLast n page (s.reading search (i + 1)) = true :=
    fun last => goesOn ((isLast_reading h).mp last)
  simp [Paging.advance, result_of_page? h, Except.map, Paging.turn, add_reading h, hlast]

/-- A page that ends the list completes it. -/
theorem advance_reading_complete (h : s.page? i = some page) (ends : s.EndsAt n i) :
    (s.reading search i).advance n (s.answer i)
      = .ok (.complete (firstCopies (s.rowsBefore (i + 1)))) := by
  have hlast : (s.reading search i).isLast n page (s.reading search (i + 1)) = true :=
    (isLast_reading h).mpr ends
  simp only [Paging.advance, result_of_page? h, Except.map, Paging.turn, add_reading h, hlast, if_true]
  rfl

/-! ## The requests of a list -/

variable {c : Client}

/-- A list that has come to the request at this place. -/
def listFrom (s : Script) (c : Client) (search : Option String) (i : Nat) :
    Except Failure (List Login) × Script :=
  collectFrom c (s.reading search i) (s.sentBefore c search i) (s.answers.drop i)

theorem drop_of_lt (h : i < s.answers.length) :
    s.answers.drop i = s.answer i :: s.answers.drop (i + 1) := by
  rw [List.drop_eq_getElem_cons h]
  simp [answer, h]

theorem sentBefore_succ : s.sentBefore c search (i + 1)
    = s.sentBefore c search i ++ [c.request (s.query search c.config.pageSize i)] := by
  simp [sentBefore, List.range_succ]

/-- A list goes on as long as the pages do not end it. -/
theorem listFrom_succ (h : s.page? i = some page) (goesOn : ¬ s.EndsAt c.config.pageSize i) :
    s.listFrom c search i = s.listFrom c search (i + 1) := by
  unfold listFrom
  rw [drop_of_lt (lt_of_page? h), collectFrom]
  simp only [advance_reading_more h goesOn]
  rw [sentBefore_succ]
  rfl

theorem list_eq_listFrom {k : Nat} (reaches : s.Reaches c.config.pageSize k) :
    s.list c search = s.listFrom c search k := by
  induction k with
  | zero => simp [list, listFrom, reading, Paging.start, offset, rowsBefore, sentBefore]
  | succ k ih =>
    rcases reaches k (Nat.lt_succ_self k) with ⟨hpage, hgoes⟩
    rcases Option.isSome_iff_exists.mp hpage with ⟨page, hpage⟩
    rw [ih fun i hi => reaches i (Nat.lt_succ_of_lt hi), listFrom_succ hpage hgoes]

/-- A page that ends the list gives the first copies of all rows. -/
theorem listFrom_of_endsAt {k : Nat} (ends : s.EndsAt c.config.pageSize k) :
    s.listFrom c search k = (.ok (firstCopies (s.rowsBefore (k + 1))), s.after c search k) := by
  obtain ⟨page, hpage⟩ : ∃ page, s.page? k = some page := ends.imp fun _ h => h.1
  unfold listFrom
  rw [drop_of_lt (lt_of_page? hpage), collectFrom]
  simp only [advance_reading_complete hpage ends]
  rw [after, sentBefore_succ]
  rfl

/-- An answer that gives no page fails the list. -/
theorem listFrom_of_failsAt {k : Nat} {f : Failure}
    (fails : s.FailsAt search c.config.pageSize k f) :
    s.listFrom c search k = (.error f, s.after c search k) := by
  unfold FailsAt at fails
  unfold listFrom
  rw [after, sentBefore_succ]
  by_cases hk : k < s.answers.length
  · -- the answer is read and gives no page
    have hadvance : (s.reading search k).advance c.config.pageSize (s.answer k) = .error f := by
      have hquery : (s.reading search k).query c.config.pageSize
          = s.query search c.config.pageSize k := rfl
      rw [Paging.advance, hquery, fails]
      rfl
    rw [drop_of_lt hk, collectFrom]
    simp only [hadvance]
    rfl
  · -- past the end of the script every request fails to connect
    have hnone : s.answers.drop k = [] := List.drop_eq_nil_of_le (by omega)
    have hafter : s.answers.drop (k + 1) = [] := List.drop_eq_nil_of_le (by omega)
    have hanswer : s.answer k = .fault exhausted := by
      simp [answer, List.getElem?_eq_none (Nat.le_of_not_lt hk)]
    rw [hanswer] at fails
    obtain rfl := Except.error.inj fails
    rw [hnone, hafter, collectFrom]
    rfl

/-- Some page ends the list or some answer fails it, at the latest the first past the end. -/
theorem exists_last (s : Script) (search : Option String) (n : Nat) :
    ∃ k, s.Reaches n k ∧ (s.EndsAt n k ∨ ∃ f, s.FailsAt search n k f) := by
  -- past the end of the script no answer gives a page
  have hexists : ∃ k, s.EndsAt n k ∨ s.page? k = none := by
    refine ⟨s.answers.length, Or.inr ?_⟩
    cases h : s.page? s.answers.length with
    | none => rfl
    | some page => exact absurd (lt_of_page? h) (Nat.lt_irrefl _)
  classical
  refine ⟨Nat.find hexists, fun i hi => ?_, (Nat.find_spec hexists).imp_right failsAt_of_page?⟩
  have hbefore := not_or.mp (Nat.find_min hexists hi)
  exact ⟨Option.isSome_iff_ne_none.mpr hbefore.2, hbefore.1⟩

/-- Where every request that is reached brings a page, some page ends the list. -/
theorem exists_endsAt (pages : ∀ i, s.Reaches n i → ∃ page, s.page? i = some page) :
    ∃ k, s.Reaches n k ∧ s.EndsAt n k := by
  rcases s.exists_last none n with ⟨k, reaches, ends | ⟨f, fails⟩⟩
  · exact ⟨k, reaches, ends⟩
  · rcases pages k reaches with ⟨page, hpage⟩
    rw [FailsAt, result_of_page? hpage] at fails
    cases fails

/-! ## The reference -/

theorem list_of_endsAt {k : Nat} (reaches : s.Reaches c.config.pageSize k)
    (ends : s.EndsAt c.config.pageSize k) :
    s.list c search = (.ok (firstCopies (s.rowsBefore (k + 1))), s.after c search k) := by
  rw [list_eq_listFrom reaches, listFrom_of_endsAt ends]

theorem list_of_failsAt {k : Nat} {f : Failure} (reaches : s.Reaches c.config.pageSize k)
    (fails : s.FailsAt search c.config.pageSize k f) :
    s.list c search = (.error f, s.after c search k) := by
  rw [list_eq_listFrom reaches, listFrom_of_failsAt fails]

/-- No two logins of a list have one identifier. -/
theorem nodup_of_list {logins : List Login} (h : (s.list c search).1 = .ok logins) :
    (logins.map (·.id)).Nodup := by
  rcases s.exists_last search c.config.pageSize with ⟨k, reaches, ends | ⟨f, fails⟩⟩
  · rw [list_of_endsAt reaches ends] at h
    obtain rfl := Except.ok.inj h
    exact nodup_firstCopies _
  · rw [list_of_failsAt reaches fails] at h
    cases h

/-- What a list against a script does, told by the pages that the answers give. -/
structure ListReference (c : Client) (search : Option String) (s : Script) : Prop where
  /-- It sends the requests up to the first whose page ends the list, and gives the first copies
  of all rows of these pages. -/
  ends : ∀ k, s.Reaches c.config.pageSize k → s.EndsAt c.config.pageSize k →
    s.list c search = (.ok (firstCopies (s.rowsBefore (k + 1))), s.after c search k)
  /-- If an answer before gives no page, its request is the last, and the list fails so. -/
  fails : ∀ k f, s.Reaches c.config.pageSize k → s.FailsAt search c.config.pageSize k f →
    s.list c search = (.error f, s.after c search k)
  /-- One of these happens. -/
  covers : ∃ k, s.Reaches c.config.pageSize k ∧ (s.EndsAt c.config.pageSize k
    ∨ ∃ f, s.FailsAt search c.config.pageSize k f)
  /-- No two logins that it gives have one identifier. -/
  distinct : ∀ logins, (s.list c search).1 = .ok logins → (logins.map (·.id)).Nodup

/-- Every list is as its pages say. -/
theorem list_reference (c : Client) (search : Option String) (s : Script) :
    ListReference c search s where
  ends := fun _ reaches ends => list_of_endsAt reaches ends
  fails := fun _ _ reaches fails => list_of_failsAt reaches fails
  covers := s.exists_last search c.config.pageSize
  distinct := fun _ h => nodup_of_list h

/-- Of two pages that overlap the second adds what is new, and the first copy stays as it is. -/
theorem list_reference_overlapping :
    let client : Client := ⟨⟨"http://localhost:3625", .whole 30, 2, by decide⟩, ""⟩
    let row (id url : String) :=
      "\x7b\"ID\":" ++ id ++ ",\"URL\":\"" ++ url ++ "\",\"Username\":\"\",\"Password\":\"\"\x7d"
    let page (rows : String) : Answer := .response
      ⟨200, ("\x7b\"Data\":[" ++ rows ++ "],\"FilteredData\":3\x7d").toUTF8.data.toList⟩
    let s := ofAnswers [page (row "1" "a" ++ "," ++ row "2" "b"),
      page (row "2" "c" ++ "," ++ row "3" "d")]
    ListReference client none s
      ∧ (s.list client none).1.toOption
        = some [⟨.number 1, "a", "", ""⟩, ⟨.number 2, "b", "", ""⟩, ⟨.number 3, "d", "", ""⟩]
      ∧ (s.list client none).2.sent.map (·.query) = [.page none 2 0, .page none 2 2] := by
  refine ⟨list_reference _ _ _, ?_, ?_⟩
  · decide +kernel
  · decide +kernel

end LoginVault.Script
