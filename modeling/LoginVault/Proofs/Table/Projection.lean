import LoginVault.Proofs.Table.Sorting
import Mathlib.Data.List.Infix

/-!
# Table.Projection — what a table shows

A table shows the logins of its snapshot whose folded address holds its folded filter, in its
order. `IsProjection` says so without the filter and the sort that derive the rows, and there is
one list of which it is true (`isProjection_iff`). So two ways to come by rows are compared by
what is true of them: a table after any changes against one that was given the last of them
(`Table.rows_eq_iff`), and a filter after a sort against a sort after a filter
(`project_eq_filter_sort`).

Main results: `Table.rows_eq_iff` and `Table.filter_refines`.
-/

namespace LoginVault

/-! ## Matching -/

theorem holdsPart_iff {fragment s : List Char} : holdsPart fragment s = true ↔ fragment <:+: s := by
  induction s with
  | nil => simp [holdsPart]
  | cons c s ih => simp [holdsPart, ih, List.infix_cons_iff]

theorem Login.matchesFragment_iff {l : Login} {fragment : String} :
    l.matchesFragment fragment = true
      ↔ Text.caseFold fragment.toList <:+: Text.caseFold l.url.toList :=
  holdsPart_iff

/-- What holds a text holds every part of it, as folding keeps parts together. -/
theorem Login.matchesFragment_of_part {l : Login} {before fragment after : String}
    (h : l.matchesFragment (before ++ fragment ++ after) = true) :
    l.matchesFragment fragment = true := by
  have hpart : Text.caseFold fragment.toList
      <:+: Text.caseFold (before ++ fragment ++ after).toList := by
    rw [String.toList_append, String.toList_append, Text.caseFold_append, Text.caseFold_append]
    exact List.infix_append _ _ _
  exact Login.matchesFragment_iff.mpr (hpart.trans (Login.matchesFragment_iff.mp h))

/-- The logins of a snapshot whose folded address holds the folded text. -/
def holding (filter : String) (snapshot : List Login) : List Login :=
  snapshot.filter fun l => Text.caseFold filter.toList <:+: Text.caseFold l.url.toList

theorem holding_eq_filter (filter : String) (snapshot : List Login) :
    holding filter snapshot = snapshot.filter (·.matchesFragment filter) := by
  refine List.filter_congr fun l _ => ?_
  rw [Bool.eq_iff_iff, decide_eq_true_iff, Login.matchesFragment_iff]

/-! ## Projections -/

/-- What is true of the rows of a snapshot under a filter and an order, and of no others. -/
structure IsProjection (filter : String) (order : Option SortOrder) (snapshot rows : List Login) :
    Prop where
  /-- They are the logins that hold the filter, each as often as the snapshot has it. -/
  kept : rows.Perm (holding filter snapshot)
  /-- Without an order they stand as in the snapshot. -/
  unsorted : order = none → rows = holding filter snapshot
  /-- Otherwise they stand in order. -/
  sorted : ∀ o, order = some o → rows.Pairwise o.InOrder
  /-- Those with one address stand as in the snapshot, whatever the order. -/
  stable : ∀ url, rows.filter (·.url = url) = (holding filter snapshot).filter (·.url = url)

section Projection

variable {filter : String} {order : Option SortOrder} {snapshot rows : List Login}

theorem isProjection_project (filter : String) (order : Option SortOrder) (snapshot : List Login) :
    IsProjection filter order snapshot (project filter order snapshot) where
  kept := by
    rw [project, ← holding_eq_filter]
    exact SortOrder.sort_perm order _
  unsorted := by
    intro unordered
    rw [project, ← holding_eq_filter, unordered]
    rfl
  sorted := by
    intro o ordered
    rw [project, ordered]
    exact SortOrder.sort_pairwise o _
  stable := by
    intro url
    rw [project, ← holding_eq_filter]
    exact SortOrder.filter_url_sort order url _

theorem IsProjection.unique {others : List Login} (left : IsProjection filter order snapshot rows)
    (right : IsProjection filter order snapshot others) : rows = others := by
  cases order with
  | none => rw [left.unsorted rfl, right.unsorted rfl]
  | some o =>
    refine eq_of_pairwise_of_filter_eq (left.sorted o rfl) (right.sorted o rfl) fun url => ?_
    rw [left.stable url, right.stable url]

theorem isProjection_iff :
    IsProjection filter order snapshot rows ↔ project filter order snapshot = rows := by
  constructor
  · exact (isProjection_project filter order snapshot).unique
  · rintro rfl
    exact isProjection_project filter order snapshot

/-- It makes no difference whether the logins are sorted before others are left out. -/
theorem project_eq_filter_sort (filter : String) (order : Option SortOrder)
    (snapshot : List Login) : project filter order snapshot
      = (SortOrder.sort order snapshot).filter (·.matchesFragment filter) := by
  refine isProjection_iff.mp ⟨?_, ?_, ?_, ?_⟩
  · rw [holding_eq_filter]
    exact (SortOrder.sort_perm order snapshot).filter _
  · rintro rfl
    rw [holding_eq_filter]
    rfl
  · rintro o rfl
    exact (SortOrder.sort_pairwise o snapshot).sublist List.filter_sublist
  · -- both leave out the same of those with one address, which a sort leaves as they stand
    intro url
    rw [List.filter_comm, SortOrder.filter_url_sort, List.filter_comm, holding_eq_filter]

end Projection

/-! ## Tables after changes -/

namespace Table

/-- A change of what a table shows. -/
inductive Change where
  | snapshot (logins : List Login)
  | filter (text : String)
  | order (order : Option SortOrder)

/-- The table after a change. -/
def change (t : Table) : Change → Table
  | .snapshot logins => t.setSnapshot logins
  | .filter text => t.setFilter text
  | .order order => t.setOrder order

/-- A table after changes, the first of them first. -/
def after (changes : List Change) : Table := changes.foldl change empty

/-- The snapshot that was given last, none at first. -/
def lastSnapshot (changes : List Change) : List Login :=
  (changes.filterMap fun | .snapshot logins => some logins | _ => none).getLast?.getD []

/-- The filter that was given last, empty at first. -/
def lastFilter (changes : List Change) : String :=
  (changes.filterMap fun | .filter text => some text | _ => none).getLast?.getD ""

/-- The order that was given last, none at first. -/
def lastOrder (changes : List Change) : Option SortOrder :=
  (changes.filterMap fun | .order order => some order | _ => none).getLast?.getD none

/-- A table has the last of what it was given, and shows its projection. -/
theorem after_eq (changes : List Change) :
    after changes = ⟨lastSnapshot changes, lastFilter changes, lastOrder changes,
      project (lastFilter changes) (lastOrder changes) (lastSnapshot changes)⟩ := by
  induction changes using List.reverseRecOn with
  | nil => rfl
  | append_singleton changes last ih =>
    have hlast : after (changes ++ [last]) = (after changes).change last := by simp [after]
    rw [hlast, ih]
    cases last <;>
      simp [change, setSnapshot, setFilter, setOrder, derive, lastSnapshot, lastFilter, lastOrder]

/-- Whatever came before, the rows of a table are the projection of the last snapshot under the
last filter and the last order, and this is the only list that is one. -/
theorem rows_eq_iff (changes : List Change) (rows : List Login) :
    (after changes).rows = rows
      ↔ IsProjection (lastFilter changes) (lastOrder changes) (lastSnapshot changes) rows := by
  rw [after_eq, isProjection_iff]

/-- Descending is not ascending read backwards: of two addresses with one folding the capital goes
behind, but the two logins with one address keep their order. -/
example :
    let login (id : Int) (url : String) : Login := ⟨.number id, url, "", ""⟩
    let logins := [login 1 "B", login 2 "a", login 3 "b", login 4 "a"]
    (after [.order (some .descend), .snapshot logins]).rows.map (·.id)
      = [.number 3, .number 1, .number 2, .number 4] := by
  cbv

/-! ## Narrower filters -/

/-- What a filter does to the rows of a table. -/
structure FilterRefines (t : Table) : Prop where
  /-- A text lets through no row that a part of it does not, and the rows keep their order. -/
  narrows : ∀ before fragment after : String,
    (t.setFilter (before ++ fragment ++ after)).rows.Sublist (t.setFilter fragment).rows
  /-- The rows are those of the whole snapshot, sorted, that match. -/
  commutes : ∀ text, (t.setFilter text).rows
    = (SortOrder.sort t.order t.snapshot).filter (·.matchesFragment text)

theorem filter_refines (t : Table) : FilterRefines t where
  narrows := by
    intro before fragment after
    have hrows (text : String) : (t.setFilter text).rows = project text t.order t.snapshot := rfl
    rw [hrows, hrows, project_eq_filter_sort, project_eq_filter_sort]
    exact List.monotone_filter_right _ fun l => Login.matchesFragment_of_part
  commutes := fun text => project_eq_filter_sort text t.order t.snapshot

end Table

end LoginVault
