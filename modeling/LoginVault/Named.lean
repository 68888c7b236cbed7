/-!
# Named — values under names

A collection of named values keeps the order in which the names first came. `List.lookup` reads
it; `put`, `update` and `putNew` change the value under one name and no other (`lookup_put`,
`lookup_update`, `lookup_putNew`).
-/

namespace LoginVault

/-- Values under names. -/
abbrev Named (α : Type) := List (String × α)

namespace Named

variable {α : Type}

/-- Puts a value under a name; a new name goes to the end. -/
def put (name : String) (value : α) : Named α → Named α
  | [] => [(name, value)]
  | (n, v) :: rest => if n = name then (n, value) :: rest else (n, v) :: put name value rest

/-- Changes the value under a name, if there is one. -/
def update (name : String) (f : α → α) : Named α → Named α
  | [] => []
  | (n, v) :: rest => if n = name then (n, f v) :: rest else (n, v) :: update name f rest

/-- Puts a value under a name that has none. -/
def putNew (name : String) (value : α) (xs : Named α) : Named α :=
  if (xs.lookup name).isSome then xs else xs ++ [(name, value)]

theorem lookup_put (name other : String) (value : α) (xs : Named α) :
    (put name value xs).lookup other = if other = name then some value else xs.lookup other := by
  induction xs with
  | nil => grind [put]
  | cons x rest ih => grind [put]

theorem lookup_update (name other : String) (f : α → α) (xs : Named α) :
    (update name f xs).lookup other
      = if other = name then (xs.lookup other).map f else xs.lookup other := by
  induction xs with
  | nil => grind [update]
  | cons x rest ih => grind [update]

theorem lookup_putNew (name other : String) (value : α) (xs : Named α) :
    (putNew name value xs).lookup other
      = if other = name then some ((xs.lookup name).getD value) else xs.lookup other := by
  unfold putNew
  cases h : xs.lookup name with
  | some v =>
    by_cases ho : other = name
    · subst ho
      simp [h]
    · simp [ho]
  | none =>
    by_cases ho : other = name
    · subst ho
      simp [List.lookup_append, h]
    · have hother : (other == name) = false := by simpa using ho
      simp [List.lookup_append, List.lookup_cons, hother, ho]

end Named

end LoginVault
