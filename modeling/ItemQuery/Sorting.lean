/-! Stable sorting by a comparison: items that compare equal keep their order. -/

set_option autoImplicit false

namespace ItemQuery.Sorting

variable {α : Type}

/-- Insert before the first item that is not strictly ahead. -/
def insert (cmp : α → α → Ordering) (new : α) : List α → List α
  | [] => [new]
  | item :: rest => if cmp new item = .gt then item :: insert cmp new rest else new :: item :: rest

def sort (cmp : α → α → Ordering) (items : List α) : List α := items.foldr (insert cmp) []

theorem insert_perm (cmp : α → α → Ordering) (new : α) (items : List α) :
    (insert cmp new items).Perm (new :: items) := by
  induction items with
  | nil => exact .refl _
  | cons item rest ih =>
    by_cases later : cmp new item = .gt
    · simpa [insert, later] using (ih.cons item).trans (.swap new item rest)
    · simp [insert, later]

theorem sort_perm (cmp : α → α → Ordering) (items : List α) : (sort cmp items).Perm items := by
  induction items with
  | nil => exact .refl _
  | cons item rest ih => exact (insert_perm cmp item _).trans (ih.cons item)

end ItemQuery.Sorting
