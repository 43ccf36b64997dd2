import ItemQuery.Feed
import ItemQuery.Proofs.Catalog
import ItemQuery.Proofs.Entry

/-! The entries of a feed that can be valued and selected. -/

set_option autoImplicit false

namespace ItemQuery.Feed

variable {feed : Feed} {catalog : Catalog} {entry : Entry}

theorem mem_obtainable : entry ∈ feed.obtainable catalog ↔ entry ∈ feed.entries ∧ isObtainable catalog entry = true := by
  rw [obtainable, Entry.sort, Sorting.mem_sort, List.mem_filter]

theorem containsMember_of_mem_obtainable (member : entry ∈ feed.obtainable catalog) :
    catalog.containsMember entry.category entry.name = true :=
  (Bool.and_eq_true_iff.mp (mem_obtainable.mp member).2).2

theorem knows_of_mem_obtainable (member : entry ∈ feed.obtainable catalog) : catalog.fragment.Knows entry.category :=
  Catalog.knows_of_containsMember (containsMember_of_mem_obtainable member)

/-- Entries are obtainable only in a category that lists them, so a name has one category if no other lists it. -/
theorem singleCategory_obtainable (single : catalog.SingleListing) (feed : Feed) :
    Entry.SingleCategory (feed.obtainable catalog) := by
  intro first firstMember second secondMember same
  have listed := containsMember_of_mem_obtainable firstMember
  rw [same] at listed
  exact single.key_eq listed (containsMember_of_mem_obtainable secondMember)

end ItemQuery.Feed
