import Mathlib.Data.List.Infix
import ItemQuery.Proofs.Valuation

/-! Searching valuations by name.

A valuation shows the names of all members that its category lists, whichever of them have a
price. So what a search finds depends on the table and on the needle, and prices only say in
which order it is found.
-/

set_option autoImplicit false

namespace ItemQuery

theorem Text.contains_iff {needle text : List Char} : contains needle text = true ↔ needle <:+: text := by
  induction text with
  | nil => simp [contains]
  | cons c rest ih => rw [contains, Bool.or_eq_true, List.isPrefixOf_iff_prefix, ih, List.infix_cons_iff]

/-- The needle is part of the lower-cased name of the category or of a member that it lists. -/
def Category.Mentions (needle : List Char) (category : Category) : Prop :=
  ∃ name ∈ category.canonicalName :: category.members.map (·.name), needle <:+: Text.lower name.toList

instance (needle : List Char) (category : Category) : Decidable (category.Mentions needle) :=
  inferInstanceAs (Decidable (∃ name ∈ category.canonicalName :: category.members.map (·.name),
    needle <:+: Text.lower name.toList))

namespace Valuation

variable {catalog : Catalog} {prices : List Entry} {valuation : Valuation} {needle : List Char}

theorem names_eq (valuation : Valuation) :
    valuation.names = valuation.category.canonicalName :: valuation.listing.map (·.name) := by
  rw [names, listing, List.map_append, List.map_map]
  rfl

theorem mentions_iff (valued : valuation ∈ catalog.valuate prices) :
    valuation.mentions needle = true ↔ valuation.category.Mentions needle := by
  have sameNames :
      valuation.names.Perm (valuation.category.canonicalName :: valuation.category.members.map (·.name)) := by
    rw [names_eq]
    exact (names_listing_perm valued).cons _
  simp only [mentions, List.any_eq_true, Text.contains_iff, sameNames.mem_iff, Category.Mentions]

theorem categories_valuate_perm (catalog : Catalog) (prices : List Entry) :
    ((catalog.valuate prices).map (·.category)).Perm catalog.categories := by
  have sorted := (Sorting.sort_perm compareDesc (catalog.categories.map (ofCategory prices))).map (·.category)
  rw [List.map_map] at sorted
  exact sorted.trans (.of_eq (List.map_id _))

theorem search_eq (catalog : Catalog) (prices : List Entry) (query : String) (limit : Nat) :
    search (catalog.valuate prices) query limit =
      if (Text.lower query.toList).length < 3 then (catalog.valuate prices).take limit
      else ((catalog.valuate prices).filter (·.category.Mentions (Text.lower query.toList))).take limit := by
  rw [search]
  split
  · next short =>
    rw [List.filter_eq_self.mpr fun valuation _ => by simp [shortestNeedle, short]]
  · next long =>
    congr 1
    refine List.filter_congr fun valuation valued => ?_
    rw [Bool.eq_iff_iff, decide_eq_true_iff, ← mentions_iff valued]
    simp [shortestNeedle, long]

/-- With room for all of them, the categories found are those of the table that the needle is for. -/
theorem categories_search_perm {limit : Nat} (room : catalog.size ≤ limit) (prices : List Entry) (query : String) :
    ((search (catalog.valuate prices) query limit).map (·.category)).Perm
      (if (Text.lower query.toList).length < 3 then catalog.categories
      else catalog.categories.filter (·.Mentions (Text.lower query.toList))) := by
  have all := categories_valuate_perm catalog prices
  have size : (catalog.valuate prices).length ≤ limit := by
    rw [← List.length_map (·.category), all.length_eq]
    exact room
  rw [search_eq]
  split
  · rwa [List.take_of_length_le size]
  · rw [List.take_of_length_le ((List.length_filter_le _ _).trans size)]
    have filtered := all.filter (·.Mentions (Text.lower query.toList))
    rwa [List.filter_map] at filtered

/-- Short needles find all; others find the categories that mention them, the most valuable first. With room for
all, prices have no say in which categories are found. -/
theorem search_valuate (catalog : Catalog) (prices : List Entry) (query : String) (limit : Nat) :
    search (catalog.valuate prices) query limit =
        (if (Text.lower query.toList).length < 3 then (catalog.valuate prices).take limit
        else ((catalog.valuate prices).filter (·.category.Mentions (Text.lower query.toList))).take limit) ∧
      (catalog.size ≤ limit → ∀ others,
        ((search (catalog.valuate others) query limit).map (·.category)).Perm
          ((search (catalog.valuate prices) query limit).map (·.category))) := by
  refine ⟨search_eq catalog prices query limit, fun room others => ?_⟩
  exact (categories_search_perm room others query).trans (categories_search_perm room prices query).symm

end Valuation

end ItemQuery
