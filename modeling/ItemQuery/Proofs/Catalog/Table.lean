import ItemQuery.Proofs.Catalog

/-! The table of a catalog: its order, its index, and what is found under a key.

The index is determined by the categories, so two catalogs are the same as soon as their
categories are. A repeated key is found with its last category and stands where it was
first met; a catalog that is put together again from its own categories is therefore the
catalog it was.
-/

set_option autoImplicit false

namespace ItemQuery.Catalog

variable {first second : Catalog} {categories : List Category} {key : String}

theorem eq_of_categories_eq (same : first.categories = second.categories) : first = second := by
  obtain ⟨categories, index, indexes⟩ := first
  obtain ⟨others, otherIndex, otherIndexes⟩ := second
  cases same
  cases indexes.index_eq.trans otherIndexes.index_eq.symm
  rfl

theorem keys_ofCategories (categories : List Category) :
    (ofCategories categories).categories.map (·.key) = (categories.map (·.key)).eraseDups := by
  rw [categories_ofCategories]
  exact Keyed.keys_ofList categories

theorem get?_ofCategories (categories : List Category) (key : String) :
    (ofCategories categories).get? key = (categories.filter (·.key = key)).getLast? := by
  rw [get?_eq, categories_ofCategories]
  exact Keyed.get?_ofList key categories

theorem get?_ofCategories_eq_none_iff :
    (ofCategories categories).get? key = none ↔ ∀ category ∈ categories, category.key ≠ key := by
  rw [get?_ofCategories, List.getLast?_eq_none_iff, List.filter_eq_nil_iff]
  simp only [decide_eq_true_eq, ne_eq]

theorem ofCategories_categories (catalog : Catalog) : ofCategories catalog.categories = catalog :=
  eq_of_categories_eq ((categories_ofCategories catalog.categories).trans (Keyed.ofList_eq_self catalog.indexes.nodup))

theorem get?_ofCategories_append (categories more : List Category) (key : String) :
    (ofCategories (categories ++ more)).get? key =
      ((ofCategories more).get? key).or ((ofCategories categories).get? key) := by
  simp only [get?_ofCategories, List.filter_append, List.getLast?_append]

/-- The index and the categories stay in step: each entry of the index leads to the category
of its key, each key has one category, the last one given, at the place of the first. -/
theorem ofCategories_table (categories : List Category) :
    (∀ key position, (key, position) ∈ (ofCategories categories).index ↔
      ∃ category, (ofCategories categories).categories[position]? = some category ∧ category.key = key) ∧
    ((ofCategories categories).categories.map (·.key)).Nodup ∧
    (ofCategories categories).categories.map (·.key) = (categories.map (·.key)).eraseDups ∧
    (∀ key, (ofCategories categories).get? key = (categories.filter (·.key = key)).getLast?) ∧
    (∀ key, (ofCategories categories).get? key = none ↔ ∀ category ∈ categories, category.key ≠ key) ∧
    (ofCategories categories).size = (categories.map (·.key)).eraseDups.length ∧
    ofCategories (ofCategories categories).categories = ofCategories categories ∧
    ∀ more key, (ofCategories (categories ++ more)).get? key =
      ((ofCategories more).get? key).or ((ofCategories categories).get? key) := by
  have indexes := (ofCategories categories).indexes
  have keys := keys_ofCategories categories
  refine ⟨fun key position => indexes.mem_iff, indexes.nodup, keys, get?_ofCategories categories,
    fun key => get?_ofCategories_eq_none_iff, ?_, ofCategories_categories _, get?_ofCategories_append categories⟩
  rw [size, ← keys, List.length_map]

example : (ofCategories [⟨"a", "A", "aa", []⟩, ⟨"b", "B", "bb", []⟩, ⟨"a", "A2", "a2", []⟩]).categories =
    [⟨"a", "A2", "a2", []⟩, ⟨"b", "B", "bb", []⟩] := by decide

end ItemQuery.Catalog
