import ItemQuery.Keyed

/-! Positions of keys.

An index beside a table has the position of each key, so that a look-up need not go
through the items. An item that takes the place of its key leaves the index as it is; an
item of a new key goes behind the others and is listed there.
-/

set_option autoImplicit false

namespace ItemQuery.Keyed

variable {α κ : Type}

/-- The index lists the keys of the items with their positions, and no two items have one key. -/
structure Indexes (key : α → κ) (items : List α) (index : List (κ × Nat)) : Prop where
  index_eq : index = (items.map key).zipIdx
  nodup : (items.map key).Nodup

namespace Indexes

variable {key : α → κ} {items : List α} {index : List (κ × Nat)} {wanted : κ} {new : α} {position other : Nat}

theorem nil : Indexes key [] [] := ⟨rfl, .nil⟩

theorem mem_iff (indexes : Indexes key items index) :
    (wanted, position) ∈ index ↔ ∃ item, items[position]? = some item ∧ key item = wanted := by
  rw [indexes.index_eq, List.mk_mem_zipIdx_iff_getElem?, List.getElem?_map, Option.map_eq_some_iff]

theorem position_unique (indexes : Indexes key items index) (listed : (wanted, position) ∈ index)
    (again : (wanted, other) ∈ index) : position = other := by
  rw [indexes.index_eq, List.mk_mem_zipIdx_iff_getElem?] at listed again
  obtain ⟨inside, _⟩ := List.getElem?_eq_some_iff.mp listed
  exact (List.getElem?_inj inside indexes.nodup).mp (listed.trans again.symm)

variable [DecidableEq κ]

theorem lookup_eq_some_iff (indexes : Indexes key items index) :
    index.lookup wanted = some position ↔ (wanted, position) ∈ index := by
  constructor
  · intro found
    obtain ⟨before, after, rfl, _⟩ := List.lookup_eq_some_iff.mp found
    simp
  · intro listed
    cases found : index.lookup wanted with
    | none => simpa using List.lookup_eq_none_iff.mp found _ listed
    | some other =>
      obtain ⟨before, after, same, _⟩ := List.lookup_eq_some_iff.mp found
      have again : (wanted, other) ∈ index := by simp [same]
      rw [indexes.position_unique listed again]

theorem lookup_eq_none_iff (indexes : Indexes key items index) :
    index.lookup wanted = none ↔ wanted ∉ items.map key := by
  rw [Option.eq_none_iff_forall_ne_some, List.mem_iff_getElem?, not_exists]
  refine forall_congr' fun position => not_congr ?_
  rw [indexes.lookup_eq_some_iff, indexes.index_eq, List.mk_mem_zipIdx_iff_getElem?]

/-- The item of a key stands where the index says. -/
theorem exists_of_lookup (indexes : Indexes key items index) (found : index.lookup wanted = some position) :
    ∃ item, items[position]? = some item ∧ key item = wanted :=
  indexes.mem_iff.mp (indexes.lookup_eq_some_iff.mp found)

theorem lt (indexes : Indexes key items index) (found : index.lookup wanted = some position) :
    position < items.length := by
  obtain ⟨item, there, _⟩ := indexes.exists_of_lookup found
  exact (List.getElem?_eq_some_iff.mp there).1

theorem set (indexes : Indexes key items index) (found : index.lookup (key new) = some position) :
    Indexes key (items.set position new) index := by
  have keys : (items.set position new).map key = items.map key := by
    obtain ⟨item, there, same⟩ := indexes.exists_of_lookup found
    obtain ⟨inside, rfl⟩ := List.getElem?_eq_some_iff.mp there
    rw [List.map_set, ← same, ← List.map_set, List.set_getElem_self]
  exact ⟨by rw [keys, indexes.index_eq], by rw [keys]; exact indexes.nodup⟩

theorem append (indexes : Indexes key items index) (missing : index.lookup (key new) = none) :
    Indexes key (items ++ [new]) (index ++ [(key new, items.length)]) := by
  have absent := indexes.lookup_eq_none_iff.mp missing
  constructor
  · rw [List.map_append, List.zipIdx_append, ← indexes.index_eq]
    simp
  · rw [List.map_append, List.nodup_append]
    refine ⟨indexes.nodup, List.pairwise_singleton _ _, fun first member second last same => absent ?_⟩
    rwa [← List.mem_singleton.mp last, ← same]

end Indexes

end ItemQuery.Keyed
