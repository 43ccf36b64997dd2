import Mathlib.Data.List.Sort
import ItemQuery.Proofs.CategoryQuery

/-! What else a category query finds, and in which order.

The categories that are met are gone through in turn, each member by member, and a name is
taken where it is first met. The entries found are then sorted by value; as the sort is
stable, entries of one value stay in the order in which their names were met. That leaves
no choice, so a list with these properties is what else the query finds.
-/

set_option autoImplicit false

namespace ItemQuery.CategoryQuery

variable {catalog : Catalog} {mandatory supplementary given pool found others : List Entry}

/-- The names listed by the categories of the given entries, in the order in which they are met. -/
def namesMet (catalog : Catalog) (given : List Entry) : List String :=
  ((given.map (·.category)).eraseDups.filterMap catalog.get?).flatMap fun category => category.members.map (·.name)

/-- What a list of further matches is like. -/
structure Matching (catalog : Catalog) (given pool found : List Entry) : Prop where
  nodup : (found.map (·.name)).Nodup
  mem_names : ∀ name, name ∈ found.map (·.name) ↔
    (∃ entry ∈ given, catalog.containsMember entry.category name = true) ∧ name ∈ pool.map (·.name) ∧
      name ∉ given.map (·.name)
  latest : ∀ entry ∈ found, Entry.IsLatest entry.name pool entry
  /-- By value, and entries of one value as their names are met. -/
  ordered : found.Pairwise fun first second => first.value.AtLeast second.value ∧
    (first.value = second.value →
      (namesMet catalog given).idxOf first.name < (namesMet catalog given).idxOf second.name)

theorem filterMap_get?_of_mapM {keys : List String} {categories : List Category}
    (looked : keys.mapM catalog.category = .ok categories) : keys.filterMap catalog.get? = categories := by
  have found := Except.mapM_eq_ok_iff.mp looked
  induction found with
  | nil => rfl
  | cons first rest ih =>
    rw [List.filterMap_cons_some (Catalog.category_eq_ok_iff.mp first), ih (Except.mapM_eq_ok_iff.mpr rest)]

theorem pairwise_unseen (seen : List String) (members : List Member) :
    (unseen seen members).Pairwise fun first second =>
      (members.map (·.name)).idxOf first.name < (members.map (·.name)).idxOf second.name := by
  induction members generalizing seen with
  | nil => exact .nil
  | cons member rest ih =>
    -- Once the name of the first member is seen, all that follows stands one place further back.
    have behind {seen : List String} (met : member.name ∈ seen) {other : Member} (kept : other ∈ unseen seen rest) :
        ((member :: rest).map (·.name)).idxOf other.name = (rest.map (·.name)).idxOf other.name + 1 := by
      have new : other.name ∉ seen := (mem_names_unseen.mp (List.mem_map_of_mem kept)).1
      exact List.idxOf_cons_ne _ fun same => new (same ▸ met)
    have later {seen : List String} (met : member.name ∈ seen) : (unseen seen rest).Pairwise fun first second =>
        ((member :: rest).map (·.name)).idxOf first.name < ((member :: rest).map (·.name)).idxOf second.name := by
      refine (ih seen).imp_of_mem fun firstKept secondKept before => ?_
      rw [behind met firstKept, behind met secondKept]
      exact Nat.succ_lt_succ before
    rw [unseen]
    split
    · next met => exact later (List.contains_iff_mem.mp met)
    · refine List.pairwise_cons.mpr ⟨fun other kept => ?_, later List.mem_cons_self⟩
      rw [behind List.mem_cons_self kept, List.map_cons, List.idxOf_cons_self]
      exact Nat.succ_pos _

theorem ordered_alsoMatching (matched : alsoMatching catalog mandatory supplementary pool = .ok found) :
    found.Pairwise fun first second => first.value.AtLeast second.value ∧
      (first.value = second.value → (namesMet catalog (mandatory ++ supplementary)).idxOf first.name <
        (namesMet catalog (mandatory ++ supplementary)).idxOf second.name) := by
  obtain ⟨categories, looked, same⟩ := Except.bind_eq_ok_iff.mp matched
  cases same
  have names : namesMet catalog (mandatory ++ supplementary) = (categories.flatMap (·.members)).map (·.name) := by
    rw [namesMet, ← Entry.categories_eq, filterMap_get?_of_mapM looked, List.map_flatMap]
  have met := pairwise_unseen ((mandatory ++ supplementary).map (·.name)) (categories.flatMap (·.members))
  rw [← names] at met
  have priced := met.filterMap (S := fun first second =>
    (namesMet catalog (mandatory ++ supplementary)).idxOf first.name <
      (namesMet catalog (mandatory ++ supplementary)).idxOf second.name)
    (fun member => Entry.lastNamed? member.name pool) fun first second before entry foundFirst other foundSecond => by
      rwa [Entry.name_of_lastNamed? foundFirst, Entry.name_of_lastNamed? foundSecond]
  exact Entry.sort_ordered priced

theorem matching_of_alsoMatching (matched : alsoMatching catalog mandatory supplementary pool = .ok found) :
    Matching catalog (mandatory ++ supplementary) pool found := by
  have latest : ∀ entry ∈ found, Entry.IsLatest entry.name pool entry := fun entry member =>
    Entry.lastNamed?_eq_some_iff.mp ((mem_alsoMatching matched).mp member).1
  have ordered := ordered_alsoMatching matched
  refine ⟨?_, fun name => ?_, latest, ordered⟩
  · refine List.pairwise_map.mpr (ordered.imp_of_mem fun {first second} firstFound secondFound before same => ?_)
    have equal : first = second := (latest first firstFound).unique (same ▸ latest second secondFound)
    subst equal
    exact Nat.lt_irrefl _ (before.2 rfl)
  · rw [mem_names_alsoMatching matched]
    tauto

theorem Matching.mem_iff (matching : Matching catalog given pool found) (again : Matching catalog given pool others)
    {entry : Entry} (member : entry ∈ found) : entry ∈ others := by
  have named := (again.mem_names entry.name).mpr ((matching.mem_names entry.name).mp (List.mem_map_of_mem member))
  obtain ⟨other, otherMember, same⟩ := List.mem_map.mp named
  have equal : entry = other := (matching.latest entry member).unique (same ▸ again.latest other otherMember)
  exact equal ▸ otherMember

theorem Matching.unique (matching : Matching catalog given pool found) (again : Matching catalog given pool others) :
    found = others := by
  refine @List.Pairwise.eq_of_mem_iff _ _ ⟨fun first second before behind => ?_⟩ ⟨fun entry before => ?_⟩ _ _
    matching.ordered again.ordered fun entry => ⟨matching.mem_iff again, again.mem_iff matching⟩
  · -- Neither of two entries of one value comes both before and behind the other.
    have same : first.value = second.value := Entry.value_eq_of_isLE before.1 behind.1
    exact absurd (before.2 same) (Nat.lt_asymm (behind.2 same.symm))
  · exact Nat.lt_irrefl _ (before.2 rfl)

theorem alsoMatching_eq_error_iff {cause : CatalogError} :
    alsoMatching catalog mandatory supplementary pool = .error cause ↔
      ∃ key, ((mandatory ++ supplementary).map (·.category)).eraseDups.find? (catalog.get? · = none) = some key ∧
        cause = .unknownCategory key := by
  have looked : alsoMatching catalog mandatory supplementary pool = .error cause ↔
      (Entry.categories (mandatory ++ supplementary)).mapM catalog.category = .error cause := by
    cases found : (Entry.categories (mandatory ++ supplementary)).mapM catalog.category with
    | error reported =>
      have failed : alsoMatching catalog mandatory supplementary pool = .error reported :=
        Except.bind_eq_error_of_error found
      rw [failed, Except.error.injEq, Except.error.injEq]
    | ok categories =>
      obtain ⟨others, matched⟩ : ∃ others, alsoMatching catalog mandatory supplementary pool = .ok others :=
        ⟨_, Except.bind_eq_of_ok found⟩
      rw [matched]
      exact ⟨nofun, nofun⟩
  rw [looked, Catalog.mapM_category_eq_error_iff, Entry.categories_eq]

theorem alsoMatching_fails_iff :
    (∃ cause, alsoMatching catalog mandatory supplementary pool = .error cause) ↔
      ∃ entry ∈ mandatory ++ supplementary, catalog.get? entry.category = none := by
  simp only [alsoMatching_eq_error_iff]
  rw [exists_comm]
  simp only [exists_and_left, exists_eq, and_true, List.exists_find?_eraseDups_iff, decide_eq_true_eq]

/-- It is refused exactly for an entry of a category that the catalog does not have, with the first of these in the
order in which categories are met. Otherwise it gives the one list with the properties of further matches. -/
theorem alsoMatching_iff (catalog : Catalog) (mandatory supplementary pool : List Entry) :
    ((∃ cause, alsoMatching catalog mandatory supplementary pool = .error cause) ↔
      ∃ entry ∈ mandatory ++ supplementary, catalog.get? entry.category = none) ∧
    (∀ cause, alsoMatching catalog mandatory supplementary pool = .error cause ↔
      ∃ key, ((mandatory ++ supplementary).map (·.category)).eraseDups.find? (catalog.get? · = none) = some key ∧
        cause = .unknownCategory key) ∧
    ∀ found, alsoMatching catalog mandatory supplementary pool = .ok found ↔
      (∀ entry ∈ mandatory ++ supplementary, catalog.get? entry.category ≠ none) ∧
        Matching catalog (mandatory ++ supplementary) pool found := by
  refine ⟨alsoMatching_fails_iff, fun cause => alsoMatching_eq_error_iff, fun found => ⟨fun matched => ?_, ?_⟩⟩
  · refine ⟨fun entry member missing => ?_, matching_of_alsoMatching matched⟩
    obtain ⟨cause, failed⟩ := alsoMatching_fails_iff.mpr ⟨entry, member, missing⟩
    exact nomatch matched.symm.trans failed
  · rintro ⟨known, matching⟩
    cases matched : alsoMatching catalog mandatory supplementary pool with
    | error cause =>
      obtain ⟨entry, member, missing⟩ := alsoMatching_fails_iff.mp ⟨cause, matched⟩
      exact absurd missing (known entry member)
    | ok others => rw [(matching_of_alsoMatching matched).unique matching]

end ItemQuery.CategoryQuery
