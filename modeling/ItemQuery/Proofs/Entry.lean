import ItemQuery.Entry
import ItemQuery.Proofs.Binary64
import ItemQuery.Proofs.Found
import ItemQuery.Proofs.Repetitions
import ItemQuery.Proofs.Sorting

/-! The order of entries by value, their names, and the categories of a list of entries. -/

set_option autoImplicit false

namespace ItemQuery

/-- At least as great in the total order. -/
def Binary64.AtLeast (greater less : Binary64) : Prop := (less.totalCompare greater).isLE

theorem Binary64.AtLeast.refl (value : Binary64) : value.AtLeast value :=
  Ordering.isLE_of_eq_eq (Binary64.totalCompare_eq_iff.mpr rfl)

namespace Entry

instance : Std.TransCmp byValue where
  eq_swap {a b} := @Std.OrientedCmp.eq_swap _ Binary64.totalCompare _ b.value a.value
  isLE_trans ahead behind := @Std.TransCmp.isLE_trans _ Binary64.totalCompare _ _ _ _ behind ahead

theorem byValue_eq_iff {first second : Entry} : byValue first second = .eq ↔ first.value = second.value :=
  Binary64.totalCompare_eq_iff.trans eq_comm

theorem value_eq_of_isLE {first second : Entry} (ahead : (byValue first second).isLE)
    (behind : (byValue second first).isLE) : first.value = second.value :=
  byValue_eq_iff.mp (Std.OrientedCmp.isLE_antisymm ahead behind)

theorem arranged_iff {entries arranged : List Entry} :
    Sorting.Arranged value Binary64.AtLeast entries arranged ↔ arranged = sort entries :=
  @Sorting.arranged_iff _ byValue _ _ _ _ (fun _ _ => byValue_eq_iff) _ _ _ fun _ _ => Iff.rfl

/-- Sorted entries are ordered by value, and those of one value as they were before. -/
theorem sort_ordered {related : Entry → Entry → Prop} {entries : List Entry} (before : entries.Pairwise related) :
    (sort entries).Pairwise fun first second =>
      first.value.AtLeast second.value ∧ (first.value = second.value → related first second) := by
  have sorted : (sort entries).Pairwise fun first second => (byValue first second).isLE :=
    Sorting.sort_pairwise entries
  have ties : (sort entries).Pairwise fun first second => byValue first second = .eq → related first second :=
    Sorting.sort_pairwise_ties before
  exact sorted.and (ties.imp fun tied same => tied (byValue_eq_iff.mpr same))

/-- As dear as any of the entries, and dearer than all before it. -/
def IsDearest (entries : List Entry) (entry : Entry) : Prop :=
  (∀ other ∈ entries, entry.value.AtLeast other.value) ∧
    ∃ before after, entries = before ++ entry :: after ∧ ∀ other ∈ before, other.value ≠ entry.value

theorem isFirst_iff {entries : List Entry} {entry : Entry} :
    Sorting.IsFirst byValue entries entry ↔ IsDearest entries entry := by
  constructor
  · intro first
    have ⟨before, after, split, strictly, _⟩ := first
    refine ⟨fun other member => first.isLE member, before, after, split, fun other member same => ?_⟩
    have ahead := strictly other member
    rw [byValue_eq_iff.mpr same.symm] at ahead
    cases ahead
  · rintro ⟨highest, before, after, rfl, differ⟩
    refine ⟨before, after, rfl, fun other member => ?_, fun other member => ?_⟩
    · have ahead : (byValue entry other).isLE := highest other (List.mem_append_left _ member)
      exact (Ordering.isLE_iff_eq_lt_or_eq_eq.mp ahead).resolve_right fun tied =>
        differ other member (byValue_eq_iff.mp tied).symm
    · exact highest other (List.mem_append_right _ (List.mem_cons_of_mem entry member))

section Named

variable {name : String} {entries : List Entry} {entry : Entry}

theorem mem_of_named? (found : named? name entries = some entry) : entry ∈ entries := List.mem_of_find?_eq_some found

theorem name_of_named? (found : named? name entries = some entry) : entry.name = name := by
  simpa using List.find?_some found

theorem mem_of_lastNamed? (found : lastNamed? name entries = some entry) : entry ∈ entries :=
  List.mem_reverse.mp (mem_of_named? found)

theorem name_of_lastNamed? (found : lastNamed? name entries = some entry) : entry.name = name := name_of_named? found

theorem exists_named? (member : entry ∈ entries) : ∃ first, named? entry.name entries = some first := by
  rw [← Option.isSome_iff_exists, named?, List.find?_isSome]
  exact ⟨entry, member, beq_self_eq_true entry.name⟩

theorem exists_lastNamed? (member : entry ∈ entries) : ∃ last, lastNamed? entry.name entries = some last :=
  exists_named? (List.mem_reverse.mpr member)

theorem named?_eq_none_iff : named? name entries = none ↔ ∀ entry ∈ entries, entry.name ≠ name := by
  simp [named?]

theorem lastNamed?_eq_none_iff : lastNamed? name entries = none ↔ ∀ entry ∈ entries, entry.name ≠ name := by
  simp [lastNamed?, named?]

theorem exists_lastNamed?_iff : (∃ entry, lastNamed? name entries = some entry) ↔ ∃ entry ∈ entries, entry.name = name := by
  constructor
  · rintro ⟨entry, found⟩
    exact ⟨entry, mem_of_lastNamed? found, name_of_lastNamed? found⟩
  · rintro ⟨entry, member, rfl⟩
    exact exists_lastNamed? member

def IsEarliest (name : String) (entries : List Entry) (entry : Entry) : Prop :=
  entry.name = name ∧ ∃ before after, entries = before ++ entry :: after ∧ ∀ other ∈ before, other.name ≠ name

theorem named?_eq_some_iff : named? name entries = some entry ↔ IsEarliest name entries entry := by
  simp [named?, List.find?_eq_some_iff_append, IsEarliest]

def IsLatest (name : String) (entries : List Entry) (entry : Entry) : Prop :=
  entry.name = name ∧ ∃ before after, entries = before ++ entry :: after ∧ ∀ other ∈ after, other.name ≠ name

theorem lastNamed?_eq_some_iff : lastNamed? name entries = some entry ↔ IsLatest name entries entry := by
  rw [lastNamed?, named?, find?_reverse_eq_some_iff, IsLatest, beq_iff_eq]
  simp only [beq_eq_false_iff_ne]

theorem IsLatest.unique {other : Entry} (latest : IsLatest name entries entry) (again : IsLatest name entries other) :
    entry = other :=
  Option.some.inj ((lastNamed?_eq_some_iff.mpr latest).symm.trans (lastNamed?_eq_some_iff.mpr again))

theorem isFirst_of_named?_sort (found : named? name (sort entries) = some entry) :
    Sorting.IsFirst byValue (entries.filter (·.name == name)) entry := by
  rw [named?, ← List.head?_filter, sort, Sorting.sort_filter] at found
  exact Sorting.isFirst_of_head?_sort found

theorem isLast_of_lastNamed?_sort (found : lastNamed? name (sort entries) = some entry) :
    Sorting.IsLast byValue (entries.filter (·.name == name)) entry := by
  rw [lastNamed?, named?, ← List.getLast?_filter, sort, Sorting.sort_filter] at found
  exact Sorting.isLast_of_getLast?_sort found

end Named

/-- No name is listed under two categories. -/
def SingleCategory (entries : List Entry) : Prop :=
  ∀ first ∈ entries, ∀ second ∈ entries, first.name = second.name → first.category = second.category

instance (entries : List Entry) : Decidable (SingleCategory entries) :=
  inferInstanceAs (Decidable (∀ first ∈ entries, ∀ second ∈ entries,
    first.name = second.name → first.category = second.category))

theorem mem_categories {category : String} {entries : List Entry} :
    category ∈ categories entries ↔ category ∈ entries.map (·.category) := by
  induction entries with
  | nil => exact Iff.rfl
  | cons entry rest ih =>
    simp only [categories, List.map_cons, List.mem_cons, List.mem_filter, ih, decide_eq_true_eq]
    constructor
    · rintro (same | ⟨found, _⟩)
      · exact Or.inl same
      · exact Or.inr found
    · rintro (same | found)
      · exact Or.inl same
      · by_cases same : category = entry.category
        · exact Or.inl same
        · exact Or.inr ⟨found, same⟩

theorem categories_eq (entries : List Entry) : categories entries = (entries.map (·.category)).eraseDups := by
  induction entries with
  | nil => rfl
  | cons entry rest ih => rw [categories, ih, List.map_cons, List.eraseDups_cons_filter]

theorem nodup_categories (entries : List Entry) : (categories entries).Nodup := by
  rw [categories_eq]
  exact List.nodup_eraseDups _

theorem categories_filter (keep : String → Bool) (entries : List Entry) :
    categories (entries.filter fun entry => keep entry.category) = (categories entries).filter keep := by
  rw [categories_eq, categories_eq, ← List.eraseDups_filter, List.filter_map]
  rfl

theorem categories_append (first second : List Entry) :
    categories (first ++ second) =
      categories first ++ (categories second).filter fun category => !(categories first).contains category := by
  rw [categories_eq, List.map_append, List.eraseDups_append, List.removeAll, List.eraseDups_filter, ← categories_eq,
    ← categories_eq]
  congr 1
  refine List.filter_congr fun category _ => ?_
  simp only [List.elem_eq_contains, List.contains_eq_mem, mem_categories]

/-- The first category of a kind belongs to the first entry of a category of that kind. -/
theorem find?_categories (kind : String → Bool) (entries : List Entry) :
    (categories entries).find? kind = (entries.find? fun entry => kind entry.category).map (·.category) := by
  induction entries with
  | nil => rfl
  | cons entry rest ih =>
    cases found : kind entry.category with
    | true => simp [categories, found]
    | false =>
      -- Leaving out repetitions of a category that is not of the kind leaves the first that is.
      have others : ((categories rest).filter (· ≠ entry.category)).find? kind = (categories rest).find? kind := by
        rw [List.find?_filter]
        congr 1
        funext category
        by_cases same : category = entry.category <;> simp [same, found]
      rw [categories, List.find?_cons_of_neg (by simp [found]), others, ih, List.find?_cons_of_neg (by simp [found])]

theorem filter_categories_eq_nil {known : List String} {entries : List Entry}
    (met : ∀ entry ∈ entries, entry.category ∈ known) :
    ((categories entries).filter fun category => !known.contains category) = [] := by
  rw [List.filter_eq_nil_iff]
  intro category member
  obtain ⟨entry, entryMember, rfl⟩ := List.mem_map.mp (mem_categories.mp member)
  simpa using met entry entryMember

end Entry

end ItemQuery
