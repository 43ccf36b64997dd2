import ItemQuery.CategoryQuery
import ItemQuery.Proofs.Catalog
import ItemQuery.Proofs.Entry
import ItemQuery.Proofs.FragmentSource
import ItemQuery.Proofs.Text.Join

/-! What a category query holds: the fragments of the categories that are met, once each; and what else it finds. -/

set_option autoImplicit false

namespace ItemQuery.CategoryQuery

variable {fragment : FragmentSource} {mandatory supplementary : List Entry}

/-- A query depends on its entries only through their categories. -/
theorem compile_congr {others added : List Entry}
    (same : Entry.categories (mandatory ++ supplementary) = Entry.categories (others ++ added)) :
    compile fragment mandatory supplementary = compile fragment others added := by
  rw [compile, compile, same]

theorem compile_of_known (known : ∀ entry ∈ mandatory ++ supplementary, fragment.Knows entry.category) :
    ∃ query, compile fragment mandatory supplementary = .ok query ∧
      Text.unquoted query.toList = content ((Entry.categories (mandatory ++ supplementary)).map fragment.textOf) := by
  have knownCategories : ∀ category ∈ Entry.categories (mandatory ++ supplementary), fragment.Knows category := by
    simpa only [Entry.mem_categories, List.forall_mem_map] using known
  rw [compile]
  split
  · next none => exact ⟨"", rfl, by rw [none]; rfl⟩
  · have found := FragmentSource.mapM_eq_ok_iff.mpr ⟨knownCategories, rfl⟩
    exact ⟨_, by rw [found]; rfl, by rw [String.toList_ofList, Text.unquoted_quotes]⟩

/-- Fragments without quotes are put into the query as they are. -/
theorem content_eq_joined (clear : ∀ category, '"' ∉ (fragment.textOf category).toList) (categories : List String) :
    content (categories.map fragment.textOf) = fragment.joined categories := by
  rw [content, List.map_map]
  apply Text.withoutQuotes_eq_self
  intro member
  rcases Text.mem_join member with same | ⟨part, partMember, member⟩
  · revert same; decide
  · obtain ⟨category, _, rfl⟩ := List.mem_map.mp partMember
    exact clear category member

theorem mapM_of_compile {query : String} (compiled : compile fragment mandatory supplementary = .ok query)
    (met : mandatory ++ supplementary ≠ []) :
    ∃ texts, (Entry.categories (mandatory ++ supplementary)).mapM fragment = .ok texts ∧
      query = .ofList ('"' :: (content texts ++ ['"'])) := by
  rw [compile] at compiled
  split at compiled
  · next none =>
    obtain ⟨entry, rest, same⟩ := List.exists_cons_of_ne_nil met
    rw [same, Entry.categories] at none
    cases none
  · obtain ⟨texts, found, same⟩ := Except.map_eq_ok_iff.mp compiled
    exact ⟨texts, found, same.symm⟩

theorem query_of_compile {query : String} (compiled : compile fragment mandatory supplementary = .ok query)
    (met : mandatory ++ supplementary ≠ []) :
    query = .ofList
      ('"' :: (content ((Entry.categories (mandatory ++ supplementary)).map fragment.textOf) ++ ['"'])) := by
  obtain ⟨texts, found, rfl⟩ := mapM_of_compile compiled met
  rw [(FragmentSource.mapM_eq_ok_iff.mp found).2]

theorem content_append {first : List String} (some : first ≠ []) (second : List String) :
    content (first ++ second) =
      content first ++ second.flatMap fun fragment => '|' :: Text.withoutQuotes fragment.toList := by
  have some : first.map String.toList ≠ [] := by simpa using some
  rw [content, List.map_append, Text.join_append some, content, Text.withoutQuotes, List.filter_append,
    List.filter_flatMap, List.flatMap_map]
  rfl

section AlsoMatching

variable {catalog : Catalog} {pool found : List Entry} {name : String}

theorem mem_names_unseen {seen : List String} {members : List Member} :
    name ∈ (unseen seen members).map (·.name) ↔ name ∉ seen ∧ name ∈ members.map (·.name) := by
  induction members generalizing seen with
  | nil => simp [unseen]
  | cons member rest ih =>
    rw [unseen]
    -- A name that is met here counts as seen later, so it is kept once.
    by_cases met : member.name ∈ seen
    · rw [if_pos (List.contains_iff_mem.mpr met), ih, List.map_cons, List.mem_cons]
      constructor
      · exact fun ⟨new, listed⟩ => ⟨new, Or.inr listed⟩
      · rintro ⟨new, rfl | listed⟩
        · exact absurd met new
        · exact ⟨new, listed⟩
    · rw [if_neg (by simpa using met), List.map_cons, List.mem_cons, ih, List.map_cons, List.mem_cons, List.mem_cons]
      by_cases same : name = member.name
      · subst same; simp [met]
      · simp [same]

theorem exists_alsoMatching (known : ∀ entry ∈ mandatory ++ supplementary, catalog.fragment.Knows entry.category) :
    ∃ found, alsoMatching catalog mandatory supplementary pool = .ok found := by
  have knownCategories : ∀ key ∈ Entry.categories (mandatory ++ supplementary),
      ∃ category, catalog.category key = .ok category := by
    intro key member
    obtain ⟨entry, entryMember, rfl⟩ := List.mem_map.mp (Entry.mem_categories.mp member)
    obtain ⟨category, listed⟩ := Catalog.knows_fragment_iff.mp (known entry entryMember)
    exact ⟨category, Catalog.category_eq_ok_iff.mpr listed⟩
  obtain ⟨categories, looked⟩ := Except.exists_mapM_eq_ok knownCategories
  exact ⟨_, Except.bind_eq_of_ok looked⟩

/-- The names that are found are listed in a category that is met, priced in the pool and not given. -/
theorem mem_alsoMatching (matched : alsoMatching catalog mandatory supplementary pool = .ok found) {entry : Entry} :
    entry ∈ found ↔ Entry.lastNamed? entry.name pool = some entry ∧
      entry.name ∉ (mandatory ++ supplementary).map (·.name) ∧
      ∃ given ∈ mandatory ++ supplementary, catalog.containsMember given.category entry.name = true := by
  obtain ⟨categories, looked, same⟩ := Except.bind_eq_ok_iff.mp matched
  cases same
  have listed : ∀ name, name ∈ (categories.flatMap (·.members)).map (·.name) ↔
      ∃ given ∈ mandatory ++ supplementary, catalog.containsMember given.category name = true := by
    intro name
    simp only [List.mem_map, List.mem_flatMap, Except.mem_iff_of_mapM_eq_ok looked, Catalog.category_eq_ok_iff,
      Entry.mem_categories, Catalog.containsMember_iff]
    constructor
    · rintro ⟨member, ⟨category, ⟨_, ⟨given, givenMember, rfl⟩, found⟩, memberListed⟩, rfl⟩
      exact ⟨given, givenMember, category, found, member, memberListed, rfl⟩
    · rintro ⟨given, givenMember, category, found, member, memberListed, rfl⟩
      exact ⟨member, ⟨category, ⟨_, ⟨given, givenMember, rfl⟩, found⟩, memberListed⟩, rfl⟩
  rw [Entry.sort, Sorting.mem_sort, List.mem_filterMap, ← listed, ← mem_names_unseen, List.mem_map]
  constructor
  · rintro ⟨member, unmet, priced⟩
    have same := Entry.name_of_lastNamed? priced
    exact ⟨same ▸ priced, member, unmet, same.symm⟩
  · rintro ⟨priced, member, unmet, same⟩
    exact ⟨member, unmet, same ▸ priced⟩

theorem mem_names_alsoMatching (matched : alsoMatching catalog mandatory supplementary pool = .ok found) :
    name ∈ found.map (·.name) ↔ name ∈ pool.map (·.name) ∧ name ∉ (mandatory ++ supplementary).map (·.name) ∧
      ∃ given ∈ mandatory ++ supplementary, catalog.containsMember given.category name = true := by
  constructor
  · intro named
    obtain ⟨entry, member, rfl⟩ := List.mem_map.mp named
    obtain ⟨last, ungiven, listed⟩ := (mem_alsoMatching matched).mp member
    exact ⟨List.mem_map_of_mem (Entry.mem_of_lastNamed? last), ungiven, listed⟩
  · rintro ⟨priced, ungiven, listed⟩
    obtain ⟨entry, member, rfl⟩ := List.mem_map.mp priced
    obtain ⟨last, found⟩ := Entry.exists_lastNamed? member
    have same := Entry.name_of_lastNamed? found
    rw [← same] at found ungiven listed ⊢
    exact List.mem_map_of_mem ((mem_alsoMatching matched).mpr ⟨found, ungiven, listed⟩)

end AlsoMatching

end ItemQuery.CategoryQuery
