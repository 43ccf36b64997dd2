import ItemQuery.Proofs.CategoryQuery

/-! The shape of a category query: one alternation in one pair of quotes.

Every category that is met brings its fragment once, at the place where it is first met.
So an entry whose category has been met changes nothing, wherever it stands and whichever
of the two lists it is in.
-/

set_option autoImplicit false

namespace ItemQuery.CategoryQuery

variable {fragment : FragmentSource} {mandatory supplementary : List Entry}

theorem compile_eq_error_iff {cause : CatalogError} :
    compile fragment mandatory supplementary = .error cause ↔
      ∃ key, ((mandatory ++ supplementary).map (·.category)).eraseDups.find? (¬fragment.Knows ·) = some key ∧
        fragment key = .error cause := by
  rw [← FragmentSource.mapM_eq_error_iff, ← Entry.categories_eq, compile]
  split
  · next none =>
    rw [none]
    exact iff_of_false (fun same => by cases same) (fun same => by cases same)
  · exact Except.map_eq_error_iff

theorem compile_fails_iff :
    (∃ cause, compile fragment mandatory supplementary = .error cause) ↔
      ∃ entry ∈ mandatory ++ supplementary, ¬fragment.Knows entry.category := by
  have refused {key : String} : ¬fragment.Knows key → ∃ cause, fragment key = .error cause := by
    intro unknown
    cases found : fragment key with
    | ok text => exact absurd ⟨text, found⟩ unknown
    | error cause => exact ⟨cause, rfl⟩
  have first : (∃ key, ((mandatory ++ supplementary).map (·.category)).eraseDups.find? (¬fragment.Knows ·) = some key) ↔
      ∃ entry ∈ mandatory ++ supplementary, ¬fragment.Knows entry.category := by
    simp only [List.exists_find?_eraseDups_iff, decide_eq_true_eq]
  rw [← first]
  constructor
  · rintro ⟨cause, failed⟩
    obtain ⟨key, found, _⟩ := compile_eq_error_iff.mp failed
    exact ⟨key, found⟩
  · rintro ⟨key, found⟩
    obtain ⟨cause, reported⟩ := refused (by simpa using List.find?_some found)
    exact ⟨cause, compile_eq_error_iff.mpr ⟨key, found, reported⟩⟩

theorem content_eq_join (texts : List String) :
    content texts = Text.join '|' (texts.map fun text => Text.withoutQuotes text.toList) := by
  rw [content, Text.withoutQuotes_join (by decide), List.map_map]
  rfl

theorem eq_empty_iff {query : String} (compiled : compile fragment mandatory supplementary = .ok query) :
    query = "" ↔ mandatory = [] ∧ supplementary = [] := by
  rw [← List.append_eq_nil_iff]
  constructor
  · rintro rfl
    by_contra met
    obtain ⟨texts, _, same⟩ := mapM_of_compile compiled met
    exact absurd same (by simp [← String.toList_inj])
  · intro none
    rw [compile, none] at compiled
    exact (Except.ok.inj compiled).symm

/-- The longer list is the shorter one with riders put in, entries of a category that is met before them. -/
inductive AddsRiders : (met : List String) → (shorter longer : List Entry) → Prop where
  | nil {met : List String} : AddsRiders met [] []
  | keep {met : List String} {entry : Entry} {shorter longer : List Entry} :
      AddsRiders (entry.category :: met) shorter longer → AddsRiders met (entry :: shorter) (entry :: longer)
  | rider {met : List String} {entry : Entry} {shorter longer : List Entry} : entry.category ∈ met →
      AddsRiders met shorter longer → AddsRiders met shorter (entry :: longer)

/-- Of the categories behind an entry those are new that are new and are not its own. -/
theorem filter_categories_cons (met : List String) (entry : Entry) (rest : List Entry) :
    (Entry.categories (entry :: rest)).filter (· ∉ met) =
      (if entry.category ∈ met then [] else [entry.category]) ++
        (Entry.categories rest).filter (· ∉ entry.category :: met) := by
  have others : ((Entry.categories rest).filter (· ≠ entry.category)).filter (· ∉ met) =
      (Entry.categories rest).filter (· ∉ entry.category :: met) := by
    rw [List.filter_filter]
    exact List.filter_congr fun category _ => by simp [Bool.and_comm]
  rw [Entry.categories, List.filter_cons, others]
  by_cases present : entry.category ∈ met <;> simp [present]

theorem AddsRiders.filter_categories {met : List String} {shorter longer : List Entry}
    (added : AddsRiders met shorter longer) :
    (Entry.categories shorter).filter (· ∉ met) = (Entry.categories longer).filter (· ∉ met) := by
  induction added with
  | nil => rfl
  | keep _ ih => rw [filter_categories_cons, filter_categories_cons, ih]
  | @rider met entry shorter longer present _ ih =>
    rw [filter_categories_cons, if_pos present, List.nil_append, ih]
    refine List.filter_congr fun category _ => ?_
    by_cases same : category = entry.category
    · simp [same, present]
    · simp [same]

theorem AddsRiders.categories_eq {shorter longer : List Entry} (added : AddsRiders [] shorter longer) :
    Entry.categories shorter = Entry.categories longer := by
  simpa using added.filter_categories

/-- A query is refused exactly for an entry of an unknown category, with the first of these in the order in which
categories are met. It is empty exactly without entries, and otherwise the fragments of the categories that are met,
each cleared of quotes and put in once. So riders and the border between the two lists leave it as it is. -/
theorem compile_alternation (fragment : FragmentSource) (mandatory supplementary : List Entry) :
    ((∃ cause, compile fragment mandatory supplementary = .error cause) ↔
      ∃ entry ∈ mandatory ++ supplementary, ¬fragment.Knows entry.category) ∧
    (∀ cause, compile fragment mandatory supplementary = .error cause ↔
      ∃ key, ((mandatory ++ supplementary).map (·.category)).eraseDups.find? (¬fragment.Knows ·) = some key ∧
        fragment key = .error cause) ∧
    (∀ query, compile fragment mandatory supplementary = .ok query →
      (query = "" ↔ mandatory = [] ∧ supplementary = []) ∧
      (query ≠ "" → ∃ texts inner,
        List.Forall₂ (fun key text => fragment key = .ok text)
          ((mandatory ++ supplementary).map (·.category)).eraseDups texts ∧
        inner = Text.join '|' (texts.map fun text => Text.withoutQuotes text.toList) ∧ '"' ∉ inner ∧
        query.toList = '"' :: (inner ++ ['"']))) ∧
    (∀ others added, AddsRiders [] (others ++ added) (mandatory ++ supplementary) →
      compile fragment others added = compile fragment mandatory supplementary) ∧
    compile fragment mandatory supplementary = compile fragment (mandatory ++ supplementary) [] := by
  refine ⟨compile_fails_iff, fun cause => compile_eq_error_iff, fun query compiled => ?_, fun others added riders => ?_, ?_⟩
  · have empty := eq_empty_iff compiled
    refine ⟨empty, fun some => ?_⟩
    have met : mandatory ++ supplementary ≠ [] := fun none => some (empty.mpr (List.append_eq_nil_iff.mp none))
    obtain ⟨texts, found, rfl⟩ := mapM_of_compile compiled met
    rw [Entry.categories_eq] at found
    exact ⟨texts, content texts, Except.mapM_eq_ok_iff.mp found, content_eq_join texts,
      Text.quote_not_mem_withoutQuotes _, String.toList_ofList⟩
  · exact compile_congr riders.categories_eq
  · exact compile_congr (by rw [List.append_nil])

end ItemQuery.CategoryQuery
