import ItemQuery.Proofs.Plan.Making

/-! What filling a query changes in a plan.

Plans with and without filling value the categories alike and find the same supplementary
entries; only what is applied differs. The filled query has the alternatives of the plain
one in front. Names that also match stay, unless they are added; the names that come in
belong to added categories alone.
-/

set_option autoImplicit false

namespace ItemQuery.Plan

variable {catalog : Catalog} {pool : List Entry} {selection : Selection} {fill : Bool} {plan filled plain : Plan}
  {name : String}

theorem valuations_of_make (made : make catalog pool selection fill = .ok plan) :
    plan.valuations = catalog.valuate pool := by
  obtain ⟨supplement, _, rest⟩ := Except.bind_eq_ok_iff.mp made
  obtain ⟨query, _, rest⟩ := Except.bind_eq_ok_iff.mp rest
  obtain ⟨found, _, same⟩ := Except.bind_eq_ok_iff.mp rest
  cases same
  rfl

/-- Whether a plan is made does not depend on filling, and neither does why it is not. -/
theorem attempt_cases (catalog : Catalog) (pool : List Entry) (selection : Selection) :
    (∃ failure, ∀ fill, attempt catalog pool selection fill = .error failure) ∨
      ∃ plan : Bool → Plan, ∀ fill, make catalog pool selection fill = .ok (plan fill) := by
  cases filled : Supplement.fill catalog.fragment selection.entries pool with
  | error cause =>
    exact Or.inl ⟨.catalog cause, fun fill => Except.mapError_eq_error_iff.mpr
      ⟨cause, make_eq_error_iff_fill.mpr filled, rfl⟩⟩
  | ok outcome => exact Or.inr (Classical.skolem.mp fun fill => exists_make filled)

theorem mem_names_plain (made : make catalog pool selection false = .ok plain) :
    name ∈ plain.alsoMatching.map (·.name) ↔ name ∈ pool.map (·.name) ∧ name ∉ selection.names ∧
      ∃ entry ∈ selection.entries, catalog.containsMember entry.category name = true := by
  obtain ⟨_, applied, _, matched⟩ := parts_of_make made
  rw [applied, if_neg Bool.false_ne_true] at matched
  rw [CategoryQuery.mem_names_alsoMatching matched, List.append_nil, Selection.names]

theorem mem_names_filled (made : make catalog pool selection true = .ok filled) :
    name ∈ filled.alsoMatching.map (·.name) ↔ name ∈ pool.map (·.name) ∧
      (name ∉ selection.names ∧ name ∉ filled.supplementary.map (·.name)) ∧
      ((∃ entry ∈ selection.entries, catalog.containsMember entry.category name = true) ∨
        ∃ added ∈ filled.supplementary, catalog.containsMember added.category name = true) := by
  obtain ⟨_, applied, _, matched⟩ := parts_of_make made
  rw [applied, if_pos rfl] at matched
  simp only [CategoryQuery.mem_names_alsoMatching matched, List.map_append, List.mem_append, not_or, Selection.names,
    or_and_right, exists_or]

section Both

variable (madeFilled : make catalog pool selection true = .ok filled)
  (madePlain : make catalog pool selection false = .ok plain)

include madeFilled madePlain

theorem supplementary_fill : filled.supplementary = plain.supplementary :=
  (supplementary_eq_picks madeFilled).trans (supplementary_eq_picks madePlain).symm

/-- The alternatives of the plain query stand in front, those of the new categories follow. -/
theorem query_fill (some : selection.entries ≠ []) :
    ∃ text, plain.query = .ofList ('"' :: (text ++ ['"'])) ∧
      filled.query = .ofList ('"' :: ((text ++
        ((Entry.categories filled.supplementary).filter fun category =>
          !(Entry.categories selection.entries).contains category).flatMap fun category =>
            '|' :: Text.withoutQuotes (catalog.fragment.textOf category).toList) ++ ['"'])) := by
  obtain ⟨_, appliedFilled, compiledFilled, _⟩ := parts_of_make madeFilled
  obtain ⟨_, appliedPlain, compiledPlain, _⟩ := parts_of_make madePlain
  rw [appliedFilled, if_pos rfl] at compiledFilled
  rw [appliedPlain, if_neg Bool.false_ne_true] at compiledPlain
  have chosen := CategoryQuery.query_of_compile compiledPlain (by simpa using some)
  have extended := CategoryQuery.query_of_compile compiledFilled (by simp [some])
  have met : (Entry.categories selection.entries).map catalog.fragment.textOf ≠ [] := by
    obtain ⟨entry, rest, same⟩ := List.exists_cons_of_ne_nil some
    simp [same, Entry.categories]
  rw [List.append_nil] at chosen
  rw [Entry.categories_append, List.map_append, CategoryQuery.content_append met, List.flatMap_map] at extended
  exact ⟨_, chosen, extended⟩

theorem names_kept (matching : name ∈ plain.alsoMatching.map (·.name)) :
    name ∈ filled.alsoMatching.map (·.name) ∨ name ∈ filled.supplementary.map (·.name) := by
  obtain ⟨priced, unselected, listed⟩ := (mem_names_plain madePlain).mp matching
  by_cases added : name ∈ filled.supplementary.map (·.name)
  · exact Or.inr added
  · exact Or.inl ((mem_names_filled madeFilled).mpr ⟨priced, ⟨unselected, added⟩, Or.inl listed⟩)

/-- A name that only the filled query matches is listed in added categories, and in none of the selected ones. -/
theorem names_gained (matching : name ∈ filled.alsoMatching.map (·.name))
    (gained : name ∉ plain.alsoMatching.map (·.name)) :
    (∀ entry ∈ selection.entries, catalog.containsMember entry.category name = false) ∧
      ∃ added ∈ filled.supplementary, catalog.containsMember added.category name = true := by
  obtain ⟨priced, ⟨unselected, _⟩, listed⟩ := (mem_names_filled madeFilled).mp matching
  have unlisted : ¬∃ entry ∈ selection.entries, catalog.containsMember entry.category name = true :=
    fun listed => gained ((mem_names_plain madePlain).mpr ⟨priced, unselected, listed⟩)
  refine ⟨fun entry member => ?_, listed.resolve_left unlisted⟩
  exact Bool.eq_false_iff.mpr fun found => unlisted ⟨entry, member, found⟩

end Both

/-- A plan with filling and one without are refused alike or made alike, with the same valuations and supplementary
entries. The query of a selection is then extended by the alternatives of added categories, what also matches stays or
is added, and what matches besides is listed in added categories only. -/
theorem attempt_fill (catalog : Catalog) (pool : List Entry) (selection : Selection) :
    (∃ failure, attempt catalog pool selection true = .error failure ∧
      attempt catalog pool selection false = .error failure) ∨
    ∃ filled plain, attempt catalog pool selection true = .ok filled ∧
      attempt catalog pool selection false = .ok plain ∧
      filled.valuations = plain.valuations ∧ filled.supplementary = plain.supplementary ∧
      (selection.entries ≠ [] → ∃ text, plain.query = .ofList ('"' :: (text ++ ['"'])) ∧
        filled.query = .ofList ('"' :: ((text ++
          ((Entry.categories filled.supplementary).filter fun category =>
            !(Entry.categories selection.entries).contains category).flatMap fun category =>
              '|' :: Text.withoutQuotes (catalog.fragment.textOf category).toList) ++ ['"']))) ∧
      (∀ name ∈ plain.alsoMatching.map (·.name),
        name ∈ filled.alsoMatching.map (·.name) ∨ name ∈ filled.supplementary.map (·.name)) ∧
      ∀ name ∈ filled.alsoMatching.map (·.name), name ∉ plain.alsoMatching.map (·.name) →
        (∀ entry ∈ selection.entries, catalog.containsMember entry.category name = false) ∧
          ∃ added ∈ filled.supplementary, catalog.containsMember added.category name = true := by
  rcases attempt_cases catalog pool selection with ⟨failure, failed⟩ | ⟨plan, made⟩
  · exact Or.inl ⟨failure, failed true, failed false⟩
  · have attempted (fill : Bool) : attempt catalog pool selection fill = .ok (plan fill) :=
      Except.mapError_eq_ok_iff.mpr (made fill)
    refine Or.inr ⟨plan true, plan false, attempted true, attempted false, ?_⟩
    exact ⟨(valuations_of_make (made true)).trans (valuations_of_make (made false)).symm,
      supplementary_fill (made true) (made false), query_fill (made true) (made false),
      fun name => names_kept (made true) (made false), fun name => names_gained (made true) (made false)⟩

end ItemQuery.Plan
