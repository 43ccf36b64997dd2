import ItemQuery.Plan
import ItemQuery.Proofs.CategoryQuery
import ItemQuery.Proofs.Supplement.Failure

/-! When a plan is made.

Filling the query is the only stage that can be refused: it looks up every category that
the query and its other matches have. The refusal names the category of the first entry
that is looked up in vain.
-/

set_option autoImplicit false

namespace ItemQuery.Plan

/-- Make a plan; a refusal is one of the catalog. -/
def attempt (catalog : Catalog) (pool : List Entry) (selection : Selection) (fill : Bool) : Except QueryError Plan :=
  (make catalog pool selection fill).mapError .catalog

/-- The first selected entry without a category, or else the first one without among those that could be added. -/
def firstUnknown? (catalog : Catalog) (pool : List Entry) (selection : Selection) : Option Entry :=
  (selection.entries.find? fun entry => catalog.get? entry.category = none).or
    ((Supplement.ranked selection.entries pool).find? fun entry => catalog.get? entry.category = none)

variable {catalog : Catalog} {pool picked applied : List Entry} {selection : Selection} {fill : Bool} {plan : Plan}
  {cause : CatalogError}

theorem parts_of_make (made : make catalog pool selection fill = .ok plan) :
    Supplement.fill catalog.fragment selection.entries pool = .ok plan.supplement ∧
      plan.applied = (if fill then plan.supplementary else []) ∧
      CategoryQuery.compile catalog.fragment selection.entries plan.applied = .ok plan.query ∧
      CategoryQuery.alsoMatching catalog selection.entries plan.applied pool = .ok plan.alsoMatching := by
  obtain ⟨supplement, filled, rest⟩ := Except.bind_eq_ok_iff.mp made
  obtain ⟨query, compiled, rest⟩ := Except.bind_eq_ok_iff.mp rest
  obtain ⟨found, matched, same⟩ := Except.bind_eq_ok_iff.mp rest
  cases same
  exact ⟨filled, rfl, compiled, matched⟩

theorem supplementary_eq_picks (made : make catalog pool selection fill = .ok plan) :
    plan.supplementary = Supplement.picks catalog.fragment selection.entries pool := by
  have selected : Supplement.select catalog.fragment selection.entries pool = .ok plan.supplementary :=
    Except.map_eq_ok_iff.mpr ⟨plan.supplement, (parts_of_make made).1, rfl⟩
  exact (Supplement.select_eq_ok_iff.mp selected).2

/-- Entries that were picked have been looked up, so the later stages look them up, too. -/
theorem later_stages (selected : Supplement.select catalog.fragment selection.entries pool = .ok picked)
    (some : applied ⊆ picked) :
    (∃ query, CategoryQuery.compile catalog.fragment selection.entries applied = .ok query) ∧
      ∃ found, CategoryQuery.alsoMatching catalog selection.entries applied pool = .ok found := by
  obtain ⟨known, rfl⟩ := Supplement.select_eq_ok_iff.mp selected
  have knownApplied : ∀ entry ∈ selection.entries ++ applied, catalog.fragment.Knows entry.category := by
    intro entry member
    apply known
    rcases List.mem_append.mp member with member | member
    · exact List.mem_append_left _ member
    · exact List.mem_append_right _ (Supplement.mem_picks.mp (some member)).1
  obtain ⟨query, compiled, _⟩ := CategoryQuery.compile_of_known knownApplied
  exact ⟨⟨query, compiled⟩, CategoryQuery.exists_alsoMatching knownApplied⟩

theorem exists_make {outcome : Supplement.Outcome}
    (filled : Supplement.fill catalog.fragment selection.entries pool = .ok outcome) :
    ∃ plan, make catalog pool selection fill = .ok plan := by
  have selected : Supplement.select catalog.fragment selection.entries pool = .ok outcome.entries :=
    Except.map_eq_ok_iff.mpr ⟨outcome, filled, rfl⟩
  -- Whether the query is filled or not, it has only entries that were picked.
  have some : (if fill then outcome.entries else []) ⊆ outcome.entries := by
    cases fill
    · exact List.nil_subset _
    · exact List.Subset.refl _
  obtain ⟨⟨query, compiled⟩, found, matched⟩ := later_stages selected some
  exact ⟨⟨catalog.valuate pool, selection.entries, outcome, if fill then outcome.entries else [], found, query⟩,
    (Except.bind_eq_of_ok filled).trans ((Except.bind_eq_of_ok compiled).trans (Except.bind_eq_of_ok matched))⟩

theorem firstUnknown?_eq :
    firstUnknown? catalog pool selection =
      (selection.entries ++ Supplement.ranked selection.entries pool).find? (¬catalog.fragment.Knows ·.category) := by
  simp only [firstUnknown?, List.find?_append, Catalog.not_knows_fragment_iff]

theorem make_eq_error_iff_fill : make catalog pool selection fill = .error cause ↔
    Supplement.fill catalog.fragment selection.entries pool = .error cause := by
  cases filled : Supplement.fill catalog.fragment selection.entries pool with
  | ok outcome =>
    obtain ⟨plan, made⟩ : ∃ plan, make catalog pool selection fill = .ok plan := exists_make filled
    simp [made]
  | error reported =>
    have failed : make catalog pool selection fill = .error reported := Except.bind_eq_error_of_error filled
    rw [failed, Except.error.injEq, Except.error.injEq]

theorem make_eq_error_iff :
    make catalog pool selection fill = .error cause ↔
      ∃ entry, firstUnknown? catalog pool selection = some entry ∧ cause = .unknownCategory entry.category := by
  rw [make_eq_error_iff_fill, Supplement.fill_eq_error_iff, ← firstUnknown?_eq]
  refine exists_congr fun entry => and_congr_right fun first => ?_
  rw [firstUnknown?_eq] at first
  have missing : catalog.get? entry.category = none := by
    simpa [Catalog.not_knows_fragment_iff] using List.find?_some first
  rw [Catalog.fragment_of_missing missing, Except.error.injEq, eq_comm]

theorem attempt_eq_error_iff {failure : QueryError} :
    attempt catalog pool selection fill = .error failure ↔
      ∃ entry, firstUnknown? catalog pool selection = some entry ∧
        failure = .catalog (.unknownCategory entry.category) := by
  rw [attempt, Except.mapError_eq_error_iff]
  constructor
  · rintro ⟨cause, failed, rfl⟩
    obtain ⟨entry, first, rfl⟩ := make_eq_error_iff.mp failed
    exact ⟨entry, first, rfl⟩
  · rintro ⟨entry, first, rfl⟩
    exact ⟨_, make_eq_error_iff.mpr ⟨entry, first, rfl⟩, rfl⟩

theorem isSome_firstUnknown?_iff : (firstUnknown? catalog pool selection).isSome ↔
    (∃ entry ∈ selection.entries, catalog.get? entry.category = none) ∨
      ∃ entry ∈ pool, entry.name ∉ selection.names ∧ entry.value.exceeds Supplement.floor = true ∧
        catalog.get? entry.category = none := by
  simp only [firstUnknown?, Option.isSome_or, Bool.or_eq_true, List.find?_isSome, decide_eq_true_eq,
    Supplement.mem_ranked, Supplement.mem_eligible, and_assoc, Selection.names]

theorem attempt_fails_iff :
    (∃ failure, attempt catalog pool selection fill = .error failure) ↔
      (∃ entry ∈ selection.entries, catalog.get? entry.category = none) ∨
        ∃ entry ∈ pool, entry.name ∉ selection.names ∧ entry.value.exceeds Supplement.floor = true ∧
          catalog.get? entry.category = none := by
  rw [← isSome_firstUnknown?_iff, Option.isSome_iff_exists]
  constructor
  · rintro ⟨failure, failed⟩
    obtain ⟨first, found, _⟩ := attempt_eq_error_iff.mp failed
    exact ⟨first, found⟩
  · rintro ⟨first, found⟩
    exact ⟨_, attempt_eq_error_iff.mpr ⟨first, found, rfl⟩⟩

theorem exists_attempt (known : ∀ entry ∈ selection.entries, catalog.get? entry.category ≠ none)
    (cheap : ∀ entry ∈ pool, catalog.get? entry.category = none → entry.value.exceeds Supplement.floor = false) :
    ∃ plan, attempt catalog pool selection fill = .ok plan := by
  cases made : attempt catalog pool selection fill with
  | ok plan => exact ⟨plan, rfl⟩
  | error failure =>
    rcases attempt_fails_iff.mp ⟨failure, made⟩ with ⟨entry, member, missing⟩ | ⟨entry, member, _, worth, missing⟩
    · exact absurd missing (known entry member)
    · rw [cheap entry member missing] at worth
      cases worth

end ItemQuery.Plan
