import Mathlib.Data.List.Forall2

/-! Look-ups: the last item of a kind, and what is found for each item of a list. -/

set_option autoImplicit false

namespace ItemQuery

variable {α β : Type} {find? : α → Option β} {items : List α}

/-- The last item of a kind has no other of the kind behind it. -/
theorem find?_reverse_eq_some_iff {kind : α → Bool} {item : α} : items.reverse.find? kind = some item ↔
    kind item = true ∧ ∃ before after, items = before ++ item :: after ∧ ∀ other ∈ after, kind other = false := by
  rw [List.find?_eq_some_iff_append]
  refine and_congr_right fun _ => ?_
  constructor
  · rintro ⟨after, before, reversed, others⟩
    refine ⟨before.reverse, after.reverse, ?_, by simpa using others⟩
    rw [← List.reverse_reverse items, reversed]
    simp
  · rintro ⟨before, after, rfl, others⟩
    exact ⟨after.reverse, before.reverse, by simp, by simpa using others⟩

theorem mapM_eq_some_iff {results : List β} :
    items.mapM find? = some results ↔ List.Forall₂ (fun item result => find? item = some result) items results := by
  induction items generalizing results with
  | nil => simp
  | cons item rest ih =>
    simp only [List.mapM_cons, Option.bind_eq_bind, Option.pure_def, Option.bind_eq_some_iff, Option.some.injEq,
      List.forall₂_cons_left_iff, ih]
    constructor
    · rintro ⟨result, first, others, found, rfl⟩
      exact ⟨result, others, first, found, rfl⟩
    · rintro ⟨result, others, first, found, rfl⟩
      exact ⟨result, first, others, found, rfl⟩

theorem exists_mapM_eq_some_iff :
    (∃ results, items.mapM find? = some results) ↔ ∀ item ∈ items, ∃ result, find? item = some result := by
  induction items with
  | nil => simp
  | cons item rest ih =>
    rw [List.forall_mem_cons, ← ih]
    simp [Option.bind_eq_some_iff]

end ItemQuery
