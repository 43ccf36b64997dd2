/-! Lists without their repetitions: each item once, at the place where it is first met. -/

set_option autoImplicit false

namespace List

variable {α : Type} [DecidableEq α]

/-- Leaving items out and leaving repetitions out does not depend on which comes first. -/
theorem eraseDups_filter (keep : α → Bool) (items : List α) :
    (items.filter keep).eraseDups = items.eraseDups.filter keep := by
  cases items with
  | nil => rfl
  | cons item rest =>
    have later := eraseDups_filter keep (rest.filter fun other => !other == item)
    rw [eraseDups_cons, filter_cons, filter_cons, ← later, filter_filter]
    cases kept : keep item with
    | true =>
      rw [if_pos rfl, if_pos rfl, eraseDups_cons, filter_filter]
      simp only [Bool.and_comm]
    | false =>
      rw [if_neg Bool.false_ne_true, if_neg Bool.false_ne_true]
      congr 1
      refine filter_congr fun other _ => ?_
      by_cases same : other = item
      · simp [same, kept]
      · simp [same]
termination_by items.length
decreasing_by exact Nat.lt_succ_of_le (length_filter_le _ _)

theorem eraseDups_cons_filter (item : α) (rest : List α) :
    (item :: rest).eraseDups = item :: rest.eraseDups.filter (· ≠ item) := by
  rw [eraseDups_cons, eraseDups_filter]
  simp only [ne_eq, decide_not]
  rfl

theorem nodup_eraseDups (items : List α) : items.eraseDups.Nodup := by
  induction items with
  | nil => exact .nil
  | cons item rest ih =>
    rw [eraseDups_cons_filter]
    exact nodup_cons.mpr ⟨by simp, ih.filter _⟩

theorem eraseDups_eq_self {items : List α} (distinct : items.Nodup) : items.eraseDups = items := by
  induction items with
  | nil => rfl
  | cons item rest ih =>
    obtain ⟨new, distinctRest⟩ := nodup_cons.mp distinct
    have others : rest.filter (· ≠ item) = rest :=
      filter_eq_self.mpr fun other member => decide_eq_true fun same => new (same ▸ member)
    rw [eraseDups_cons_filter, ih distinctRest, others]

theorem exists_find?_eraseDups_iff {β : Type} {f : β → α} {holds : α → Bool} {items : List β} :
    (∃ found, (items.map f).eraseDups.find? holds = some found) ↔ ∃ item ∈ items, holds (f item) = true := by
  rw [← Option.isSome_iff_exists, find?_isSome]
  simp only [mem_eraseDups, mem_map]
  constructor
  · rintro ⟨_, ⟨item, member, rfl⟩, held⟩
    exact ⟨item, member, held⟩
  · rintro ⟨item, member, held⟩
    exact ⟨f item, ⟨item, member, rfl⟩, held⟩

theorem eraseDups_concat_of_mem {items : List α} {item : α} (met : item ∈ items) :
    (items ++ [item]).eraseDups = items.eraseDups := by
  rw [eraseDups_append, removeAll, filter_cons_of_neg (by simpa using met)]
  simp

theorem eraseDups_concat_of_not_mem {items : List α} {item : α} (new : item ∉ items) :
    (items ++ [item]).eraseDups = items.eraseDups ++ [item] := by
  rw [eraseDups_append, removeAll, filter_cons_of_pos (by simpa using new)]
  simp [eraseDups_cons]

end List
