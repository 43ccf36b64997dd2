import ItemQuery.Proofs.Clause.Grammar
import ItemQuery.Proofs.Pattern.Shorten
import ItemQuery.Proofs.Text.Spacing

/-! Clauses in a finished query.

Collapsing the blanks and shortening the classes go through the query as a whole. Double
quotes and the spaces between clauses stop both, so each clause is changed on its own.
-/

set_option autoImplicit false

namespace ItemQuery

namespace Clause

variable {clause : Clause}

/-- The clause with its own blanks collapsed and its own classes shortened. -/
def tidy : Clause → Clause
  | quoted content => quoted (Pattern.shorten (Text.squeeze content))
  | bare content => bare (Pattern.shorten (Text.squeeze content))

theorem text_tidy (clause : Clause) : clause.tidy.text = Pattern.shorten (Text.squeeze clause.text) := by
  cases clause with
  | bare content => rfl
  | quoted content =>
    have whole : Text.squeeze ('"' :: (content ++ ['"'])) = '"' :: (Text.squeeze content ++ ['"']) := by
      rw [Text.squeeze_cons rfl, Text.squeeze_concat rfl]
    rw [text, whole, Pattern.shorten_cons (by decide), Pattern.shorten_append_separator (by decide)]
    rfl

theorem WellFormed.tidy (formed : clause.WellFormed) : clause.tidy.WellFormed := by
  cases clause with
  | quoted content =>
    intro found
    rcases Pattern.mem_shorten found with found | found
    · exact (Text.mem_squeeze found).elim formed (by decide)
    · exact absurd found (by decide)
  | bare content =>
    obtain ⟨nonempty, plain⟩ := formed
    rw [Clause.tidy, Text.squeeze_words fun c inside => (plain c inside).1]
    refine ⟨Pattern.shorten_ne_nil nonempty, fun c found => ?_⟩
    rcases Pattern.mem_shorten found with found | found
    · exact plain c found
    · have written : ['[', '8', '9', ']'].all (fun c => !Text.isBlank c && c != '"') = true := rfl
      simpa using List.all_eq_true.mp written c found

theorem WellFormed.solid (formed : clause.WellFormed) : Text.Solid clause.text := by
  cases clause with
  | quoted content => exact ⟨⟨_, _, rfl, rfl⟩, '"' :: content, '"', rfl, rfl⟩
  | bare content =>
    obtain ⟨nonempty, plain⟩ := formed
    obtain ⟨c, rest, rfl⟩ := List.exists_cons_of_ne_nil nonempty
    refine ⟨⟨c, rest, rfl, (plain c List.mem_cons_self).1⟩, _, _, (List.dropLast_append_getLast nonempty).symm, ?_⟩
    exact (plain _ (List.getLast_mem nonempty)).1

theorem text_eq_nil_iff (formed : clause.WellFormed ∨ clause = bare []) : clause.text = [] ↔ clause = bare [] := by
  rcases formed with formed | rfl
  · refine iff_of_false formed.text_ne_nil ?_
    rintro rfl
    exact formed.1 rfl
  · exact iff_of_true rfl rfl

/-- The parts that a group brings to a query; an empty group brings an empty part. -/
def parts (group : List Clause) : List (List Char) := if group = [] then [[]] else group.map text

theorem groupText_eq (group : List Clause) : groupText group = Text.join ' ' (parts group) := by
  unfold parts
  split_ifs with empty
  · rw [empty]
    rfl
  · rfl

theorem parts_ne_nil (group : List Clause) : parts group ≠ [] := by
  unfold parts
  split_ifs with empty
  · exact List.cons_ne_nil _ _
  · exact mt List.map_eq_nil_iff.mp empty

theorem filter_parts {group : List Clause} (formed : ∀ clause ∈ group, clause.WellFormed ∨ clause = bare []) :
    (parts group).filter (· ≠ []) = (group.filter (· ≠ bare [])).map text := by
  unfold parts
  split_ifs with empty
  · rw [empty]
    rfl
  · rw [List.filter_map]
    apply congrArg (List.map text)
    apply List.filter_congr
    intro clause inside
    simpa using text_eq_nil_iff (formed clause inside)

theorem mem_parts {group : List Clause} (formed : ∀ clause ∈ group, clause.WellFormed ∨ clause = bare [])
    {part : List Char} (inside : part ∈ parts group) : part = [] ∨ Text.Solid part := by
  unfold parts at inside
  split_ifs at inside
  · exact Or.inl (List.mem_singleton.mp inside)
  · obtain ⟨clause, listed, rfl⟩ := List.mem_map.mp inside
    rcases formed clause listed with formed | rfl
    · exact Or.inr formed.solid
    · exact Or.inl rfl

theorem assemble_eq {groups : List (List Clause)}
    (formed : ∀ clause ∈ groups.flatten, clause.WellFormed ∨ clause = bare []) :
    MapModifiers.assemble groups = groupText ((groups.flatten.filter (· ≠ bare [])).map tidy) := by
  have inside {group : List Clause} (listed : group ∈ groups) :
      ∀ clause ∈ group, clause.WellFormed ∨ clause = bare [] :=
    fun clause member => formed clause (List.mem_flatten.mpr ⟨group, listed, member⟩)
  have joined : Text.join ' ' (groups.map groupText) = Text.join ' ' (groups.flatMap parts) := by
    have each : groups.map groupText = (groups.map parts).map (Text.join ' ') := by
      rw [List.map_map]
      apply List.map_congr_left
      intro group _
      exact groupText_eq group
    rw [each, Text.join_join (List.forall_mem_map.mpr fun group _ => parts_ne_nil group), List.flatMap_def]
  -- Collapsing drops the empty parts, which are those of empty groups and empty clauses.
  have solid : ∀ part ∈ groups.flatMap parts, part = [] ∨ Text.Solid part := by
    intro part member
    obtain ⟨group, listed, member⟩ := List.mem_flatMap.mp member
    exact mem_parts (inside listed) member
  have kept : (groups.flatMap parts).filter (· ≠ []) = (groups.flatten.filter (· ≠ bare [])).map text := by
    rw [List.filter_flatMap, List.filter_flatten, List.map_flatten, List.map_map, List.flatMap_def]
    apply congrArg List.flatten
    apply List.map_congr_left
    intro group listed
    exact filter_parts (inside listed)
  rw [MapModifiers.assemble, joined, Text.collapse_join solid, kept, Pattern.shorten_join (by decide), groupText,
    List.map_map, List.map_map, List.map_map]
  apply congrArg (Text.join ' ')
  apply List.map_congr_left
  intro clause _
  exact (text_tidy clause).symm

end Clause

end ItemQuery
