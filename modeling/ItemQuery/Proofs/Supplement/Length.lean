import ItemQuery.Proofs.Catalog
import ItemQuery.Proofs.CategoryQuery
import ItemQuery.Proofs.Supplement.TwoPhase

/-! The length of a filled query.

The scan counts a separator for every category it admits and never counts less than two
characters in front of them. The query has that many characters when there is a mandatory
category, and is shorter when there is none.
-/

set_option autoImplicit false

namespace ItemQuery.Supplement

variable {fragment : FragmentSource} {mandatory pool : List Entry}

theorem filter_contains_of_sublist {kept items : List String} (sub : kept.Sublist items) (nodup : items.Nodup) :
    items.filter kept.contains = kept := by
  induction sub with
  | slnil => rfl
  | @cons kept items item sub ih =>
    obtain ⟨absent, nodup⟩ := List.nodup_cons.mp nodup
    have left : kept.contains item = false := by simpa using fun member => absent (sub.subset member)
    rw [List.filter_cons, left, ih nodup]
    rfl
  | @cons_cons kept items item sub ih =>
    obtain ⟨absent, nodup⟩ := List.nodup_cons.mp nodup
    have rest : items.filter (item :: kept).contains = items.filter kept.contains := by
      apply List.filter_congr
      intro other member
      have different : other ≠ item := fun same => absent (same ▸ member)
      simp [different]
    rw [List.filter_cons, rest, ih nodup]
    simp

/-- The new categories among the picked entries are the admitted ones, in the order of their admission. -/
theorem new_categories_picks (fragment : FragmentSource) (mandatory pool : List Entry) :
    (Entry.categories (picks fragment mandatory pool)).filter
        (fun category => !(Entry.categories mandatory).contains category) = admitted fragment mandatory pool := by
  have sub : (admitted fragment mandatory pool).Sublist (newCategories mandatory pool) := admissions_sublist _ _
  have nodup : (newCategories mandatory pool).Nodup := (Entry.nodup_categories _).filter _
  rw [picks, Entry.categories_filter fun category => (Entry.categories mandatory).contains category ||
    (admitted fragment mandatory pool).contains category, List.filter_filter]
  refine Eq.trans ?_ (filter_contains_of_sublist sub nodup)
  rw [newCategories, List.filter_filter]
  apply List.filter_congr
  intro category _
  cases (Entry.categories mandatory).contains category <;> simp

theorem categories_filled (fragment : FragmentSource) (mandatory pool : List Entry) :
    Entry.categories (mandatory ++ picks fragment mandatory pool) =
      Entry.categories mandatory ++ admitted fragment mandatory pool := by
  rw [Entry.categories_append, new_categories_picks]

/-- An entry whose category the filled query has is picked if it could be. -/
theorem mem_picks_of_represented {entry : Entry} (able : entry ∈ eligible mandatory pool)
    (represented : entry.category ∈ Entry.categories (mandatory ++ picks fragment mandatory pool)) :
    entry ∈ picks fragment mandatory pool := by
  rw [categories_filled, List.mem_append] at represented
  exact mem_picks.mpr ⟨able, represented⟩

/-- The admitted categories fit into what the mandatory ones leave of the budget. -/
theorem admitted_total_le (fragment : FragmentSource) (mandatory pool : List Entry) :
    baseLength fragment mandatory +
        ((admitted fragment mandatory pool).map fun category => 1 + (fragment.textOf category).length).sum ≤
      max (baseLength fragment mandatory) budget :=
  admissions_total_le (baseLength fragment mandatory) (newCategories mandatory pool)

/-- A filled query stays within the budget unless the mandatory categories exceed it on their own, and then
nothing is added. It grows by exactly what the admitted categories cost. -/
theorem filled_query_length (catalog : Catalog) (mandatory pool picked : List Entry) (built : catalog.Built)
    (selected : select catalog.fragment mandatory pool = .ok picked) :
    ∃ chosen filled : String,
      CategoryQuery.compile catalog.fragment mandatory [] = .ok chosen ∧
      CategoryQuery.compile catalog.fragment mandatory picked = .ok filled ∧
      (Text.unquoted filled.toList).length ≤ max budget (Text.unquoted chosen.toList).length ∧
      (budget ≤ (Text.unquoted chosen.toList).length → filled = chosen) ∧
      (mandatory = [] → (Text.unquoted filled.toList).length ≤ 47) ∧
      (2 ≤ (Text.unquoted chosen.toList).length →
        (Text.unquoted filled.toList).length = (Text.unquoted chosen.toList).length +
          (((Entry.categories picked).filter fun category => !(Entry.categories mandatory).contains category).map
            fun category => 1 + (catalog.fragment.textOf category).length).sum) := by
  obtain ⟨known, rfl⟩ := select_eq_ok_iff.mp selected
  obtain ⟨knownMandatory, knownEligible⟩ := List.forall_mem_append.mp known
  have knownChosen : ∀ entry ∈ mandatory ++ [], catalog.fragment.Knows entry.category := by rwa [List.append_nil]
  have knownPicked : ∀ entry ∈ picks catalog.fragment mandatory pool, catalog.fragment.Knows entry.category :=
    fun entry member => knownEligible entry (mem_ranked.mp (List.mem_filter.mp member).1)
  obtain ⟨chosen, compiled, chosenContent⟩ := CategoryQuery.compile_of_known knownChosen
  obtain ⟨filled, compiledFilled, filledContent⟩ := CategoryQuery.compile_of_known
    (List.forall_mem_append.mpr ⟨knownMandatory, knownPicked⟩)
  rw [List.append_nil, CategoryQuery.content_eq_joined built.quote_not_mem] at chosenContent
  rw [categories_filled, CategoryQuery.content_eq_joined built.quote_not_mem] at filledContent
  refine ⟨chosen, filled, compiled, compiledFilled, ?_⟩
  rw [new_categories_picks, chosenContent, filledContent]
  have bound := admitted_total_le catalog.fragment mandatory pool
  simp only [baseLength, leastUsed, budget] at bound ⊢
  by_cases unmet : Entry.categories mandatory = []
  -- The two characters counted from the start and the first separator are not in the query.
  · have short := catalog.fragment.length_joined (admitted catalog.fragment mandatory pool)
    have base : (catalog.fragment.joined []).length = 0 := rfl
    rw [unmet, base] at bound
    rw [unmet, List.nil_append, short, base]
    refine ⟨by omega, fun long => by omega, fun _ => by omega, fun long => by omega⟩
  · have grown := catalog.fragment.length_joined_append unmet (admitted catalog.fragment mandatory pool)
    have met : mandatory ≠ [] := fun none => unmet (by rw [none, Entry.categories])
    refine ⟨by omega, fun long => ?_, fun none => absurd none met, fun _ => grown⟩
    -- No category fits behind fifty characters, so both queries have the same categories.
    have nothing : admitted catalog.fragment mandatory pool = [] := by
      cases entered : admitted catalog.fragment mandatory pool with
      | nil => rfl
      | cons category rest =>
        rw [entered, List.map_cons, List.sum_cons] at bound
        omega
    have same : Entry.categories (mandatory ++ picks catalog.fragment mandatory pool) =
        Entry.categories (mandatory ++ []) := by
      rw [categories_filled, nothing, List.append_nil, List.append_nil]
    exact Except.ok.inj (compiledFilled.symm.trans ((CategoryQuery.compile_congr same).trans compiled))

section Limit

/-- Fragments of four, four and forty characters without their quotes. -/
def shelves : List Category :=
  [.of "Ring" "Ring" "\"d ri\"" [], .of "Belt" "Belt" "r be" [],
    .of "Staff" "Staff" "Stäbe der Hüter über den kühlen Höhen 40" []]

def worn : List Entry := [⟨"Band", "Ring", ⟨0x408C200000000000⟩, "", none⟩, ⟨"Sash", "Belt", ⟨0⟩, "", none⟩]

def offered : List Entry :=
  [⟨"Penny", "Coin", ⟨0x4069000000000000⟩, "", none⟩, ⟨"Cane", "Staff", ⟨0x407F400000000000⟩, "", none⟩]

theorem filled_query_length_limit :
    (Catalog.ofCategories shelves).Built ∧
    select (Catalog.ofCategories shelves).fragment worn offered =
      .ok [⟨"Cane", "Staff", ⟨0x407F400000000000⟩, "", none⟩] ∧
    ∃ chosen filled : String,
      CategoryQuery.compile (Catalog.ofCategories shelves).fragment worn [] = .ok chosen ∧
      CategoryQuery.compile (Catalog.ofCategories shelves).fragment worn
        [⟨"Cane", "Staff", ⟨0x407F400000000000⟩, "", none⟩] = .ok filled ∧
      (Text.unquoted filled.toList).length ≤ max budget (Text.unquoted chosen.toList).length := by
  have built : (Catalog.ofCategories shelves).Built := .ofCategories fun category member => by
    simp only [shelves, List.mem_cons, List.not_mem_nil, or_false] at member
    rcases member with rfl | rfl | rfl <;> exact ⟨_, _, _, _, rfl⟩
  have selected : select (Catalog.ofCategories shelves).fragment worn offered =
      .ok [⟨"Cane", "Staff", ⟨0x407F400000000000⟩, "", none⟩] := rfl
  obtain ⟨chosen, filled, compiled, compiledFilled, bound, _⟩ :=
    filled_query_length (Catalog.ofCategories shelves) worn offered _ built selected
  exact ⟨built, selected, chosen, filled, compiled, compiledFilled, bound⟩

end Limit

end ItemQuery.Supplement
