import ItemQuery.Proofs.Feed
import ItemQuery.Proofs.Plan.Making
import ItemQuery.Proofs.Supplement.Length

/-! What a filled plan reports of the pool entries that its query covers.

A covered name is selected, or it is added if some entry of it is worth enough, or else it
is listed as also matching. A category is filled as a whole, so no valuable name of a
represented category is left out.
-/

set_option autoImplicit false

namespace ItemQuery.Plan

/-- Some pool entry of the name has a category that the filled query has. -/
def Covers (plan : Plan) (selection : Selection) (pool : List Entry) (name : String) : Prop :=
  ∃ entry ∈ pool, entry.name = name ∧ entry.category ∈ Entry.categories (selection.entries ++ plan.supplementary)

/-- Some pool entry of the name is worth more than the floor. -/
def Worthy (pool : List Entry) (name : String) : Prop :=
  ∃ entry ∈ pool, entry.name = name ∧ entry.value.exceeds Supplement.floor = true

variable {catalog : Catalog} {feed : Feed} {selection : Selection} {plan : Plan} {fill : Bool} {name : String}

theorem mem_names_supplementary (single : catalog.SingleListing)
    (made : make catalog (feed.obtainable catalog) selection fill = .ok plan) :
    name ∈ plan.supplementary.map (·.name) ↔ plan.Covers selection (feed.obtainable catalog) name ∧
      name ∉ selection.names ∧ Worthy (feed.obtainable catalog) name := by
  have picked := supplementary_eq_picks made
  constructor
  · intro named
    obtain ⟨entry, member, rfl⟩ := List.mem_map.mp named
    have able := Supplement.mem_eligible.mp (Supplement.mem_picks.mp (picked ▸ member)).1
    have represented : entry.category ∈ Entry.categories (selection.entries ++ plan.supplementary) :=
      Entry.mem_categories.mpr (List.mem_map.mpr ⟨entry, List.mem_append_right _ member, rfl⟩)
    exact ⟨⟨entry, able.1, rfl, represented⟩, able.2.1, ⟨entry, able.1, rfl, able.2.2⟩⟩
  · rintro ⟨⟨covered, coveredMember, rfl, represented⟩, unselected, ⟨entry, member, same, worth⟩⟩
    -- The valuable entry of the name need not be the covered one, but it has the same category.
    rw [← Feed.singleCategory_obtainable single feed entry member covered coveredMember same, picked] at represented
    have able : entry ∈ Supplement.eligible selection.entries (feed.obtainable catalog) :=
      Supplement.mem_eligible.mpr ⟨member, same ▸ unselected, worth⟩
    rw [picked]
    exact List.mem_map.mpr ⟨entry, Supplement.mem_picks_of_represented able represented, same⟩

theorem mem_names_alsoMatching (single : catalog.SingleListing)
    (made : make catalog (feed.obtainable catalog) selection true = .ok plan) :
    name ∈ plan.alsoMatching.map (·.name) ↔ plan.Covers selection (feed.obtainable catalog) name ∧
      name ∉ selection.names ∧ ¬Worthy (feed.obtainable catalog) name := by
  obtain ⟨_, applied, _, matched⟩ := parts_of_make made
  rw [applied, if_pos rfl] at matched
  rw [CategoryQuery.mem_names_alsoMatching matched, List.map_append, List.mem_append, not_or]
  constructor
  · rintro ⟨priced, ⟨unselected, unadded⟩, given, givenMember, listed⟩
    obtain ⟨entry, member, rfl⟩ := List.mem_map.mp priced
    have sameCategory := single.key_eq listed (Feed.containsMember_of_mem_obtainable member)
    have covered : plan.Covers selection (feed.obtainable catalog) entry.name :=
      ⟨entry, member, rfl, Entry.mem_categories.mpr (List.mem_map.mpr ⟨given, givenMember, sameCategory⟩)⟩
    -- A name that is worth it would have come in, and so would have been given.
    exact ⟨covered, unselected, fun worthy =>
      unadded ((mem_names_supplementary single made).mpr ⟨covered, unselected, worthy⟩)⟩
  · rintro ⟨⟨covered, member, rfl, represented⟩, unselected, cheap⟩
    obtain ⟨given, givenMember, sameCategory⟩ := List.mem_map.mp (Entry.mem_categories.mp represented)
    have listed : catalog.containsMember given.category covered.name = true := by
      rw [sameCategory]
      exact Feed.containsMember_of_mem_obtainable member
    have unadded : covered.name ∉ plan.supplementary.map (·.name) := fun added =>
      cheap ((mem_names_supplementary single made).mp added).2.2
    exact ⟨List.mem_map_of_mem member, ⟨unselected, unadded⟩, given, givenMember, listed⟩

/-- A covered name is either selected, or it is added because some entry of it is worth more than the floor, or it is
also matching because none is. No other names are added or also matching. -/
theorem filled_names (catalog : Catalog) (feed : Feed) (selection : Selection) (plan : Plan)
    (single : catalog.SingleListing) (made : make catalog (feed.obtainable catalog) selection true = .ok plan) :
    (∀ name, plan.Covers selection (feed.obtainable catalog) name →
      name ∈ selection.names ∧ name ∉ plan.supplementary.map (·.name) ∧ name ∉ plan.alsoMatching.map (·.name) ∨
      name ∉ selection.names ∧ Worthy (feed.obtainable catalog) name ∧
        name ∈ plan.supplementary.map (·.name) ∧ name ∉ plan.alsoMatching.map (·.name) ∨
      name ∉ selection.names ∧ ¬Worthy (feed.obtainable catalog) name ∧
        name ∉ plan.supplementary.map (·.name) ∧ name ∈ plan.alsoMatching.map (·.name)) ∧
    ∀ name, name ∈ plan.supplementary.map (·.name) ∨ name ∈ plan.alsoMatching.map (·.name) →
      plan.Covers selection (feed.obtainable catalog) name ∧ name ∉ selection.names := by
  refine ⟨fun name covered => ?_, fun name reported => ?_⟩
  · rw [mem_names_supplementary single made, mem_names_alsoMatching single made]
    by_cases selected : name ∈ selection.names
    · exact Or.inl ⟨selected, fun added => added.2.1 selected, fun found => found.2.1 selected⟩
    · by_cases worthy : Worthy (feed.obtainable catalog) name
      · exact Or.inr (Or.inl ⟨selected, worthy, ⟨covered, selected, worthy⟩, fun found => found.2.2 worthy⟩)
      · exact Or.inr (Or.inr ⟨selected, worthy, fun added => worthy added.2.2, ⟨covered, selected, worthy⟩⟩)
  · rcases reported with added | found
    · obtain ⟨covered, unselected, _⟩ := (mem_names_supplementary single made).mp added
      exact ⟨covered, unselected⟩
    · obtain ⟨covered, unselected, _⟩ := (mem_names_alsoMatching single made).mp found
      exact ⟨covered, unselected⟩

section Jewellery

def jewellery : Catalog :=
  .ofCategories [.of "Ring" "Ring" "d ri" [⟨"Band", "Ring", ""⟩, ⟨"Loop", "Ring", ""⟩, ⟨"Hoop", "Ring", ""⟩],
    .of "Staff" "Staff" "st" [⟨"Cane", "Staff", ""⟩, ⟨"Crook", "Staff", ""⟩], .of "Belt" "Belt" "r be" []]

/-- A loop worth more than the floor and one worth less, a linked cane, and a sash that its category does not list. -/
def jewelleryFeed : Feed :=
  ⟨[⟨"Loop", "Ring", ⟨0x4062C00000000000⟩, "", none⟩, ⟨"Band", "Ring", ⟨0x408C200000000000⟩, "", none⟩,
    ⟨"Hoop", "Ring", ⟨0x4069000000000000⟩, "", none⟩, ⟨"Cane", "Staff", ⟨0x408C200000000000⟩, "", some 6⟩,
    ⟨"Cane", "Staff", ⟨0x407F400000000000⟩, "", none⟩, ⟨"Loop", "Ring", ⟨0x4072C00000000000⟩, "", none⟩,
    ⟨"Sash", "Belt", ⟨0x408C200000000000⟩, "", none⟩, ⟨"Crook", "Staff", ⟨0x7FF8000000000000⟩, "", none⟩]⟩

def band : Entry := ⟨"Band", "Ring", ⟨0x408C200000000000⟩, "", none⟩

/-- The band is selected; the cane comes in and the dear loop rides along, the hoop and the crook are not worth it. -/
theorem filled_names_jewellery :
    jewellery.SingleListing ∧
    ∃ plan, make jewellery (jewelleryFeed.obtainable jewellery) ⟨[band]⟩ true = .ok plan ∧
      plan.supplementary.map (·.name) = ["Cane", "Loop"] ∧ plan.alsoMatching.map (·.name) = ["Crook", "Hoop"] ∧
      ∀ name, name ∈ ["Cane", "Loop"] ∨ name ∈ ["Crook", "Hoop"] →
        plan.Covers ⟨[band]⟩ (jewelleryFeed.obtainable jewellery) name ∧ name ∉ Selection.names ⟨[band]⟩ := by
  have single : jewellery.SingleListing := by decide
  obtain ⟨plan, made, added, found⟩ : ∃ plan, make jewellery (jewelleryFeed.obtainable jewellery) ⟨[band]⟩ true =
      .ok plan ∧ plan.supplementary.map (·.name) = ["Cane", "Loop"] ∧
      plan.alsoMatching.map (·.name) = ["Crook", "Hoop"] := ⟨_, rfl, rfl, rfl⟩
  have reported := (filled_names jewellery jewelleryFeed ⟨[band]⟩ plan single made).2
  rw [added, found] at reported
  exact ⟨single, plan, made, added, found, reported⟩

end Jewellery

end ItemQuery.Plan
