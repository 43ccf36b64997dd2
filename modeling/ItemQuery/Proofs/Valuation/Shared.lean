import ItemQuery.Proofs.Offers

/-! Names that several categories list.

Members are priced by name. A name that several categories list is worth the same in all of
them, the cheapest offer of the name under any of these categories, and it lacks a price in
all of them or in none. Only a name that no other category lists is surely priced by an
entry of its own category.
-/

set_option autoImplicit false

namespace ItemQuery

namespace Valuation

variable {catalog : Catalog} {prices : List Entry} {valuation : Valuation} {entry : Entry} {member : Member}

theorem priced_mem_listing_iff (valued : valuation ∈ catalog.valuate prices) :
    .priced entry ∈ valuation.listing ↔
      Entry.lastNamed? entry.name prices = some entry ∧ valuation.category.hasMember entry.name = true := by
  obtain ⟨category, _, rfl⟩ := mem_valuate.mp valued
  rw [mem_listing]
  constructor
  · rintro ⟨listed, member, priced⟩
    have found := PricedMember.ofMember_eq_priced_iff.mp priced
    have same := Entry.name_of_lastNamed? found
    exact ⟨same ▸ found, Category.hasMember_iff.mpr ⟨listed, member, same.symm⟩⟩
  · rintro ⟨found, hasMember⟩
    obtain ⟨listed, member, same⟩ := Category.hasMember_iff.mp hasMember
    exact ⟨listed, member, PricedMember.ofMember_eq_priced_iff.mpr (same ▸ found)⟩

theorem unpriced_mem_listing_iff (valued : valuation ∈ catalog.valuate prices) :
    .unpriced member ∈ valuation.listing ↔
      member ∈ valuation.category.members ∧ ∀ offer ∈ prices, offer.name ≠ member.name := by
  obtain ⟨category, _, rfl⟩ := mem_valuate.mp valued
  rw [mem_listing, ← Entry.lastNamed?_eq_none_iff]
  constructor
  · rintro ⟨listed, member, unpriced⟩
    obtain ⟨rfl, none⟩ := PricedMember.ofMember_eq_unpriced_iff.mp unpriced
    exact ⟨member, none⟩
  · rintro ⟨listed, none⟩
    exact ⟨member, listed, PricedMember.ofMember_eq_unpriced_iff.mpr ⟨rfl, none⟩⟩

end Valuation

namespace Feed

/-- What prices a member is the cheapest offer of its name, whatever category the offer is of. It is of the category
that is valued if no other category lists the name. So a shared name has one price in all its categories, and it
lacks one only if there is no offer of it in any category. -/
theorem listing_shared (catalog : Catalog) (feed : Feed) (valuation : Valuation)
    (valued : valuation ∈ catalog.valuate (feed.obtainable catalog)) :
    (valuation.listing.map (·.name)).Perm (valuation.category.members.map (·.name)) ∧
    (∀ entry, .priced entry ∈ valuation.listing →
      entry ∈ feed.obtainable catalog ∧ Sorting.IsLast Entry.byValue (feed.offers catalog entry.name) entry ∧
      (catalog.ListsUnder valuation.category.key entry.name → entry.category = valuation.category.key) ∧
      ∀ other ∈ catalog.valuate (feed.obtainable catalog), other.category.hasMember entry.name = true →
        .priced entry ∈ other.listing) ∧
    ∀ member ∈ valuation.category.members,
      .unpriced member ∈ valuation.listing ↔ ∀ offer ∈ feed.obtainable catalog, offer.name ≠ member.name := by
  refine ⟨Valuation.names_listing_perm valued, fun entry priced => ?_, fun member listed => ?_⟩
  · obtain ⟨found, _⟩ := (Valuation.priced_mem_listing_iff valued).mp priced
    have obtainable := Entry.mem_of_lastNamed? found
    exact ⟨obtainable, isLast_cheapest found, fun sole => sole.key_eq (containsMember_of_mem_obtainable obtainable),
      fun other otherValued listed => (Valuation.priced_mem_listing_iff otherValued).mpr ⟨found, listed⟩⟩
  · rw [Valuation.unpriced_mem_listing_iff valued, and_iff_right listed]

section Bands

/-- Bands are rings and amulets, charms are amulets only. -/
def trinkets : Catalog :=
  .ofCategories [.of "Ring" "Ring" "d ri" [⟨"Band", "Ring", ""⟩],
    .of "Amulet" "Amulet" "mbe" [⟨"Band", "Amulet", ""⟩, ⟨"Charm", "Amulet", ""⟩]]

def ringFeed : Feed := ⟨[bandAt ⟨0x4069000000000000⟩, bandAt ⟨0x4062C00000000000⟩]⟩

def amulet : Valuation :=
  ⟨.of "Amulet" "Amulet" "mbe" [⟨"Band", "Amulet", ""⟩, ⟨"Charm", "Amulet", ""⟩],
    .unresolved [.priced (bandAt ⟨0x4062C00000000000⟩), .unpriced ⟨"Charm", "Amulet", ""⟩]⟩

theorem listing_shared_amulet :
    amulet ∈ trinkets.valuate (ringFeed.obtainable trinkets) ∧
      Sorting.IsLast Entry.byValue (ringFeed.offers trinkets "Band") (bandAt ⟨0x4062C00000000000⟩) ∧
      ∀ offer ∈ ringFeed.obtainable trinkets, offer.name ≠ "Charm" := by
  have valued : amulet ∈ trinkets.valuate (ringFeed.obtainable trinkets) := by decide
  obtain ⟨_, priced, unpriced⟩ := listing_shared trinkets ringFeed amulet valued
  exact ⟨valued, (priced (bandAt ⟨0x4062C00000000000⟩) (by decide)).2.1,
    (unpriced ⟨"Charm", "Amulet", ""⟩ (by decide)).mp (by decide)⟩

/-- The only offers are rings, and yet the amulet of their name is priced by one of them. -/
theorem not_priced_by_own_category :
    (∀ offer ∈ ringFeed.obtainable trinkets, offer.category = "Ring") ∧
      ¬∀ valuation ∈ trinkets.valuate (ringFeed.obtainable trinkets), ∀ entry, .priced entry ∈ valuation.listing →
        entry.category = valuation.category.key := by
  refine ⟨by decide, fun own => ?_⟩
  have same := own amulet (by decide) (bandAt ⟨0x4062C00000000000⟩) (by decide)
  exact absurd same (by decide)

end Bands

end Feed

end ItemQuery
