import ItemQuery.Plan
import ItemQuery.Proofs.CategoryQuery
import ItemQuery.Proofs.Feed
import ItemQuery.Proofs.Selection
import ItemQuery.Proofs.Valuation

/-! Which of several offers of one name is used.

The pool has the most valuable entries first. Selecting a name takes its first pool entry,
valuing a member and listing what else matches take the last one. So the dearest offer is
selected and the cheapest is what the name is worth, whichever came last in the feed.
-/

set_option autoImplicit false

namespace ItemQuery.Feed

def offers (feed : Feed) (catalog : Catalog) (name : String) : List Entry :=
  (feed.entries.filter (isObtainable catalog)).filter (·.name == name)

variable {feed : Feed} {catalog : Catalog} {name : String} {offer latest dearest cheapest : Entry}

theorem mem_offers : offer ∈ feed.offers catalog name ↔ offer ∈ feed.obtainable catalog ∧ offer.name = name := by
  rw [offers, obtainable, Entry.sort, List.mem_filter, Sorting.mem_sort, beq_iff_eq]

theorem isFirst_dearest (found : Entry.named? name (feed.obtainable catalog) = some dearest) :
    Sorting.IsFirst Entry.byValue (feed.offers catalog name) dearest :=
  Entry.isFirst_of_named?_sort found

theorem isLast_cheapest (found : Entry.lastNamed? name (feed.obtainable catalog) = some cheapest) :
    Sorting.IsLast Entry.byValue (feed.offers catalog name) cheapest :=
  Entry.isLast_of_lastNamed?_sort found

theorem listing_priced (found : Entry.lastNamed? name (feed.obtainable catalog) = some cheapest) :
    ∀ valuation ∈ catalog.valuate (feed.obtainable catalog), ∀ member ∈ valuation.listing, member.name = name →
      member = .priced cheapest := by
  intro valuation valued member listed named
  obtain ⟨category, _, rfl⟩ := Valuation.mem_valuate.mp valued
  obtain ⟨member, _, rfl⟩ := Valuation.mem_listing.mp listed
  rw [PricedMember.name_ofMember] at named
  subst named
  exact PricedMember.ofMember_of_found found

theorem exists_listing (offered : offer ∈ feed.offers catalog name)
    (found : Entry.lastNamed? name (feed.obtainable catalog) = some cheapest) :
    ∃ valuation ∈ catalog.valuate (feed.obtainable catalog), .priced cheapest ∈ valuation.listing := by
  obtain ⟨obtainable, rfl⟩ := mem_offers.mp offered
  obtain ⟨category, categoryFound, member, memberListed, same⟩ :=
    Catalog.containsMember_iff.mp (containsMember_of_mem_obtainable obtainable)
  rw [← same] at found
  exact ⟨_, Valuation.mem_valuate.mpr ⟨category, Catalog.mem_of_get?_eq_some categoryFound, rfl⟩,
    Valuation.mem_listing.mpr ⟨member, memberListed, PricedMember.ofMember_of_found found⟩⟩

/-- What else matches shows the name as its cheapest offer. -/
theorem alsoMatching_cheapest (found : Entry.lastNamed? name (feed.obtainable catalog) = some cheapest) :
    ∀ mandatory supplementary others,
      CategoryQuery.alsoMatching catalog mandatory supplementary (feed.obtainable catalog) = .ok others →
      ∀ entry ∈ others, entry.name = name → entry = cheapest := by
  intro mandatory supplementary others matched entry member same
  have used := ((CategoryQuery.mem_alsoMatching matched).mp member).1
  rw [same, found] at used
  exact (Option.some.inj used).symm

/-- A name stands for an entry when it is selected as that entry, valued at its price, and shown as it among what
else matches. -/
structure StandsFor (catalog : Catalog) (pool : List Entry) (name : String) (entry : Entry) : Prop where
  selected : Selection.ofNames pool [name] = .ok ⟨[entry]⟩
  valued : ∀ valuation ∈ catalog.valuate pool, ∀ member ∈ valuation.listing, member.name = name →
    member.pricing = .resolved entry.value
  matching : ∀ mandatory supplementary others,
    CategoryQuery.alsoMatching catalog mandatory supplementary pool = .ok others →
    ∀ other ∈ others, other.name = name → other = entry

section Prices

variable (first : Sorting.IsFirst Entry.byValue (feed.offers catalog name) dearest)
  (last : Sorting.IsLast Entry.byValue (feed.offers catalog name) cheapest)

include first last

theorem value_eq_of_dearest_eq_cheapest (same : cheapest.value = dearest.value) :
    ∀ offer ∈ feed.offers catalog name, offer.value = dearest.value := by
  intro offer member
  have below := last.isLE member
  rw [Entry.byValue, same, ← Entry.byValue] at below
  exact Entry.value_eq_of_isLE below (first.isLE member)

/-- Offers of one price leave the order of the feed as it is. -/
theorem head?_getLast?_of_value_eq (equal : ∀ offer ∈ feed.offers catalog name, offer.value = latest.value) :
    (feed.offers catalog name).head? = some dearest ∧ (feed.offers catalog name).getLast? = some cheapest := by
  have sameDearest := equal dearest first.mem
  have sameCheapest := equal cheapest last.mem
  exact ⟨first.head? fun offer member => Entry.byValue_eq_iff.mpr (sameDearest.trans (equal offer member).symm),
    last.getLast? fun offer member => Entry.byValue_eq_iff.mpr ((equal offer member).trans sameCheapest.symm)⟩

end Prices

/-- Selecting takes the first of the dearest offers, valuations and what else matches take the last of the cheapest.
So the name stands for its latest offer exactly when all offers have one value and the earliest equals the latest. -/
theorem standsFor_latest_iff (catalog : Catalog) (feed : Feed) (name : String) (latest : Entry)
    (last : (feed.offers catalog name).getLast? = some latest) :
    (∃ dearest cheapest,
      Sorting.IsFirst Entry.byValue (feed.offers catalog name) dearest ∧
      Sorting.IsLast Entry.byValue (feed.offers catalog name) cheapest ∧
      Selection.ofNames (feed.obtainable catalog) [name] = .ok ⟨[dearest]⟩ ∧
      (∀ valuation ∈ catalog.valuate (feed.obtainable catalog), ∀ member ∈ valuation.listing, member.name = name →
        member = .priced cheapest) ∧
      ∀ mandatory supplementary others,
        CategoryQuery.alsoMatching catalog mandatory supplementary (feed.obtainable catalog) = .ok others →
        ∀ other ∈ others, other.name = name → other = cheapest) ∧
    (StandsFor catalog (feed.obtainable catalog) name latest ↔
      (feed.offers catalog name).head? = some latest ∧
        ∀ offer ∈ feed.offers catalog name, offer.value = latest.value) := by
  have offered : latest ∈ feed.offers catalog name := List.mem_of_getLast? last
  obtain ⟨obtainable, named⟩ := mem_offers.mp offered
  obtain ⟨dearest, first⟩ := Entry.exists_named? obtainable
  obtain ⟨cheapest, found⟩ := Entry.exists_lastNamed? obtainable
  rw [named] at first found
  have isFirst := isFirst_dearest first
  have isLast := isLast_cheapest found
  have selected := Selection.ofNames_singleton first
  have valued := listing_priced found
  have matching := alsoMatching_cheapest found
  refine ⟨⟨dearest, cheapest, isFirst, isLast, selected, valued, matching⟩, ?_, ?_⟩
  · intro stands
    have sameDearest : dearest = latest := by simpa using selected.symm.trans stands.selected
    subst sameDearest
    -- The name is listed somewhere, and there the cheapest offer has the price of the dearest.
    obtain ⟨valuation, valuationValued, listed⟩ := exists_listing offered found
    have price := stands.valued valuation valuationValued _ listed (Entry.name_of_lastNamed? found)
    have equal := value_eq_of_dearest_eq_cheapest isFirst isLast (Pricing.resolved.inj price)
    exact ⟨(head?_getLast?_of_value_eq isFirst isLast equal).1, equal⟩
  · rintro ⟨front, equal⟩
    obtain ⟨frontDearest, lastCheapest⟩ := head?_getLast?_of_value_eq isFirst isLast equal
    have sameDearest : dearest = latest := Option.some.inj (frontDearest.symm.trans front)
    have sameCheapest : cheapest = latest := Option.some.inj (lastCheapest.symm.trans last)
    subst sameDearest sameCheapest
    refine ⟨selected, fun valuation member listed listedMember named => ?_, matching⟩
    rw [valued valuation member listed listedMember named]
    rfl

section Bands

def ring : Catalog := .ofCategories [.of "Ring" "Ring" "d ri" [⟨"Band", "Ring", ""⟩]]

def bandAt (value : Binary64) : Entry := ⟨"Band", "Ring", value, "", none⟩

/-- Bands for 250 on both sides of a linked one and of a name that the ring does not list. -/
def steadyFeed : Feed :=
  ⟨[bandAt ⟨0x406F400000000000⟩, ⟨"Band", "Ring", ⟨0x408C200000000000⟩, "", some 6⟩,
    ⟨"Sash", "Ring", ⟨0x4069000000000000⟩, "", none⟩, bandAt ⟨0x406F400000000000⟩]⟩

theorem standsFor_latest_steady :
    (steadyFeed.offers ring "Band").getLast? = some (bandAt ⟨0x406F400000000000⟩) ∧
      StandsFor ring (steadyFeed.obtainable ring) "Band" (bandAt ⟨0x406F400000000000⟩) := by
  have last : (steadyFeed.offers ring "Band").getLast? = some (bandAt ⟨0x406F400000000000⟩) := by decide
  exact ⟨last, (standsFor_latest_iff ring steadyFeed "Band" _ last).2.mpr ⟨by decide, by decide⟩⟩

def changingFeed : Feed :=
  ⟨[bandAt ⟨0x4069000000000000⟩, bandAt ⟨0x4072C00000000000⟩, bandAt ⟨0x406F400000000000⟩]⟩

/-- The latest band costs 250. The one for 300 is selected, and the band is valued at 200. -/
theorem not_standsFor_latest :
    (∀ offer ∈ changingFeed.offers ring "Band", offer.category = "Ring") ∧
      (changingFeed.offers ring "Band").getLast? = some (bandAt ⟨0x406F400000000000⟩) ∧
      Selection.ofNames (changingFeed.obtainable ring) ["Band"] = .ok ⟨[bandAt ⟨0x4072C00000000000⟩]⟩ ∧
      (ring.valuate (changingFeed.obtainable ring)).flatMap (·.listing) = [.priced (bandAt ⟨0x4069000000000000⟩)] ∧
      ¬StandsFor ring (changingFeed.obtainable ring) "Band" (bandAt ⟨0x406F400000000000⟩) := by
  have selected : Selection.ofNames (changingFeed.obtainable ring) ["Band"] =
      .ok ⟨[bandAt ⟨0x4072C00000000000⟩]⟩ := by rfl
  refine ⟨by decide, by decide, selected, by decide, fun stands => ?_⟩
  have same := Except.ok.inj (selected.symm.trans stands.selected)
  exact absurd same (by decide)

end Bands

end ItemQuery.Feed
