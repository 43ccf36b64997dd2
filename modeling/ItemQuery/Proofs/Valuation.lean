import ItemQuery.Proofs.Found
import ItemQuery.Proofs.Sorting
import ItemQuery.Valuation

/-! What the valuation of a category lists: each member, priced by the last entry of its name if there is one. -/

set_option autoImplicit false

namespace ItemQuery

namespace PricedMember

variable {prices : List Entry} {member other : Member} {entry : Entry}

theorem ofMember_of_found (found : Entry.lastNamed? member.name prices = some entry) :
    ofMember prices member = .priced entry := by
  rw [ofMember, found]

theorem name_ofMember (prices : List Entry) (member : Member) : (ofMember prices member).name = member.name := by
  rw [ofMember]
  split
  · next found => simpa [PricedMember.name] using List.find?_some found
  · rfl

theorem ofMember_eq_priced_iff :
    ofMember prices member = .priced entry ↔ Entry.lastNamed? member.name prices = some entry := by
  rw [ofMember]
  split
  · next found => rw [found, PricedMember.priced.injEq, Option.some.injEq]
  · next none => simp [none]

theorem ofMember_eq_unpriced_iff :
    ofMember prices member = .unpriced other ↔ member = other ∧ Entry.lastNamed? member.name prices = none := by
  rw [ofMember]
  split
  · next found => simp [found]
  · next none => simp [none]

end PricedMember

namespace Valuation

/-- All members, the best one first. -/
def listing (valuation : Valuation) : List PricedMember :=
  valuation.best?.toList.map .priced ++ valuation.remainder

variable {catalog : Catalog} {prices : List Entry} {valuation : Valuation}

theorem listing_ofEntries (category : Category) (entries : List Entry) :
    listing ⟨category, .ofEntries entries⟩ = (Entry.sort entries).map .priced := by
  rw [Standing.ofEntries]
  split
  · next same => rw [same]; rfl
  · next none => rw [none]; rfl

theorem map_priced_of_mapM {members : List Member} {entries : List Entry}
    (found : members.mapM (fun member => Entry.lastNamed? member.name prices) = some entries) :
    entries.map .priced = members.map (PricedMember.ofMember prices) := by
  rw [mapM_eq_some_iff] at found
  induction found with
  | nil => rfl
  | cons foundFirst _ ih => rw [List.map_cons, List.map_cons, ih, PricedMember.ofMember_of_found foundFirst]

/-- No member is lost, repeated or renamed, whether or not all have a price. -/
theorem listing_perm (prices : List Entry) (category : Category) :
    (ofCategory prices category).listing.Perm (category.members.map (PricedMember.ofMember prices)) := by
  rw [ofCategory, Standing.ofMembers]
  split
  · next entries found =>
    rw [listing_ofEntries, ← map_priced_of_mapM found]
    exact (Sorting.sort_perm Entry.byValue entries).map _
  · exact .refl _

theorem mem_valuate : valuation ∈ catalog.valuate prices ↔
    ∃ category ∈ catalog.categories, ofCategory prices category = valuation := by
  rw [Catalog.valuate, Sorting.mem_sort, List.mem_map]

theorem mem_listing {category : Category} {member : PricedMember} :
    member ∈ (ofCategory prices category).listing ↔
      ∃ listed ∈ category.members, PricedMember.ofMember prices listed = member := by
  rw [(listing_perm prices category).mem_iff, List.mem_map]

theorem names_listing_perm (valued : valuation ∈ catalog.valuate prices) :
    (valuation.listing.map (·.name)).Perm (valuation.category.members.map (·.name)) := by
  obtain ⟨category, _, rfl⟩ := mem_valuate.mp valued
  have names := (listing_perm prices category).map (·.name)
  rw [List.map_map] at names
  exact names.trans (.of_eq (List.map_congr_left fun member _ => PricedMember.name_ofMember prices member))

end Valuation

end ItemQuery
