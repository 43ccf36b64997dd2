import ItemQuery.Proofs.Valuation.Appraisal

/-! Members without a price.

Categories that lack a price keep their table order behind those that do not, and these have
nothing to report. So the report goes through the table as it stands, and more prices only
take members out of it.
-/

set_option autoImplicit false

namespace ItemQuery

theorem PricedMember.missing?_ofMember (prices : List Entry) (member : Member) :
    (ofMember prices member).missing? =
      if ∀ entry ∈ prices, entry.name ≠ member.name then some member else none := by
  cases listed : ofMember prices member with
  | priced entry =>
    obtain ⟨named, before, after, rfl, _⟩ := Entry.lastNamed?_eq_some_iff.mp (ofMember_eq_priced_iff.mp listed)
    rw [if_neg fun none => none entry (by simp) named]
    rfl
  | unpriced other =>
    obtain ⟨rfl, none⟩ := ofMember_eq_unpriced_iff.mp listed
    rw [if_pos (Entry.lastNamed?_eq_none_iff.mp none)]
    rfl

/-- More prices leave a category with all its prices. -/
theorem Category.FullyPriced.append {category : Category} {prices : List Entry} (priced : category.FullyPriced prices)
    (more : List Entry) : category.FullyPriced (prices ++ more) := by
  refine ⟨priced.1, fun member listed => ?_⟩
  obtain ⟨entry, found, named⟩ := priced.2 member listed
  exact ⟨entry, List.mem_append_left more found, named⟩

namespace Valuation

theorem missing_ofCategory (prices : List Entry) (category : Category) :
    (ofCategory prices category).remainder.filterMap PricedMember.missing? =
      category.members.filter fun member => ∀ entry ∈ prices, entry.name ≠ member.name := by
  by_cases priced : category.FullyPriced prices
  · obtain ⟨_, _, others, _, _, valued⟩ := ofCategory_of_priced priced
    have named : (category.members.filter fun member => ∀ entry ∈ prices, entry.name ≠ member.name) = [] := by
      refine List.filter_eq_nil_iff.mpr fun member listed none => ?_
      obtain ⟨entry, found, same⟩ := priced.2 member listed
      exact of_decide_eq_true none entry found same
    rw [valued, named]
    exact List.filterMap_eq_nil_iff.mpr (by simp [remainder, PricedMember.missing?])
  · rw [ofCategory_of_not_priced priced, remainder, List.filterMap_map, ← List.filterMap_eq_filter]
    refine List.filterMap_congr fun member _ => ?_
    rw [Function.comp_apply, PricedMember.missing?_ofMember]
    simp [Option.guard]

theorem missing_cons (valuation : Valuation) (rest : List Valuation) :
    missing (valuation :: rest) = valuation.remainder.filterMap PricedMember.missing? ++ missing rest :=
  List.flatMap_cons

/-- Categories with a value leave nothing to report. -/
theorem missing_filter_unresolved (valuations : List Valuation) :
    missing (valuations.filter (·.pricing = .unresolved)) = missing valuations := by
  induction valuations with
  | nil => rfl
  | cons valuation rest ih =>
    cases standing : valuation.standing with
    | resolved best others =>
      have nothing : valuation.remainder.filterMap PricedMember.missing? = [] := by
        simp [remainder, standing, PricedMember.missing?]
      rw [List.filter_cons_of_neg (by simp [pricing, standing]), ih, missing_cons, nothing, List.nil_append]
    | unresolved members =>
      rw [List.filter_cons_of_pos (by simp [pricing, standing]), missing_cons, missing_cons, ih]

theorem missing_map_ofCategory (prices : List Entry) (categories : List Category) :
    missing (categories.map (ofCategory prices)) =
      (categories.flatMap (·.members)).filter fun member => ∀ entry ∈ prices, entry.name ≠ member.name := by
  rw [missing, List.flatMap_map, List.filter_flatMap]
  exact List.flatMap_congr fun category _ => missing_ofCategory prices category

theorem missing_sort (valuations : List Valuation) :
    missing (Sorting.sort compareDesc valuations) = missing valuations := by
  rw [← missing_filter_unresolved, Sorting.sort_filter_key compareDesc_eq_iff, missing_filter_unresolved]

/-- The report lists the members that no entry is named after, in table order. It shrinks with more prices, and
a category that has a value keeps having one. -/
theorem missing_valuate (catalog : Catalog) (prices : List Entry) :
    missing (catalog.valuate prices) =
        (catalog.categories.flatMap (·.members)).filter (fun member => ∀ entry ∈ prices, entry.name ≠ member.name) ∧
      ∀ more,
        (missing (catalog.valuate (prices ++ more))).Sublist (missing (catalog.valuate prices)) ∧
        ∀ valuation ∈ catalog.valuate prices, valuation.pricing.isResolved = true →
          ∀ later ∈ catalog.valuate (prices ++ more), later.category = valuation.category →
            later.pricing.isResolved = true := by
  have report (prices : List Entry) : missing (catalog.valuate prices) =
      (catalog.categories.flatMap (·.members)).filter fun member => ∀ entry ∈ prices, entry.name ≠ member.name := by
    rw [Catalog.valuate, missing_sort, missing_map_ofCategory]
  refine ⟨report prices, fun more => ⟨?_, ?_⟩⟩
  · rw [report, report]
    refine List.monotone_filter_right _ fun member none => ?_
    exact decide_eq_true fun entry found => of_decide_eq_true none entry (List.mem_append_left more found)
  · intro valuation valued resolved later laterValued same
    obtain ⟨category, _, rfl⟩ := mem_valuate.mp valued
    obtain ⟨_, _, rfl⟩ := mem_valuate.mp laterValued
    cases same
    have priced := (appraises_ofCategory prices category).isResolved_iff.mp resolved
    exact (appraises_ofCategory (prices ++ more) category).isResolved_iff.mpr (priced.append more)

end Valuation

end ItemQuery
