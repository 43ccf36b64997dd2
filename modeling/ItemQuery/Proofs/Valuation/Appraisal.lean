import ItemQuery.Proofs.Entry
import ItemQuery.Proofs.Valuation

/-! What a valuation says, apart from how it is worked out.

A category is worth as much as its best member when it has members and each of them has a
price. If not, it is worth nothing yet and its members are listed as they stand in the table.
Categories are arranged by worth. These rules leave no choice: a list of valuations that
keeps them is the valuation of the catalog.
-/

set_option autoImplicit false

namespace ItemQuery

theorem forall₂_iff_map {α β : Type} {related : α → β → Prop} {f : α → β} (graph : ∀ a b, related a b ↔ f a = b)
    {items : List α} {results : List β} : List.Forall₂ related items results ↔ items.map f = results := by
  have same : related = fun a b => f a = b := by
    funext a b
    exact propext (graph a b)
  rw [same, ← List.forall₂_eq_eq_eq, List.forall₂_map_left_iff]

namespace Pricing

/-- Worth at least as much; what has no value yet comes last. -/
def Precedes : Pricing → Pricing → Prop
  | _, unresolved => True
  | unresolved, resolved _ => False
  | resolved greater, resolved less => greater.AtLeast less

theorem compareDesc_isLE_iff (first second : Pricing) : (first.compareDesc second).isLE ↔ first.Precedes second := by
  cases first <;> cases second <;> simp [compareDesc, Precedes, Binary64.AtLeast]

theorem compareDesc_eq_iff (first second : Pricing) : first.compareDesc second = .eq ↔ first = second := by
  cases first with
  | unresolved => cases second <;> simp [compareDesc]
  | resolved value =>
    cases second with
    | unresolved => simp [compareDesc]
    | resolved other => rw [compareDesc, Binary64.totalCompare_eq_iff, resolved.injEq, eq_comm]

instance : Std.TransCmp compareDesc where
  eq_swap {first second} := by
    cases first <;> cases second <;> simp [compareDesc]
    exact Std.OrientedCmp.eq_swap
  isLE_trans {first second third} := by
    cases first <;> cases second <;> cases third <;> simp [compareDesc]
    exact fun ahead behind => Std.TransCmp.isLE_trans behind ahead

end Pricing

/-- What a member is listed as: the latest entry of its name, or itself if there is none. -/
inductive PricedMember.Lists (prices : List Entry) : Member → PricedMember → Prop where
  | priced {member : Member} {entry : Entry} : Entry.IsLatest member.name prices entry →
      Lists prices member (.priced entry)
  | unpriced {member : Member} : (∀ entry ∈ prices, entry.name ≠ member.name) → Lists prices member (.unpriced member)

theorem PricedMember.lists_iff (prices : List Entry) (member : Member) (listed : PricedMember) :
    Lists prices member listed ↔ ofMember prices member = listed := by
  constructor
  · rintro (latest | none)
    · exact ofMember_of_found (Entry.lastNamed?_eq_some_iff.mpr latest)
    · exact ofMember_eq_unpriced_iff.mpr ⟨rfl, Entry.lastNamed?_eq_none_iff.mpr none⟩
  · rintro same
    cases listed with
    | priced entry => exact .priced (Entry.lastNamed?_eq_some_iff.mp (ofMember_eq_priced_iff.mp same))
    | unpriced other =>
      obtain ⟨rfl, none⟩ := ofMember_eq_unpriced_iff.mp same
      exact .unpriced (Entry.lastNamed?_eq_none_iff.mp none)

/-- There are members, and each of them has a price. -/
def Category.FullyPriced (category : Category) (prices : List Entry) : Prop :=
  category.members ≠ [] ∧ ∀ member ∈ category.members, ∃ entry ∈ prices, entry.name = member.name

namespace Valuation

/-- The valuation of a category at given prices, field by field. -/
structure Appraises (prices : List Entry) (category : Category) (valuation : Valuation) : Prop where
  category_eq : valuation.category = category
  isResolved_iff : valuation.pricing.isResolved = true ↔ category.FullyPriced prices
  /-- The best member is the first of the members' entries by value, and the others follow it. -/
  resolved : ∀ value, valuation.pricing = .resolved value → ∃ entries best others,
    List.Forall₂ (fun member entry => Entry.IsLatest member.name prices entry) category.members entries ∧
    Sorting.Arranged Entry.value Binary64.AtLeast entries (best :: others) ∧
    valuation.best? = some best ∧ valuation.remainder = others.map .priced ∧
    value = best.value ∧ ∀ entry ∈ entries, value.AtLeast entry.value
  unresolved : valuation.pricing = .unresolved →
    valuation.best? = none ∧ List.Forall₂ (PricedMember.Lists prices) category.members valuation.remainder

variable {prices : List Entry}

theorem mapM_lastNamed?_eq_some_iff {members : List Member} {entries : List Entry} :
    members.mapM (fun member => Entry.lastNamed? member.name prices) = some entries ↔
      List.Forall₂ (fun member entry => Entry.IsLatest member.name prices entry) members entries := by
  simp only [mapM_eq_some_iff, Entry.lastNamed?_eq_some_iff]

theorem exists_mapM_lastNamed?_iff {members : List Member} :
    (∃ entries, members.mapM (fun member => Entry.lastNamed? member.name prices) = some entries) ↔
      ∀ member ∈ members, ∃ entry ∈ prices, entry.name = member.name := by
  simp only [exists_mapM_eq_some_iff, Entry.exists_lastNamed?_iff]

theorem ofCategory_of_priced {category : Category} (priced : category.FullyPriced prices) :
    ∃ entries best others,
      List.Forall₂ (fun member entry => Entry.IsLatest member.name prices entry) category.members entries ∧
      Entry.sort entries = best :: others ∧ ofCategory prices category = ⟨category, .resolved best others⟩ := by
  obtain ⟨entries, found⟩ := exists_mapM_lastNamed?_iff.mpr priced.2
  have latest := mapM_lastNamed?_eq_some_iff.mp found
  have nonempty : Entry.sort entries ≠ [] := by
    rw [Entry.sort, Ne, Sorting.sort_eq_nil_iff]
    rintro rfl
    exact priced.1 (List.forall₂_nil_right_iff.mp latest)
  obtain ⟨best, others, sorted⟩ := List.exists_cons_of_ne_nil nonempty
  refine ⟨entries, best, others, latest, sorted, ?_⟩
  have standing : Standing.ofEntries entries = .resolved best others := by simp only [Standing.ofEntries, sorted]
  rw [ofCategory, Standing.ofMembers, found, ← standing]

theorem ofCategory_of_not_priced {category : Category} (missing : ¬category.FullyPriced prices) :
    ofCategory prices category = ⟨category, .unresolved (category.members.map (PricedMember.ofMember prices))⟩ := by
  rw [ofCategory, Standing.ofMembers]
  split
  · next entries found =>
    -- All members have a price, so there are none.
    have empty : category.members = [] := by
      by_contra some
      exact missing ⟨some, exists_mapM_lastNamed?_iff.mp ⟨entries, found⟩⟩
    rw [empty] at found ⊢
    cases found
    rfl
  · rfl

theorem appraises_ofCategory (prices : List Entry) (category : Category) :
    Appraises prices category (ofCategory prices category) := by
  by_cases priced : category.FullyPriced prices
  · obtain ⟨entries, best, others, latest, sorted, valued⟩ := ofCategory_of_priced priced
    rw [valued]
    refine ⟨rfl, iff_of_true rfl priced, ?_, nofun⟩
    rintro value same
    cases same
    have arranged := Entry.arranged_iff.mpr sorted.symm
    refine ⟨entries, best, others, latest, arranged, rfl, rfl, rfl, fun entry member => ?_⟩
    rcases List.mem_cons.mp (arranged.perm.mem_iff.mpr member) with rfl | member
    · exact Binary64.AtLeast.refl entry.value
    · exact (List.pairwise_cons.mp arranged.ordered).1 entry member
  · rw [ofCategory_of_not_priced priced]
    refine ⟨rfl, iff_of_false nofun priced, nofun, fun _ => ⟨rfl, ?_⟩⟩
    exact (forall₂_iff_map (PricedMember.lists_iff prices)).mpr rfl

theorem appraises_iff (prices : List Entry) (category : Category) (valuation : Valuation) :
    Appraises prices category valuation ↔ ofCategory prices category = valuation := by
  constructor
  · rintro ⟨rfl, isResolved_iff, resolved, unresolved⟩
    obtain ⟨category, standing⟩ := valuation
    cases standing with
    | resolved best others =>
      obtain ⟨entries, first, rest, latest, sorted, valued⟩ := ofCategory_of_priced (isResolved_iff.mp rfl)
      obtain ⟨listed, _, behind, alsoLatest, arranged, sameBest, sameOthers, -, -⟩ := resolved best.value rfl
      have sameEntries : some entries = some listed :=
        (mapM_lastNamed?_eq_some_iff.mpr latest).symm.trans (mapM_lastNamed?_eq_some_iff.mpr alsoLatest)
      cases sameEntries
      cases sameBest
      have sameBehind : others = behind := List.map_injective_iff.mpr (fun _ _ => PricedMember.priced.inj) sameOthers
      subst sameBehind
      have whole : best :: others = first :: rest := (Entry.arranged_iff.mp arranged).trans sorted
      cases whole
      exact valued
    | unresolved members =>
      have missing : ¬category.FullyPriced prices := fun priced => nomatch isResolved_iff.mpr priced
      have listed : category.members.map (PricedMember.ofMember prices) = members :=
        (forall₂_iff_map (PricedMember.lists_iff prices)).mp (unresolved rfl).2
      rw [ofCategory_of_not_priced missing, listed]
  · rintro rfl
    exact appraises_ofCategory prices category

theorem compareDesc_eq_iff (first second : Valuation) :
    first.compareDesc second = .eq ↔ first.pricing = second.pricing :=
  Pricing.compareDesc_eq_iff first.pricing second.pricing

instance : Std.TransCmp Valuation.compareDesc where
  eq_swap {first second} := @Std.OrientedCmp.eq_swap _ Pricing.compareDesc _ first.pricing second.pricing
  isLE_trans ahead behind := @Std.TransCmp.isLE_trans _ Pricing.compareDesc _ _ _ _ ahead behind

/-- A list is the valuation of a catalog exactly when it arranges the appraisals of its categories by worth. -/
theorem valuate_eq_iff (catalog : Catalog) (prices : List Entry) (valuations : List Valuation) :
    catalog.valuate prices = valuations ↔ ∃ appraised, List.Forall₂ (Appraises prices) catalog.categories appraised ∧
      Sorting.Arranged pricing Pricing.Precedes appraised valuations := by
  have arranged (appraised : List Valuation) : Sorting.Arranged pricing Pricing.Precedes appraised valuations ↔
      valuations = Sorting.sort compareDesc appraised :=
    Sorting.arranged_iff compareDesc_eq_iff fun first second =>
      Pricing.compareDesc_isLE_iff first.pricing second.pricing
  simp only [forall₂_iff_map (appraises_iff prices), arranged, exists_eq_left']
  exact eq_comm

end Valuation

end ItemQuery
