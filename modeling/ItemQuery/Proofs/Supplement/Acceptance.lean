import Mathlib.Algebra.Order.BigOperators.Group.List
import Mathlib.Algebra.Order.Group.Nat
import Mathlib.Tactic.Tauto
import ItemQuery.Proofs.Supplement.Length

/-! Taking over supplementary entries into the selection.

The characters that accepted categories were charged for are part of the mandatory
length the next time, so the other categories find as much room as before. This needs
the characters that are counted from the start to be used up by the mandatory fragments.
-/

set_option autoImplicit false

namespace ItemQuery.Supplement

/-- Charging some of the admitted categories from the start admits the other ones as before. -/
theorem admissions_charged {price : String → Nat} {used : Nat} {categories : List String} (nodup : categories.Nodup)
    (left : String → Bool)
    (charged : ∀ category ∈ categories, left category = false → category ∈ admissions price used categories) :
    admissions price
        (used + (((admissions price used categories).filter fun category => !left category).map price).sum)
        (categories.filter left) =
      (admissions price used categories).filter left := by
  induction categories generalizing used with
  | nil => rfl
  | cons first rest ih =>
    obtain ⟨absent, nodupRest⟩ := List.nodup_cons.mp nodup
    by_cases fits : used + price first ≤ budget
    · rw [admissions, if_pos fits] at charged ⊢
      have chargedRest : ∀ category ∈ rest, left category = false →
          category ∈ admissions price (used + price first) rest := fun category member taken =>
        (List.mem_cons.mp (charged category (List.mem_cons_of_mem first member) taken)).resolve_left
          fun same => absent (same ▸ member)
      have others := ih nodupRest chargedRest
      cases kept : left first with
      | false =>
        simp only [List.filter_cons, kept, Bool.not_false, if_true, Bool.false_eq_true, if_false, List.map_cons,
          List.sum_cons, ← Nat.add_assoc]
        exact others
      | true =>
        -- What is charged in advance was admitted together with the first category.
        have total : used + price first + ((admissions price (used + price first) rest).map price).sum ≤
            max (used + price first) budget := admissions_total_le _ rest
        have some : (((admissions price (used + price first) rest).filter fun category => !left category).map price).sum ≤
            ((admissions price (used + price first) rest).map price).sum :=
          (List.filter_sublist.map price).sum_le_sum fun _ _ => Nat.zero_le _
        simp only [List.filter_cons, kept, Bool.not_true, Bool.false_eq_true, if_true, if_false, admissions]
        rw [if_pos (by omega), ← others, Nat.add_right_comm]
    · have refused : first ∉ admissions price used rest := fun member => absurd (admissions_fits member) fits
      rw [admissions, if_neg fits] at charged ⊢
      have kept : left first = true := by
        cases taken : left first with
        | true => rfl
        | false => exact absurd (charged first List.mem_cons_self taken) refused
      rw [List.filter_cons_of_pos kept, admissions, if_neg (by omega)]
      exact ih nodupRest fun category member => charged category (List.mem_cons_of_mem first member)

variable {fragment : FragmentSource} {mandatory accepted pool : List Entry}

theorem eligible_append (mandatory accepted pool : List Entry) :
    eligible (mandatory ++ accepted) pool =
      (eligible mandatory pool).filter fun entry => !accepted.any (·.name == entry.name) := by
  rw [eligible, eligible, List.filter_filter]
  apply List.filter_congr
  intro entry _
  rw [List.any_append, Bool.not_or, Bool.and_comm (!mandatory.any _), Bool.and_assoc]

/-- Accepted entries are not candidates the next time, and neither are others of their names. -/
theorem ranked_append (mandatory accepted pool : List Entry) :
    ranked (mandatory ++ accepted) pool =
      (ranked mandatory pool).filter fun entry => !accepted.any (·.name == entry.name) := by
  rw [ranked_eq_sort, ranked_eq_sort, eligible_append, Sorting.sort_filter]

theorem nodup_newCategories (mandatory pool : List Entry) : (newCategories mandatory pool).Nodup :=
  (Entry.nodup_categories _).filter _

/-- Categories of which nothing is accepted keep all their candidates, so they are met in the same order. -/
theorem newCategories_append (single : Entry.SingleCategory pool) (taken : accepted ⊆ pool) :
    newCategories (mandatory ++ accepted) pool =
      (newCategories mandatory pool).filter fun category => !(Entry.categories accepted).contains category := by
  have met : ∀ category, (Entry.categories (mandatory ++ accepted)).contains category =
      ((Entry.categories mandatory).contains category || (Entry.categories accepted).contains category) := by
    intro category
    rw [Bool.eq_iff_iff]
    simp [Entry.mem_categories]
  simp only [newCategories, met, List.filter_filter]
  rw [← Entry.categories_filter, ← Entry.categories_filter, ranked_append, List.filter_filter]
  congr 1
  apply List.filter_congr
  intro entry member
  cases dropped : accepted.any (·.name == entry.name) with
  | false => simp [Bool.and_comm]
  | true =>
    obtain ⟨other, otherMember, same⟩ := List.any_eq_true.mp dropped
    have sameCategory := single other (taken otherMember) entry (mem_eligible.mp (mem_ranked.mp member)).1
      (beq_iff_eq.mp same)
    have present : entry.category ∈ Entry.categories accepted :=
      Entry.mem_categories.mpr (List.mem_map.mpr ⟨other, otherMember, sameCategory⟩)
    simp [present]

/-- A category of an accepted entry is mandatory, or it was admitted. -/
theorem mandatory_or_admitted (taken : accepted ⊆ picks fragment mandatory pool) {category : String}
    (member : category ∈ Entry.categories accepted) :
    category ∈ Entry.categories mandatory ∨ category ∈ admitted fragment mandatory pool := by
  obtain ⟨entry, entryMember, rfl⟩ := List.mem_map.mp (Entry.mem_categories.mp member)
  exact (mem_picks.mp (taken entryMember)).2

/-- The new categories of the accepted entries are admitted ones, in some order. -/
theorem accepted_categories_perm (taken : accepted ⊆ picks fragment mandatory pool) :
    ((Entry.categories accepted).filter fun category => !(Entry.categories mandatory).contains category).Perm
      ((admitted fragment mandatory pool).filter fun category => (Entry.categories accepted).contains category) := by
  have nodup : (admitted fragment mandatory pool).Nodup :=
    (nodup_newCategories mandatory pool).sublist (admissions_sublist _ _)
  refine (List.perm_ext_iff_of_nodup ((Entry.nodup_categories accepted).filter _) (nodup.filter _)).mpr ?_
  intro category
  simp only [List.mem_filter, List.contains_iff_mem, Bool.not_eq_true', Bool.eq_false_iff, ne_eq]
  constructor
  · rintro ⟨member, absent⟩
    exact ⟨(mandatory_or_admitted taken member).resolve_left absent, member⟩
  · rintro ⟨member, present⟩
    exact ⟨present, not_mandatory_of_mem_admitted member⟩

section Accepting

variable (single : Entry.SingleCategory pool) (taken : accepted ⊆ picks fragment mandatory pool)
  (room : leastUsed ≤ (fragment.joined (Entry.categories mandatory)).length ∨
    ∀ entry ∈ accepted, entry.category ∈ Entry.categories mandatory)

include taken room

theorem baseLength_append :
    baseLength fragment (mandatory ++ accepted) = baseLength fragment mandatory +
      (((admitted fragment mandatory pool).filter fun category =>
        (Entry.categories accepted).contains category).map (cost fragment)).sum := by
  have charged := ((accepted_categories_perm taken).map (cost fragment)).sum_nat
  rw [← charged, baseLength, baseLength, Entry.categories_append]
  rcases room with long | represented
  · have nonempty : Entry.categories mandatory ≠ [] := by
      intro none
      have empty : (fragment.joined []).length = 0 := rfl
      rw [none, empty] at long
      exact absurd long (by decide)
    have grown := fragment.length_joined_append nonempty
      ((Entry.categories accepted).filter fun category => !(Entry.categories mandatory).contains category)
    rw [grown, Nat.max_eq_left (by omega), Nat.max_eq_left long]
    rfl
  · rw [Entry.filter_categories_eq_nil represented, List.append_nil]
    rfl

include single

theorem admitted_append :
    admitted fragment (mandatory ++ accepted) pool =
      (admitted fragment mandatory pool).filter fun category => !(Entry.categories accepted).contains category := by
  have fromPool : accepted ⊆ pool := fun entry member => (mem_eligible.mp (mem_picks.mp (taken member)).1).1
  have charged : ∀ category ∈ newCategories mandatory pool, (!(Entry.categories accepted).contains category) = false →
      category ∈ admissions (cost fragment) (baseLength fragment mandatory) (newCategories mandatory pool) := by
    intro category new present
    have absent : category ∉ Entry.categories mandatory := by simpa using (List.mem_filter.mp new).2
    exact (mandatory_or_admitted taken (by simpa using present)).resolve_left absent
  have others := admissions_charged (nodup_newCategories mandatory pool) _ charged
  simp only [Bool.not_not] at others
  rw [admitted, newCategories_append single fromPool, baseLength_append taken room]
  exact others

theorem picks_append :
    picks fragment (mandatory ++ accepted) pool =
      (picks fragment mandatory pool).filter fun entry => !accepted.any (·.name == entry.name) := by
  rw [picks, picks, ranked_append, admitted_append single taken room, List.filter_filter, List.filter_filter]
  apply List.filter_congr
  intro entry _
  have known : entry.category ∈ Entry.categories accepted →
      entry.category ∈ Entry.categories mandatory ∨ entry.category ∈ admitted fragment mandatory pool :=
    mandatory_or_admitted taken
  rw [Bool.and_comm, Entry.categories_append, Bool.eq_iff_iff]
  simp only [Bool.and_eq_true, Bool.or_eq_true, List.contains_iff_mem, List.mem_append, List.mem_filter,
    Bool.not_eq_true', Bool.eq_false_iff, ne_eq]
  tauto

end Accepting

/-- Accepting some of the picked entries leaves the others to be picked, in the same order, when the mandatory
fragments use up the characters counted from the start or no new category is accepted. So nothing is left when all
are accepted, and the same new categories come in when only entries of mandatory categories are. -/
theorem select_accepted (fragment : FragmentSource) (mandatory pool picked accepted : List Entry)
    (single : Entry.SingleCategory pool) (selected : select fragment mandatory pool = .ok picked)
    (taken : accepted ⊆ picked)
    (room : 2 ≤ (fragment.joined (Entry.categories mandatory)).length ∨
      ∀ entry ∈ accepted, entry.category ∈ Entry.categories mandatory) :
    ∃ left, select fragment (mandatory ++ accepted) pool = .ok left ∧
      left = (picked.filter fun entry => !accepted.any (·.name == entry.name)) ∧
      (accepted = picked → left = []) ∧
      ((∀ entry ∈ accepted, entry.category ∈ Entry.categories mandatory) →
        ((Entry.categories left).filter fun category => !(Entry.categories mandatory).contains category) =
          (Entry.categories picked).filter fun category => !(Entry.categories mandatory).contains category) := by
  obtain ⟨known, rfl⟩ := select_eq_ok_iff.mp selected
  -- The second run looks up no category that the first one did not.
  have knownAccepted : ∀ entry ∈ (mandatory ++ accepted) ++ eligible (mandatory ++ accepted) pool,
      fragment.Knows entry.category := by
    intro entry member
    apply known entry
    rw [eligible_append, List.mem_append, List.mem_append, List.mem_filter] at member
    rw [List.mem_append]
    rcases member with (member | member) | ⟨member, _⟩
    · exact Or.inl member
    · exact Or.inr (mem_picks.mp (taken member)).1
    · exact Or.inr member
  refine ⟨_, select_eq_ok_iff.mpr ⟨knownAccepted, rfl⟩, picks_append single taken room, ?_, ?_⟩
  · rintro rfl
    rw [picks_append single taken room, List.filter_eq_nil_iff]
    intro entry member
    have named : (picks fragment mandatory pool).any (·.name == entry.name) = true :=
      List.any_eq_true.mpr ⟨entry, member, beq_self_eq_true entry.name⟩
    rw [named]
    exact Bool.false_ne_true
  · intro represented
    have sameCategories : Entry.categories (mandatory ++ accepted) = Entry.categories mandatory := by
      rw [Entry.categories_append, Entry.filter_categories_eq_nil represented, List.append_nil]
    have left := new_categories_picks fragment (mandatory ++ accepted) pool
    rw [sameCategories] at left
    rw [left, new_categories_picks, admitted_append single taken room, List.filter_eq_self]
    intro category member
    have new := not_mandatory_of_mem_admitted member
    have unaccepted : category ∉ Entry.categories accepted := fun present => by
      obtain ⟨entry, entryMember, rfl⟩ := List.mem_map.mp (Entry.mem_categories.mp present)
      exact new (represented entry entryMember)
    simpa using unaccepted

/-- The forty-five mandatory characters become fifty with the accepted category, and the ring that is left rides along. -/
theorem select_accepted_limit :
    Entry.SingleCategory mixedPool ∧
    select byName longMandatory mixedPool =
      .ok [⟨"Club", "Mace", ⟨0x407F400000000000⟩, "", none⟩, ⟨"Hoop", "Ring", ⟨0x4072C00000000000⟩, "", none⟩] ∧
    2 ≤ (byName.joined (Entry.categories longMandatory)).length ∧
    select byName (longMandatory ++ [⟨"Club", "Mace", ⟨0x407F400000000000⟩, "", none⟩]) mixedPool =
      .ok [⟨"Hoop", "Ring", ⟨0x4072C00000000000⟩, "", none⟩] := by
  have single : Entry.SingleCategory mixedPool := by decide
  have selected : select byName longMandatory mixedPool =
      .ok [⟨"Club", "Mace", ⟨0x407F400000000000⟩, "", none⟩, ⟨"Hoop", "Ring", ⟨0x4072C00000000000⟩, "", none⟩] := rfl
  have long : 2 ≤ (byName.joined (Entry.categories longMandatory)).length := by decide
  obtain ⟨left, again, same, _⟩ := select_accepted byName longMandatory mixedPool _
    [⟨"Club", "Mace", ⟨0x407F400000000000⟩, "", none⟩] single selected (by simp) (Or.inl long)
  refine ⟨single, selected, long, again.trans ?_⟩
  rw [same]
  rfl

end ItemQuery.Supplement
