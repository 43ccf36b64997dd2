import Mathlib.Algebra.GroupWithZero.Nat
import ItemQuery.Proofs.Entry
import ItemQuery.Proofs.FragmentSource
import ItemQuery.Supplement

/-! The scan of the candidates as a relation, and what a whole scan settles.

The characters used only grow, so a category without room at its first candidate has no
room at a later one. Which categories end up represented is therefore settled by one
visit to each of them, and an entry is accepted exactly when its category is among them.
-/

set_option autoImplicit false

namespace ItemQuery.Supplement

/-- What a category adds to the query: its fragment and a separator. -/
def cost (fragment : FragmentSource) (category : String) : Nat := 1 + (fragment.textOf category).length

/-- How a candidate can fare, and the state it leaves. -/
inductive Judged (fragment : FragmentSource) (state : State) (entry : Entry) : Verdict → State → Prop where
  | belowFloor : entry.value.exceeds floor = false → Judged fragment state entry .belowFloor state
  | ridesAlong : entry.value.exceeds floor = true → entry.category ∈ state.represented →
      Judged fragment state entry .ridesAlong state
  | admitted : entry.value.exceeds floor = true → entry.category ∉ state.represented →
      fragment.Knows entry.category → state.used + cost fragment entry.category ≤ budget →
      Judged fragment state entry .admitted
        ⟨state.used + cost fragment entry.category, entry.category :: state.represented⟩
  | overBudget : entry.value.exceeds floor = true → entry.category ∉ state.represented →
      fragment.Knows entry.category → budget < state.used + cost fragment entry.category →
      Judged fragment state entry (.overBudget state.used (cost fragment entry.category)) state

inductive Scanned (fragment : FragmentSource) : State → List Entry → List (Entry × Verdict) → State → Prop where
  | done {state : State} : Scanned fragment state [] [] state
  | next {state between final : State} {entry : Entry} {verdict : Verdict} {rest : List Entry}
      {verdicts : List (Entry × Verdict)} : Judged fragment state entry verdict between →
      Scanned fragment between rest verdicts final →
      Scanned fragment state (entry :: rest) ((entry, verdict) :: verdicts) final

variable {fragment : FragmentSource} {state next final : State} {entry : Entry} {entries : List Entry}
  {verdict : Verdict} {verdicts : List (Entry × Verdict)}

theorem judge_eq_ok_iff :
    judge fragment state entry = .ok (verdict, next) ↔ Judged fragment state entry verdict next := by
  unfold judge
  -- The guards in the order in which they are tried: the floor, the categories represented, the room left.
  cases worth : entry.value.exceeds floor with
  | false =>
    constructor
    · intro same; cases same; exact .belowFloor worth
    · intro judged; cases judged <;> simp_all
  | true =>
    by_cases member : entry.category ∈ state.represented
    · simp only [Bool.not_true, Bool.false_eq_true, if_false, List.contains_iff_mem, member, if_true]
      constructor
      · intro same; cases same; exact .ridesAlong worth member
      · intro judged; cases judged <;> simp_all
    · simp only [Bool.not_true, Bool.false_eq_true, if_false, List.contains_iff_mem, member, Except.bind_eq_ok_iff]
      constructor
      · rintro ⟨text, found, rest⟩
        have size : cost fragment entry.category = 1 + text.length := by rw [cost, FragmentSource.textOf_eq found]
        rw [← size] at rest
        split at rest
        · next fits => cases rest; exact .admitted worth member ⟨text, found⟩ fits
        · next tooLong => cases rest; exact .overBudget worth member ⟨text, found⟩ (Nat.lt_of_not_le tooLong)
      · intro judged
        cases judged with
        | belowFloor low => rw [worth] at low; contradiction
        | ridesAlong _ present => exact absurd present member
        | admitted _ _ known fits => exact ⟨_, known.ok, if_pos fits⟩
        | overBudget _ _ known tooLong => exact ⟨_, known.ok, if_neg (Nat.not_le_of_lt tooLong)⟩

theorem scan_eq_ok_iff :
    scan fragment state entries = .ok (verdicts, final) ↔ Scanned fragment state entries verdicts final := by
  induction entries generalizing state verdicts with
  | nil =>
    constructor
    · intro same; cases same; exact .done
    · intro run; cases run; rfl
  | cons entry rest ih =>
    simp only [scan, Except.bind_eq_ok_iff, Prod.exists]
    constructor
    · rintro ⟨verdict, between, judged, others, last, run, same⟩
      cases same
      exact .next (judge_eq_ok_iff.mp judged) (ih.mp run)
    · intro run
      cases run with
      | next judged run => exact ⟨_, _, judge_eq_ok_iff.mpr judged, _, _, ih.mpr run, rfl⟩

theorem Judged.exists_of_known (known : entry.value.exceeds floor = true → fragment.Knows entry.category) :
    ∃ verdict next, Judged fragment state entry verdict next := by
  cases worth : entry.value.exceeds floor with
  | false => exact ⟨_, _, .belowFloor worth⟩
  | true =>
    by_cases member : entry.category ∈ state.represented
    · exact ⟨_, _, .ridesAlong worth member⟩
    · by_cases fits : state.used + cost fragment entry.category ≤ budget
      · exact ⟨_, _, .admitted worth member (known worth) fits⟩
      · exact ⟨_, _, .overBudget worth member (known worth) (Nat.lt_of_not_le fits)⟩

theorem Scanned.exists_of_known (state : State)
    (known : ∀ entry ∈ entries, entry.value.exceeds floor = true → fragment.Knows entry.category) :
    ∃ verdicts final, Scanned fragment state entries verdicts final := by
  induction entries generalizing state with
  | nil => exact ⟨_, _, .done⟩
  | cons entry rest ih =>
    obtain ⟨knownFirst, knownRest⟩ := List.forall_mem_cons.mp known
    obtain ⟨verdict, between, judged⟩ : ∃ verdict between, Judged fragment state entry verdict between :=
      Judged.exists_of_known knownFirst
    obtain ⟨verdicts, final, run⟩ := ih between knownRest
    exact ⟨_, _, .next judged run⟩

theorem Scanned.entries_eq (run : Scanned fragment state entries verdicts final) :
    verdicts.map Prod.fst = entries := by
  induction run with
  | done => rfl
  | next _ _ ih => rw [List.map_cons, ih]

/-- A finished scan has looked up every valuable entry whose category was not represented before. -/
theorem Scanned.known (run : Scanned fragment state entries verdicts final)
    (known : ∀ category ∈ state.represented, fragment.Knows category) :
    ∀ entry ∈ entries, entry.value.exceeds floor = true → fragment.Knows entry.category := by
  induction run with
  | done => nofun
  | @next state between final entry verdict rest verdicts judged run ih =>
    cases judged with
    | belowFloor low =>
      refine List.forall_mem_cons.mpr ⟨fun worth => ?_, ih known⟩
      rw [low] at worth
      contradiction
    | ridesAlong _ member => exact List.forall_mem_cons.mpr ⟨fun _ => known _ member, ih known⟩
    | admitted _ _ found _ =>
      -- From here on its category is represented, and later entries of it are not looked up.
      exact List.forall_mem_cons.mpr ⟨fun _ => found, ih (List.forall_mem_cons.mpr ⟨found, known⟩)⟩
    | overBudget _ _ found _ => exact List.forall_mem_cons.mpr ⟨fun _ => found, ih known⟩

/-- Visit categories in turn and keep the ones there is room for. -/
def admissions (cost : String → Nat) : (used : Nat) → List String → List String
  | _, [] => []
  | used, category :: rest =>
    if used + cost category ≤ budget then category :: admissions cost (used + cost category) rest
    else admissions cost used rest

section Admission

variable {price : String → Nat}

theorem admissions_fits {used : Nat} {categories : List String} {category : String}
    (member : category ∈ admissions price used categories) : used + price category ≤ budget := by
  induction categories generalizing used with
  | nil => cases member
  | cons first rest ih =>
    rw [admissions] at member
    split at member
    · next fits =>
      rcases List.mem_cons.mp member with rfl | member
      · exact fits
      · have later := ih member
        omega
    · exact ih member

theorem admissions_sublist (used : Nat) (categories : List String) :
    (admissions price used categories).Sublist categories := by
  induction categories generalizing used with
  | nil => exact .slnil
  | cons first rest ih =>
    rw [admissions]
    split
    · exact (ih _).cons_cons first
    · exact (ih _).cons first

/-- Visits to a category there is no room for can be left out. -/
theorem admissions_without {used : Nat} {category : String} (tooLong : budget < used + price category)
    (categories : List String) :
    admissions price used (categories.filter (· ≠ category)) = admissions price used categories := by
  induction categories generalizing used with
  | nil => rfl
  | cons first rest ih =>
    by_cases same : first = category
    · subst same
      rw [List.filter_cons_of_neg (by simp), ih tooLong, admissions, if_neg (Nat.not_le_of_lt tooLong)]
    · rw [List.filter_cons_of_pos (by simpa using same), admissions, admissions]
      -- An admission only takes room away, so the category is too long at the later visits, too.
      split
      · rw [ih (by omega)]
      · rw [ih tooLong]

theorem admissions_total_le (used : Nat) (categories : List String) :
    used + ((admissions price used categories).map price).sum ≤ max used budget := by
  induction categories generalizing used with
  | nil => exact Nat.le_max_left _ _
  | cons first rest ih =>
    rw [admissions]
    split
    · next fits =>
      have bound := ih (used + price first)
      simp only [List.map_cons, List.sum_cons]
      omega
    · exact ih used

end Admission

/-- Categories of valuable entries that are not represented yet, in the order in which they are met. -/
def fresh (represented : List String) (entries : List Entry) : List String :=
  (Entry.categories (entries.filter (·.value.exceeds floor))).filter fun category => !represented.contains category

theorem fresh_low {represented : List String} (low : entry.value.exceeds floor = false) :
    fresh represented (entry :: entries) = fresh represented entries := by
  simp [fresh, low]

theorem fresh_without {represented : List String} (category : String) (entries : List Entry) :
    fresh (category :: represented) entries = (fresh represented entries).filter (· ≠ category) := by
  simp only [fresh, List.filter_filter]
  apply List.filter_congr
  intro other _
  by_cases same : other = category <;> simp [same]

theorem fresh_cons {represented : List String} (worth : entry.value.exceeds floor = true) :
    fresh represented (entry :: entries) =
      if entry.category ∈ represented then fresh represented entries
      else entry.category :: fresh (entry.category :: represented) entries := by
  have met : fresh represented (entry :: entries) =
      (entry.category :: (Entry.categories (entries.filter (·.value.exceeds floor))).filter (· ≠ entry.category)).filter
        fun category => !represented.contains category := by
    simp only [fresh, List.filter_cons, worth, if_true, Entry.categories]
  rw [met, fresh_without, fresh, List.filter_filter]
  split
  · next member =>
    rw [List.filter_cons_of_neg (by simpa using member), List.filter_filter]
    apply List.filter_congr
    intro category _
    by_cases same : category = entry.category
    · subst same; simpa using member
    · simp [same]
  · next absent =>
    rw [List.filter_cons_of_pos (by simpa using absent), List.filter_filter]
    simp only [Bool.and_comm]

/-- The categories that a scan brings in, found by one visit to each new category. -/
def entering (fragment : FragmentSource) (state : State) (entries : List Entry) : List String :=
  admissions (cost fragment) state.used (fresh state.represented entries)

theorem Scanned.final_eq (run : Scanned fragment state entries verdicts final) :
    final.represented = (entering fragment state entries).reverse ++ state.represented ∧
      final.used = state.used + ((entering fragment state entries).map (cost fragment)).sum := by
  unfold entering
  induction run with
  | done => exact ⟨rfl, rfl⟩
  | @next state between final entry verdict rest verdicts judged run ih =>
    cases judged with
    | belowFloor low => rwa [fresh_low low]
    | ridesAlong worth member => rwa [fresh_cons worth, if_pos member]
    | admitted worth absent _ fits =>
      rw [fresh_cons worth, if_neg absent, admissions, if_pos fits]
      simpa [Nat.add_assoc] using ih
    | overBudget worth absent _ tooLong =>
      -- The scan meets a refused category again, the visits do not; both leave it out.
      rw [fresh_cons worth, if_neg absent, admissions, if_neg (Nat.not_le_of_lt tooLong), fresh_without,
        admissions_without tooLong]
      exact ih

theorem Scanned.represented_subset (run : Scanned fragment state entries verdicts final) {category : String}
    (member : category ∈ state.represented) : category ∈ final.represented := by
  rw [run.final_eq.1]
  exact List.mem_append_right _ member

theorem Scanned.not_represented (run : Scanned fragment state entries verdicts final) {category : String}
    (absent : category ∉ state.represented) (tooLong : budget < state.used + cost fragment category) :
    category ∉ final.represented := by
  intro member
  rw [run.final_eq.1, List.mem_append, List.mem_reverse] at member
  rcases member with member | member
  · exact absurd (admissions_fits member) (Nat.not_le_of_lt tooLong)
  · exact absent member

/-- A verdict depends on the state in which the whole scan ends, not on the one it was passed in. -/
theorem Scanned.accepted_iff (run : Scanned fragment state entries verdicts final) :
    ∀ judged ∈ verdicts, judged.2.isAccepted =
      (judged.1.value.exceeds floor && final.represented.contains judged.1.category) := by
  induction run with
  | done => nofun
  | @next state between final entry verdict rest verdicts judged run ih =>
    refine List.forall_mem_cons.mpr ⟨?_, ih⟩
    -- What is represented stays so, and what is refused is not represented later.
    cases judged with
    | belowFloor low => simp [Verdict.isAccepted, low]
    | ridesAlong worth member => simp [Verdict.isAccepted, worth, run.represented_subset member]
    | admitted worth _ _ _ =>
      have member : entry.category ∈ final.represented := run.represented_subset List.mem_cons_self
      simp [Verdict.isAccepted, worth, member]
    | overBudget _ absent _ tooLong => simp [Verdict.isAccepted, run.not_represented absent tooLong]

theorem Scanned.worth_of_overBudget (run : Scanned fragment state entries verdicts final) :
    ∀ judged ∈ verdicts, ∀ used addition, judged.2 = .overBudget used addition →
      judged.1.value.exceeds floor = true := by
  induction run with
  | done => nofun
  | next judged _ ih =>
    refine List.forall_mem_cons.mpr ⟨fun used addition exceeded => ?_, ih⟩
    cases judged with
    | overBudget worth _ _ _ => exact worth
    | belowFloor _ | ridesAlong _ _ | admitted _ _ _ _ => cases exceeded

/-- Once one candidate is over budget, no candidate of its category is accepted. -/
theorem Scanned.rejected_category (run : Scanned fragment state entries verdicts final)
    {rejected : Entry × Verdict} (member : rejected ∈ verdicts) {used addition : Nat}
    (exceeded : rejected.2 = .overBudget used addition) {other : Entry × Verdict} (otherMember : other ∈ verdicts)
    (same : other.1.category = rejected.1.category) : other.2.isAccepted = false := by
  have refused : rejected.2.isAccepted = false := by rw [exceeded]; rfl
  rw [run.accepted_iff rejected member, run.worth_of_overBudget rejected member used addition exceeded,
    Bool.true_and] at refused
  rw [run.accepted_iff other otherMember, same, refused, Bool.and_false]

end ItemQuery.Supplement
