import ItemQuery.Proofs.Supplement.Scan

/-! Supplementary entries in two phases.

First every new category is visited once, in the order of its most valuable entry, and
admitted while the budget lasts. Then the entries of all represented categories are
taken. The entry-by-entry scan picks the same entries.
-/

set_option autoImplicit false

namespace ItemQuery.Supplement

/-- Pool entries of other names than the mandatory ones that are worth more than the floor. -/
def eligible (mandatory pool : List Entry) : List Entry :=
  pool.filter fun entry => !mandatory.any (·.name == entry.name) && entry.value.exceeds floor

/-- The most valuable first, entries of equal value in the order of the pool. -/
def ranked (mandatory pool : List Entry) : List Entry :=
  (eligible mandatory pool).mergeSort fun first second => (Entry.byValue first second).isLE

def baseLength (fragment : FragmentSource) (mandatory : List Entry) : Nat :=
  max (fragment.joined (Entry.categories mandatory)).length leastUsed

def newCategories (mandatory pool : List Entry) : List String :=
  (Entry.categories (ranked mandatory pool)).filter fun category => !(Entry.categories mandatory).contains category

/-- The first phase. -/
def admitted (fragment : FragmentSource) (mandatory pool : List Entry) : List String :=
  admissions (cost fragment) (baseLength fragment mandatory) (newCategories mandatory pool)

/-- The second phase. -/
def picks (fragment : FragmentSource) (mandatory pool : List Entry) : List Entry :=
  (ranked mandatory pool).filter fun entry =>
    (Entry.categories mandatory).contains entry.category || (admitted fragment mandatory pool).contains entry.category

variable {fragment : FragmentSource} {mandatory pool picked : List Entry} {outcome : Outcome} {state final : State}

theorem ranked_eq_sort (mandatory pool : List Entry) :
    ranked mandatory pool = Sorting.sort Entry.byValue (eligible mandatory pool) :=
  (Sorting.sort_eq_mergeSort _).symm

theorem ranked_eq_filter (mandatory pool : List Entry) :
    ranked mandatory pool = (candidates mandatory pool).filter (·.value.exceeds floor) := by
  -- Sorting before the floor is checked or after it gives the same entries in the same order.
  have split : eligible mandatory pool =
      (pool.filter fun entry => !mandatory.any (·.name == entry.name)).filter (·.value.exceeds floor) := by
    simp only [eligible, List.filter_filter, Bool.and_comm]
  rw [ranked_eq_sort, split, ← Sorting.sort_filter, candidates, Entry.sort]

theorem mem_eligible {entry : Entry} : entry ∈ eligible mandatory pool ↔
    entry ∈ pool ∧ entry.name ∉ mandatory.map (·.name) ∧ entry.value.exceeds floor = true := by
  simp [eligible]

theorem mem_ranked {entry : Entry} : entry ∈ ranked mandatory pool ↔ entry ∈ eligible mandatory pool :=
  List.mem_mergeSort

theorem mem_picks {entry : Entry} : entry ∈ picks fragment mandatory pool ↔
    entry ∈ eligible mandatory pool ∧
      (entry.category ∈ Entry.categories mandatory ∨ entry.category ∈ admitted fragment mandatory pool) := by
  simp [picks, mem_ranked]

theorem not_mandatory_of_mem_admitted {category : String} (member : category ∈ admitted fragment mandatory pool) :
    category ∉ Entry.categories mandatory := by
  have new : category ∈ newCategories mandatory pool := (admissions_sublist _ _).subset member
  simpa using (List.mem_filter.mp new).2

theorem fresh_candidates (mandatory pool : List Entry) :
    fresh (Entry.categories mandatory) (candidates mandatory pool) = newCategories mandatory pool := by
  rw [fresh, newCategories, ranked_eq_filter]

theorem joinedLength_eq_ok_iff {categories : List String} {length : Nat} :
    joinedLength fragment categories = .ok length ↔
      (∀ category ∈ categories, fragment.Knows category) ∧ length = (fragment.joined categories).length := by
  have counted : (fragment.joined categories).length =
      categories.length - 1 + (categories.map fragment.textOf).foldr (fun text length => text.length + length) 0 := by
    rw [FragmentSource.joined, Text.length_join, List.length_map, List.map_map]
    congr 1
    induction categories with
    | nil => rfl
    | cons category rest ih => rw [List.map_cons, List.map_cons, List.foldr_cons, ← ih]; rfl
  simp only [joinedLength, Except.bind_eq_ok_iff, FragmentSource.mapM_eq_ok_iff, counted]
  constructor
  · rintro ⟨_, ⟨known, rfl⟩, same⟩
    exact ⟨known, (Except.ok.inj same).symm⟩
  · rintro ⟨known, rfl⟩
    exact ⟨_, ⟨known, rfl⟩, rfl⟩

theorem start_eq_ok_iff :
    start fragment mandatory = .ok state ↔
      (∀ category ∈ Entry.categories mandatory, fragment.Knows category) ∧
        state = ⟨baseLength fragment mandatory, Entry.categories mandatory⟩ := by
  simp only [start, Except.bind_eq_ok_iff, joinedLength_eq_ok_iff]
  constructor
  · rintro ⟨_, ⟨known, rfl⟩, same⟩
    exact ⟨known, (Except.ok.inj same).symm⟩
  · rintro ⟨known, rfl⟩
    exact ⟨_, ⟨known, rfl⟩, rfl⟩

theorem fill_eq_ok_iff :
    fill fragment mandatory pool = .ok outcome ↔
      (∀ category ∈ Entry.categories mandatory, fragment.Knows category) ∧
        ∃ final, Scanned fragment ⟨baseLength fragment mandatory, Entry.categories mandatory⟩
          (candidates mandatory pool) outcome.verdicts final ∧ outcome.used = final.used := by
  simp only [fill, Except.bind_eq_ok_iff, start_eq_ok_iff, Prod.exists, scan_eq_ok_iff]
  constructor
  · rintro ⟨_, ⟨known, rfl⟩, verdicts, final, run, same⟩
    cases same
    exact ⟨known, final, run, rfl⟩
  · rintro ⟨known, final, run, same⟩
    refine ⟨_, ⟨known, rfl⟩, outcome.verdicts, final, run, ?_⟩
    rw [← same]
    rfl

theorem Scanned.mem_final
    (run : Scanned fragment ⟨baseLength fragment mandatory, Entry.categories mandatory⟩ (candidates mandatory pool)
      outcome.verdicts final) {category : String} :
    category ∈ final.represented ↔
      category ∈ Entry.categories mandatory ∨ category ∈ admitted fragment mandatory pool := by
  rw [run.final_eq.1, entering, fresh_candidates, List.mem_append, List.mem_reverse, or_comm]
  exact Iff.rfl

theorem entries_eq_filter (keep : Entry → Bool)
    (accepted : ∀ judged ∈ outcome.verdicts, judged.2.isAccepted = keep judged.1) :
    outcome.entries = (outcome.verdicts.map Prod.fst).filter keep := by
  rw [Outcome.entries]
  generalize outcome.verdicts = verdicts at accepted
  induction verdicts with
  | nil => rfl
  | cons judged rest ih =>
    obtain ⟨entry, verdict⟩ := judged
    obtain ⟨first, others⟩ := List.forall_mem_cons.mp accepted
    rw [List.map_cons, List.filter_cons, ← ih others, ← first]
    cases accepts : verdict.isAccepted <;> simp [accepts]

theorem Scanned.entries_eq_picks
    (run : Scanned fragment ⟨baseLength fragment mandatory, Entry.categories mandatory⟩ (candidates mandatory pool)
      outcome.verdicts final) : outcome.entries = picks fragment mandatory pool := by
  have represented : ∀ category : String, final.represented.contains category =
      ((Entry.categories mandatory).contains category || (admitted fragment mandatory pool).contains category) := by
    intro category
    rw [Bool.eq_iff_iff]
    simpa using run.mem_final
  have kept := entries_eq_filter
    (fun entry => entry.value.exceeds floor && final.represented.contains entry.category) run.accepted_iff
  rw [kept, run.entries_eq, picks, ranked_eq_filter, List.filter_filter]
  simp only [represented, Bool.and_comm]

theorem known_iff :
    ((∀ category ∈ Entry.categories mandatory, fragment.Knows category) ∧
      ∀ entry ∈ candidates mandatory pool, entry.value.exceeds floor = true → fragment.Knows entry.category) ↔
    ∀ entry ∈ mandatory ++ eligible mandatory pool, fragment.Knows entry.category := by
  have worthy : ∀ entry : Entry, entry ∈ eligible mandatory pool ↔
      entry ∈ candidates mandatory pool ∧ entry.value.exceeds floor = true := by
    intro entry
    rw [← mem_ranked, ranked_eq_filter, List.mem_filter]
  simp only [List.forall_mem_append, worthy, and_imp, Entry.mem_categories, List.forall_mem_map]

theorem exists_fill (known : ∀ entry ∈ mandatory ++ eligible mandatory pool, fragment.Knows entry.category) :
    ∃ outcome, fill fragment mandatory pool = .ok outcome := by
  obtain ⟨knownBase, knownWorthy⟩ := known_iff.mpr known
  obtain ⟨verdicts, final, run⟩ := Scanned.exists_of_known
    ⟨baseLength fragment mandatory, Entry.categories mandatory⟩ knownWorthy
  exact ⟨⟨verdicts, final.used⟩, fill_eq_ok_iff.mpr ⟨knownBase, final, run, rfl⟩⟩

theorem select_eq_ok_iff :
    select fragment mandatory pool = .ok picked ↔
      (∀ entry ∈ mandatory ++ eligible mandatory pool, fragment.Knows entry.category) ∧
        picked = picks fragment mandatory pool := by
  rw [select, Except.map_eq_ok_iff]
  -- A scan that succeeds has looked all of them up, and one that looks them all up succeeds.
  constructor
  · rintro ⟨outcome, filled, rfl⟩
    obtain ⟨known, final, run, _⟩ := fill_eq_ok_iff.mp filled
    exact ⟨known_iff.mp ⟨known, run.known known⟩, run.entries_eq_picks⟩
  · rintro ⟨known, rfl⟩
    obtain ⟨outcome, filled⟩ := exists_fill known
    obtain ⟨_, final, run, _⟩ := fill_eq_ok_iff.mp filled
    exact ⟨outcome, filled, run.entries_eq_picks⟩

theorem picks_whole_category (fragment : FragmentSource) (mandatory pool : List Entry) (category : String) :
    (picks fragment mandatory pool).filter (·.category == category) =
        (ranked mandatory pool).filter (·.category == category) ∨
      (picks fragment mandatory pool).filter (·.category == category) = [] := by
  rw [picks, List.filter_filter]
  cases taken : (Entry.categories mandatory).contains category ||
      (admitted fragment mandatory pool).contains category with
  | true =>
    apply Or.inl
    apply List.filter_congr
    intro entry _
    by_cases same : entry.category = category
    · subst same; rw [taken, Bool.and_true]
    · simp [same]
  | false =>
    apply Or.inr
    rw [List.filter_eq_nil_iff]
    intro entry _
    by_cases same : entry.category = category
    · subst same; rw [taken, Bool.and_false]; exact Bool.false_ne_true
    · simp [same]

/-- The scan succeeds when the categories it needs are known, and picks what the two phases pick. A category
is taken whole or not at all: once a candidate is over budget, none of its category is accepted. -/
theorem select_two_phase (fragment : FragmentSource) (mandatory pool : List Entry)
    (known : ∀ entry ∈ mandatory ++ eligible mandatory pool, fragment.Knows entry.category) :
    select fragment mandatory pool = .ok (picks fragment mandatory pool) ∧
    (∀ category, (picks fragment mandatory pool).filter (·.category == category) =
        (ranked mandatory pool).filter (·.category == category) ∨
      (picks fragment mandatory pool).filter (·.category == category) = []) ∧
    ∃ outcome, fill fragment mandatory pool = .ok outcome ∧
      ∀ rejected ∈ outcome.verdicts, ∀ used addition, rejected.2 = .overBudget used addition →
        ∀ other ∈ outcome.verdicts, other.1.category = rejected.1.category → other.2.isAccepted = false := by
  refine ⟨select_eq_ok_iff.mpr ⟨known, rfl⟩, picks_whole_category fragment mandatory pool, ?_⟩
  obtain ⟨outcome, filled⟩ := exists_fill known
  obtain ⟨_, final, run, _⟩ := fill_eq_ok_iff.mp filled
  exact ⟨outcome, filled, fun rejected member _ _ exceeded other otherMember same =>
    run.rejected_category member exceeded otherMember same⟩

section Limit

/-- All categories but the nameless one, each with its name as its fragment. -/
def byName : FragmentSource := fun key => if key = "" then .error (.unknownCategory key) else .ok key

/-- Two categories, forty-five characters. -/
def longMandatory : List Entry :=
  [⟨"Band", "Ring", ⟨0x4069000000000000⟩, "", none⟩, ⟨"Loop", "Ring", ⟨0x408C200000000000⟩, "", none⟩,
    ⟨"Sash", "Leather and Chain Belts of the Old North", ⟨0⟩, "", none⟩]

/-- There is room for one category of four letters, not for one of five; entries without a category are not eligible. -/
def mixedPool : List Entry :=
  [⟨"Penny", "", ⟨0x4069000000000000⟩, "", none⟩, ⟨"Riddle", "", ⟨0x7FF8000000000000⟩, "", none⟩,
    ⟨"Hoop", "Ring", ⟨0x4072C00000000000⟩, "", none⟩, ⟨"Crook", "Staff", ⟨0x408C200000000000⟩, "", none⟩,
    ⟨"Cane", "Staff", ⟨0x407F400000000000⟩, "", none⟩, ⟨"Sash", "", ⟨0x408C200000000000⟩, "", none⟩,
    ⟨"Club", "Mace", ⟨0x407F400000000000⟩, "", none⟩]

theorem select_two_phase_limit :
    (∀ entry ∈ longMandatory ++ eligible longMandatory mixedPool, byName.Knows entry.category) ∧
      picks byName longMandatory mixedPool =
        [⟨"Club", "Mace", ⟨0x407F400000000000⟩, "", none⟩, ⟨"Hoop", "Ring", ⟨0x4072C00000000000⟩, "", none⟩] := by
  have known : ∀ entry ∈ longMandatory ++ eligible longMandatory mixedPool, byName.Knows entry.category := by decide
  have scanned : select byName longMandatory mixedPool =
      .ok [⟨"Club", "Mace", ⟨0x407F400000000000⟩, "", none⟩, ⟨"Hoop", "Ring", ⟨0x4072C00000000000⟩, "", none⟩] := rfl
  exact ⟨known, Except.ok.inj ((select_two_phase byName longMandatory mixedPool known).1.symm.trans scanned)⟩

end Limit

end ItemQuery.Supplement
