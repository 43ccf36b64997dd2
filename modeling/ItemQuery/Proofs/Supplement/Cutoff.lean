import ItemQuery.Proofs.Supplement.TwoPhase

/-! What the picks worth a given value or more depend on.

The scan meets the most valuable candidates first. What it makes of them is settled
before it comes to the others, and it starts from the length of the mandatory fragments,
which does not depend on the order or the number of the mandatory entries.
-/

set_option autoImplicit false

namespace ItemQuery.Supplement

/-- What is visited first is admitted as if nothing followed. -/
theorem admissions_append (price : String → Nat) (used : Nat) (first second : List String) :
    admissions price used (first ++ second) =
      admissions price used first ++
        admissions price (used + ((admissions price used first).map price).sum) second := by
  induction first generalizing used with
  | nil => rfl
  | cons category rest ih =>
    rw [List.cons_append, admissions, admissions]
    split
    · rw [ih, List.cons_append, List.map_cons, List.sum_cons, Nat.add_assoc]
    · exact ih used

def admittedAmong (fragment : FragmentSource) (mandatory entries : List Entry) : List String :=
  admissions (cost fragment) (baseLength fragment mandatory)
    ((Entry.categories entries).filter fun category => !(Entry.categories mandatory).contains category)

def picksAmong (fragment : FragmentSource) (mandatory entries : List Entry) : List Entry :=
  entries.filter fun entry =>
    (Entry.categories mandatory).contains entry.category ||
      (admittedAmong fragment mandatory entries).contains entry.category

variable {mandatory pool otherMandatory otherPool : List Entry}

theorem picks_eq (fragment : FragmentSource) (mandatory pool : List Entry) :
    picks fragment mandatory pool = picksAmong fragment mandatory (ranked mandatory pool) := rfl

/-- Entries that follow bring in categories of their own only. -/
theorem admittedAmong_append (fragment : FragmentSource) (mandatory front behind : List Entry) :
    ∃ later, admittedAmong fragment mandatory (front ++ behind) = admittedAmong fragment mandatory front ++ later ∧
      ∀ category ∈ later, category ∉ Entry.categories front := by
  rw [admittedAmong, Entry.categories_append, List.filter_append, admissions_append]
  refine ⟨_, rfl, fun category member => ?_⟩
  have new := (List.mem_filter.mp ((admissions_sublist _ _).subset member)).1
  simpa using (List.mem_filter.mp new).2

theorem picksAmong_append (fragment : FragmentSource) (mandatory front behind : List Entry) :
    ∃ later, picksAmong fragment mandatory (front ++ behind) = picksAmong fragment mandatory front ++ later ∧
      later ⊆ behind := by
  obtain ⟨later, admittedLater, new⟩ := admittedAmong_append fragment mandatory front behind
  have settled : (front.filter fun entry => (Entry.categories mandatory).contains entry.category ||
      (admittedAmong fragment mandatory (front ++ behind)).contains entry.category) =
        picksAmong fragment mandatory front := by
    apply List.filter_congr
    intro entry member
    have met : entry.category ∈ Entry.categories front := Entry.mem_categories.mpr (List.mem_map_of_mem member)
    have notLater : entry.category ∉ later := fun memberLater => new _ memberLater met
    simp [admittedLater, notLater]
  rw [picksAmong, List.filter_append, settled]
  exact ⟨_, rfl, List.filter_sublist.subset⟩

section Cutoff

variable {cutoff : Binary64}

theorem floor_unsigned : floor.Unsigned := ⟨by decide, by decide⟩

/-- Among ranked entries the ones that reach the cutoff stand in front. -/
theorem ranked_front (above : cutoff.exceeds floor) (mandatory pool : List Entry) :
    (ranked mandatory pool).Pairwise fun ahead behind =>
      behind.value.reaches cutoff → ahead.value.reaches cutoff := by
  have sorted : (ranked mandatory pool).Pairwise fun ahead behind => (Entry.byValue ahead behind).isLE := by
    rw [ranked_eq_sort]
    exact Sorting.sort_pairwise _
  have unsigned : ∀ entry ∈ ranked mandatory pool, entry.value.Unsigned := fun entry member =>
    Binary64.unsigned_of_exceeds (mem_eligible.mp (mem_ranked.mp member)).2.2 floor_unsigned
  have unsignedCutoff := Binary64.unsigned_of_exceeds above floor_unsigned
  refine sorted.imp_of_mem fun memberAhead memberBehind ordered reaches => ?_
  rw [(unsigned _ memberBehind).reaches_iff_totalCompare unsignedCutoff] at reaches
  rw [(unsigned _ memberAhead).reaches_iff_totalCompare unsignedCutoff]
  exact Std.TransCmp.isLE_trans reaches ordered

theorem picks_filter_reaches (above : cutoff.exceeds floor) (fragment : FragmentSource) (mandatory pool : List Entry) :
    (picks fragment mandatory pool).filter (·.value.reaches cutoff) =
      picksAmong fragment mandatory ((ranked mandatory pool).filter (·.value.reaches cutoff)) := by
  have whole := Sorting.filter_append_of_front (ranked_front above mandatory pool)
  obtain ⟨later, split, behind⟩ := picksAmong_append fragment mandatory
    ((ranked mandatory pool).filter (·.value.reaches cutoff))
    ((ranked mandatory pool).filter (!·.value.reaches cutoff))
  rw [whole] at split
  have reached : ∀ entry ∈ picksAmong fragment mandatory ((ranked mandatory pool).filter (·.value.reaches cutoff)),
      entry.value.reaches cutoff = true := fun entry member =>
    (List.mem_filter.mp (List.mem_filter.mp member).1).2
  have missed : ∀ entry ∈ later, ¬entry.value.reaches cutoff = true := fun entry member => by
    simpa using (List.mem_filter.mp (behind member)).2
  rw [picks_eq, split, List.filter_append, List.filter_eq_self.mpr reached, List.filter_eq_nil_iff.mpr missed,
    List.append_nil]

end Cutoff

section Categories

variable (same : ∀ category, category ∈ mandatory.map (·.category) ↔ category ∈ otherMandatory.map (·.category))

include same

theorem categories_perm : (Entry.categories mandatory).Perm (Entry.categories otherMandatory) := by
  rw [List.perm_ext_iff_of_nodup (Entry.nodup_categories _) (Entry.nodup_categories _)]
  intro category
  rw [Entry.mem_categories, Entry.mem_categories, same]

theorem baseLength_congr (fragment : FragmentSource) :
    baseLength fragment mandatory = baseLength fragment otherMandatory := by
  have lengths := (categories_perm same).map fun category => 1 + (fragment.textOf category).length
  rw [baseLength, baseLength, FragmentSource.length_joined, FragmentSource.length_joined, lengths.sum_nat]

theorem picksAmong_congr (fragment : FragmentSource) (entries : List Entry) :
    picksAmong fragment mandatory entries = picksAmong fragment otherMandatory entries := by
  have contains : ∀ category : String,
      (Entry.categories mandatory).contains category = (Entry.categories otherMandatory).contains category :=
    fun _ => (categories_perm same).contains_eq
  simp only [picksAmong, admittedAmong, contains, baseLength_congr same]

end Categories

/-- The entries that tie with one of a kept value are those of its value, and only kept values tie with it. -/
theorem filter_ties (keep : Binary64 → Bool) (eligible : Entry → Bool) (item : Entry) (entries : List Entry) :
    ((entries.filter eligible).filter (keep ·.value)).filter (Entry.byValue item · == .eq) =
      if keep item.value then (entries.filter (·.value = item.value)).filter eligible else [] := by
  split
  · next kept =>
    simp only [List.filter_filter]
    apply List.filter_congr
    intro entry _
    by_cases same : entry.value = item.value <;> simp [Entry.byValue_eq_iff, same, kept, eq_comm (a := item.value)]
  · next left =>
    rw [List.filter_eq_nil_iff]
    intro entry member tied
    have same : item.value = entry.value := Entry.byValue_eq_iff.mp (by simpa using tied)
    exact left (same ▸ (List.mem_filter.mp member).2)

/-- Which entries are eligible depends on the mandatory names only, and how they are ranked on the order of those
of equal value. -/
theorem ranked_filter_congr {keep : Binary64 → Bool}
    (sameNames : ∀ name, name ∈ mandatory.map (·.name) ↔ name ∈ otherMandatory.map (·.name))
    (samePool : ∀ value, keep value → pool.filter (·.value = value) = otherPool.filter (·.value = value)) :
    (ranked mandatory pool).filter (keep ·.value) = (ranked otherMandatory otherPool).filter (keep ·.value) := by
  have named : ∀ entry : Entry, mandatory.any (·.name == entry.name) = otherMandatory.any (·.name == entry.name) := by
    intro entry
    rw [Bool.eq_iff_iff]
    simpa using sameNames entry.name
  rw [ranked_eq_sort, ranked_eq_sort, Sorting.sort_filter, Sorting.sort_filter, eligible, eligible]
  refine Sorting.sort_eq_of_ties fun item => ?_
  rw [filter_ties, filter_ties]
  split
  · next kept => simp only [samePool item.value kept, named]
  · rfl

/-- Two runs with the same mandatory categories agree on the picks that reach a cutoff above the floor as soon as
they rank the same eligible entries that reach it. So these picks do not depend on the order or the number of the
mandatory entries, on what does not reach the cutoff, or on the order of pool entries of different values. -/
theorem select_above_cutoff (fragment : FragmentSource) (cutoff : Binary64) (above : cutoff.exceeds floor)
    (mandatory pool otherMandatory otherPool picked otherPicked : List Entry)
    (selected : select fragment mandatory pool = .ok picked)
    (otherSelected : select fragment otherMandatory otherPool = .ok otherPicked)
    (sameCategories : ∀ category, category ∈ mandatory.map (·.category) ↔ category ∈ otherMandatory.map (·.category)) :
    ((ranked mandatory pool).filter (·.value.reaches cutoff) =
        (ranked otherMandatory otherPool).filter (·.value.reaches cutoff) →
      picked.filter (·.value.reaches cutoff) = otherPicked.filter (·.value.reaches cutoff)) ∧
    ((∀ name, name ∈ mandatory.map (·.name) ↔ name ∈ otherMandatory.map (·.name)) →
      (∀ value, value.reaches cutoff →
        pool.filter (·.value = value) = otherPool.filter (·.value = value)) →
      picked.filter (·.value.reaches cutoff) = otherPicked.filter (·.value.reaches cutoff)) := by
  obtain ⟨_, rfl⟩ := select_eq_ok_iff.mp selected
  obtain ⟨_, rfl⟩ := select_eq_ok_iff.mp otherSelected
  rw [picks_filter_reaches above, picks_filter_reaches above, ← picksAmong_congr sameCategories]
  refine ⟨fun sameRanked => ?_, fun sameNames samePool => ?_⟩
  · rw [sameRanked]
  · rw [ranked_filter_congr sameNames samePool]

section Reordered

def band : Entry := ⟨"Band", "Ring", ⟨0x4069000000000000⟩, "", none⟩

def sash : Entry := ⟨"Sash", "Belt", ⟨0x408C200000000000⟩, "", none⟩

def hoop : Entry := ⟨"Hoop", "Ring", ⟨0x4072C00000000000⟩, "", none⟩

def crook : Entry := ⟨"Crook", "Staff", ⟨0x408C200000000000⟩, "", none⟩

def club : Entry := ⟨"Club", "Mace", ⟨0x406F400000000000⟩, "", none⟩

/-- A band turned up twice, the pool in another order, and with a club of two hundred and fifty: nothing changes from
three hundred on. -/
theorem select_above_cutoff_reordered :
    Binary64.exceeds ⟨0x4072C00000000000⟩ floor ∧
    select byName [band, sash] [hoop, crook] = .ok [crook, hoop] ∧
    select byName [sash, band, band] [crook, club, hoop] = .ok [crook, hoop, club] ∧
    [crook, hoop].filter (·.value.reaches ⟨0x4072C00000000000⟩) =
      [crook, hoop, club].filter (·.value.reaches ⟨0x4072C00000000000⟩) := by
  have above : Binary64.exceeds ⟨0x4072C00000000000⟩ floor := by decide
  have selected : select byName [band, sash] [hoop, crook] = .ok [crook, hoop] := rfl
  have otherSelected : select byName [sash, band, band] [crook, club, hoop] = .ok [crook, hoop, club] := rfl
  have sameCategories : ∀ category, category ∈ [band, sash].map (·.category) ↔
      category ∈ [sash, band, band].map (·.category) := by
    intro category
    simp [or_comm]
  have sameNames : ∀ name, name ∈ [band, sash].map (·.name) ↔ name ∈ [sash, band, band].map (·.name) := by
    intro name
    simp [or_comm]
  have samePool : ∀ value : Binary64, value.reaches ⟨0x4072C00000000000⟩ →
      [hoop, crook].filter (·.value = value) = [crook, club, hoop].filter (·.value = value) := by
    intro value reaches
    have tooCheap : club.value ≠ value := by
      rintro rfl
      revert reaches
      decide
    have different : hoop.value ≠ crook.value := by decide
    by_cases same : crook.value = value
    · subst same
      simp [different, tooCheap]
    · simp [List.filter_cons, same, tooCheap]
  exact ⟨above, selected, otherSelected,
    (select_above_cutoff byName ⟨0x4072C00000000000⟩ above _ _ _ _ _ _ selected otherSelected sameCategories).2
      sameNames samePool⟩

end Reordered

end ItemQuery.Supplement
