import ItemQuery.Proofs.Supplement.TwoPhase

/-! When filling a query fails: at the first mandatory entry whose category is unknown, or else at the first eligible one. -/

set_option autoImplicit false

namespace ItemQuery.Supplement

variable {fragment : FragmentSource} {mandatory pool entries : List Entry} {state : State} {entry : Entry}
  {cause : CatalogError}

theorem start_eq_error (first : mandatory.find? (¬fragment.Knows ·.category) = some entry)
    (failed : fragment entry.category = .error cause) : start fragment mandatory = .error cause := by
  have firstCategory : (Entry.categories mandatory).find? (¬fragment.Knows ·) = some entry.category := by
    rw [Entry.find?_categories, first]
    rfl
  have refused := FragmentSource.mapM_eq_error_iff.mpr ⟨_, firstCategory, failed⟩
  exact Except.bind_eq_error_of_error (Except.bind_eq_error_of_error refused)

theorem judge_eq_error (worth : entry.value.exceeds floor = true) (absent : entry.category ∉ state.represented)
    (failed : fragment entry.category = .error cause) : judge fragment state entry = .error cause := by
  have unmet : state.represented.contains entry.category = false := by simpa using absent
  simp only [judge, worth, unmet, Bool.not_true, Bool.false_eq_true, if_false]
  exact Except.bind_eq_error_of_error failed

/-- A judgement leaves only known categories represented. -/
theorem Judged.known {next : State} {verdict : Verdict} (judged : Judged fragment state entry verdict next)
    (known : ∀ category ∈ state.represented, fragment.Knows category) :
    ∀ category ∈ next.represented, fragment.Knows category := by
  cases judged with
  | admitted _ _ found _ => exact List.forall_mem_cons.mpr ⟨found, known⟩
  | belowFloor _ | ridesAlong _ _ | overBudget _ _ _ _ => exact known

theorem scan_eq_error (known : ∀ category ∈ state.represented, fragment.Knows category)
    (first : (entries.filter (·.value.exceeds floor)).find? (¬fragment.Knows ·.category) = some entry)
    (failed : fragment entry.category = .error cause) : scan fragment state entries = .error cause := by
  induction entries generalizing state with
  | nil => cases first
  | cons candidate rest ih =>
    -- A candidate that is not worth looking up is passed over, and so is one that is known.
    have later (knownHere : candidate.value.exceeds floor = true → fragment.Knows candidate.category)
        (firstLater : (rest.filter (·.value.exceeds floor)).find? (¬fragment.Knows ·.category) = some entry) :
        scan fragment state (candidate :: rest) = .error cause := by
      obtain ⟨verdict, between, judged⟩ : ∃ verdict between, Judged fragment state candidate verdict between :=
        Judged.exists_of_known knownHere
      rw [scan, Except.bind_eq_of_ok (judge_eq_ok_iff.mpr judged)]
      exact Except.bind_eq_error_of_error (ih (judged.known known) firstLater)
    rw [List.filter_cons] at first
    split at first
    · next worth =>
      by_cases found : fragment.Knows candidate.category
      · rw [List.find?_cons_of_neg (by simpa using found)] at first
        exact later (fun _ => found) first
      · rw [List.find?_cons_of_pos (by simpa using found)] at first
        have same : candidate = entry := Option.some.inj first
        subst same
        -- Represented categories are not looked up, but an unknown one cannot be represented.
        have absent : candidate.category ∉ state.represented := fun member => found (known _ member)
        exact Except.bind_eq_error_of_error (judge_eq_error worth absent failed)
    · next low => exact later (fun worth => absurd worth low) first

theorem fill_eq_error (first : (mandatory ++ ranked mandatory pool).find? (¬fragment.Knows ·.category) = some entry)
    (failed : fragment entry.category = .error cause) : fill fragment mandatory pool = .error cause := by
  rw [List.find?_append] at first
  cases met : mandatory.find? (¬fragment.Knows ·.category) with
  | some mandatoryEntry =>
    rw [met, Option.some_or] at first
    cases first
    exact Except.bind_eq_error_of_error (start_eq_error met failed)
  | none =>
    rw [met, Option.none_or, ranked_eq_filter] at first
    have known : ∀ category ∈ Entry.categories mandatory, fragment.Knows category := by
      intro category member
      obtain ⟨entry, entryMember, rfl⟩ := List.mem_map.mp (Entry.mem_categories.mp member)
      simpa using List.find?_eq_none.mp met entry entryMember
    have started : start fragment mandatory = .ok ⟨baseLength fragment mandatory, Entry.categories mandatory⟩ :=
      start_eq_ok_iff.mpr ⟨known, rfl⟩
    rw [fill, Except.bind_eq_of_ok started]
    exact Except.bind_eq_error_of_error (scan_eq_error known first failed)

theorem fill_eq_error_iff :
    fill fragment mandatory pool = .error cause ↔
      ∃ entry, (mandatory ++ ranked mandatory pool).find? (¬fragment.Knows ·.category) = some entry ∧
        fragment entry.category = .error cause := by
  constructor
  · intro failed
    cases first : (mandatory ++ ranked mandatory pool).find? (¬fragment.Knows ·.category) with
    | none =>
      have known : ∀ entry ∈ mandatory ++ eligible mandatory pool, fragment.Knows entry.category := by
        intro entry member
        rw [List.mem_append, ← mem_ranked, ← List.mem_append] at member
        simpa using List.find?_eq_none.mp first entry member
      obtain ⟨outcome, filled⟩ := exists_fill known
      rw [filled] at failed
      cases failed
    | some entry =>
      have unknown : ¬fragment.Knows entry.category := by simpa using List.find?_some first
      cases found : fragment entry.category with
      | ok text => exact absurd ⟨text, found⟩ unknown
      | error reported =>
        have same := (fill_eq_error first found).symm.trans failed
        cases same
        exact ⟨entry, rfl, found⟩
  · rintro ⟨entry, first, failed⟩
    exact fill_eq_error first failed

end ItemQuery.Supplement
