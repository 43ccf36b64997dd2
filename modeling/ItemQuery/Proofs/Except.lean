import Mathlib.Data.List.Forall2

/-! When a computation that may be refused succeeds, and when it is refused. -/

set_option autoImplicit false

namespace Except

variable {ε α β : Type}

theorem bind_eq_ok_iff {first : Except ε α} {next : α → Except ε β} {result : β} :
    (first >>= next) = .ok result ↔ ∃ value, first = .ok value ∧ next value = .ok result := by
  cases first with
  | error cause => exact ⟨nofun, nofun⟩
  | ok value => exact ⟨fun done => ⟨value, rfl, done⟩, fun ⟨_, same, done⟩ => by cases same; exact done⟩

theorem bind_eq_error_of_error {first : Except ε α} {next : α → Except ε β} {cause : ε}
    (failed : first = .error cause) : (first >>= next) = .error cause := by
  rw [failed]
  rfl

theorem bind_eq_of_ok {first : Except ε α} {next : α → Except ε β} {value : α} (found : first = .ok value) :
    (first >>= next) = next value := by
  rw [found]
  rfl

theorem map_eq_ok_iff {first : Except ε α} {f : α → β} {result : β} :
    first.map f = .ok result ↔ ∃ value, first = .ok value ∧ f value = result := by
  cases first with
  | error cause => exact ⟨nofun, nofun⟩
  | ok value => simp [Except.map]

theorem map_eq_error_iff {first : Except ε α} {f : α → β} {cause : ε} :
    first.map f = .error cause ↔ first = .error cause := by
  cases first with
  | error reason => simp [Except.map]
  | ok value => exact ⟨nofun, nofun⟩

theorem mapError_eq_error_iff {ε' : Type} {first : Except ε α} {f : ε → ε'} {cause : ε'} :
    first.mapError f = .error cause ↔ ∃ reason, first = .error reason ∧ f reason = cause := by
  cases first with
  | error reason => exact ⟨fun same => ⟨reason, rfl, Except.error.inj same⟩, fun ⟨_, same, mapped⟩ => by
      cases same; exact congrArg Except.error mapped⟩
  | ok value => exact ⟨nofun, nofun⟩

theorem mapError_eq_ok_iff {ε' : Type} {first : Except ε α} {f : ε → ε'} {result : α} :
    first.mapError f = .ok result ↔ first = .ok result := by
  cases first with
  | error reason => exact ⟨nofun, nofun⟩
  | ok value =>
    exact ⟨fun same => congrArg Except.ok (Except.ok.inj same), fun same => congrArg Except.ok (Except.ok.inj same)⟩

/-- What every step that succeeds preserves holds at the end of a run of them. -/
theorem foldlM_induction {step : β → α → Except ε β} (Holds : β → Prop)
    (preserved : ∀ state item next, Holds state → step state item = .ok next → Holds next) {items : List α}
    {start final : β} (holds : Holds start) (done : items.foldlM step start = .ok final) : Holds final := by
  induction items generalizing start with
  | nil => cases done; exact holds
  | cons item rest ih =>
    rw [List.foldlM_cons] at done
    obtain ⟨next, stepped, later⟩ := bind_eq_ok_iff.mp done
    exact ih (preserved start item next holds stepped) later

theorem mapM_nil_eq_ok_iff {f : α → Except ε β} {results : List β} : [].mapM f = .ok results ↔ results = [] := by
  rw [List.mapM_nil]
  exact ⟨fun done => (Except.ok.inj done).symm, fun same => same ▸ rfl⟩

theorem mapM_cons_eq_ok_iff {f : α → Except ε β} {item : α} {rest : List α} {results : List β} :
    (item :: rest).mapM f = .ok results ↔
      ∃ result others, f item = .ok result ∧ rest.mapM f = .ok others ∧ results = result :: others := by
  rw [List.mapM_cons, bind_eq_ok_iff]
  constructor
  · rintro ⟨result, found, done⟩
    obtain ⟨others, foundAll, same⟩ := bind_eq_ok_iff.mp done
    cases same
    exact ⟨result, others, found, foundAll, rfl⟩
  · rintro ⟨result, others, found, foundAll, rfl⟩
    exact ⟨result, found, bind_eq_ok_iff.mpr ⟨others, foundAll, rfl⟩⟩

/-- The results are those of the items, one by one. -/
theorem mapM_eq_ok_iff {f : α → Except ε β} {items : List α} {results : List β} :
    items.mapM f = .ok results ↔ List.Forall₂ (fun item result => f item = .ok result) items results := by
  induction items generalizing results with
  | nil => rw [mapM_nil_eq_ok_iff, List.forall₂_nil_left_iff]
  | cons item rest ih =>
    rw [mapM_cons_eq_ok_iff, List.forall₂_cons_left_iff]
    constructor
    · rintro ⟨result, others, found, foundAll, rfl⟩
      exact ⟨result, others, found, ih.mp foundAll, rfl⟩
    · rintro ⟨result, others, found, foundAll, rfl⟩
      exact ⟨result, others, found, ih.mpr foundAll, rfl⟩

theorem mem_iff_of_mapM_eq_ok {f : α → Except ε β} {items : List α} {results : List β}
    (done : items.mapM f = .ok results) {result : β} : result ∈ results ↔ ∃ item ∈ items, f item = .ok result := by
  induction mapM_eq_ok_iff.mp done with
  | nil => simp
  | cons found foundAll ih =>
    rw [List.mem_cons, List.exists_mem_cons_iff, ih (mapM_eq_ok_iff.mpr foundAll), found, Except.ok.injEq, eq_comm]

theorem exists_of_mapM_eq_ok {f : α → Except ε β} {items : List α} {results : List β}
    (done : items.mapM f = .ok results) {result : β} (member : result ∈ results) :
    ∃ item ∈ items, f item = .ok result :=
  (mem_iff_of_mapM_eq_ok done).mp member

theorem exists_mapM_eq_ok {f : α → Except ε β} {items : List α} (known : ∀ item ∈ items, ∃ result, f item = .ok result) :
    ∃ results, items.mapM f = .ok results := by
  induction items with
  | nil => exact ⟨[], mapM_nil_eq_ok_iff.mpr rfl⟩
  | cons item rest ih =>
    obtain ⟨⟨result, found⟩, knownRest⟩ := List.forall_mem_cons.mp known
    obtain ⟨others, foundAll⟩ := ih knownRest
    exact ⟨result :: others, mapM_cons_eq_ok_iff.mpr ⟨result, others, found, foundAll, rfl⟩⟩

/-- What fails first decides how the whole fails. -/
theorem mapM_eq_error {f : α → Except ε β} {before after : List α} {item : α} {cause : ε}
    (known : ∀ other ∈ before, ∃ result, f other = .ok result) (failed : f item = .error cause) :
    (before ++ item :: after).mapM f = .error cause := by
  induction before with
  | nil => rw [List.nil_append, List.mapM_cons, bind_eq_error_of_error failed]
  | cons first rest ih =>
    obtain ⟨⟨result, found⟩, knownRest⟩ := List.forall_mem_cons.mp known
    rw [List.cons_append, List.mapM_cons, bind_eq_of_ok found, bind_eq_error_of_error (ih knownRest)]

theorem exists_mapM_eq_error_iff {f : α → Except ε β} {items : List α} :
    (∃ cause, items.mapM f = .error cause) ↔ ∃ item ∈ items, ∃ cause, f item = .error cause := by
  induction items with
  | nil => simp [pure, Except.pure]
  | cons item rest ih =>
    rw [List.exists_mem_cons_iff, ← ih, List.mapM_cons]
    cases found : f item with
    | error cause => exact ⟨fun _ => .inl ⟨cause, rfl⟩, fun _ => ⟨cause, rfl⟩⟩
    | ok result =>
      rw [bind_eq_of_ok rfl]
      cases rest.mapM f with
      | error cause => exact ⟨fun _ => .inr ⟨cause, rfl⟩, fun _ => ⟨cause, rfl⟩⟩
      | ok others => exact ⟨nofun, fun failed => failed.elim nofun nofun⟩

theorem mapM_eq_error_iff {f : α → Except ε β} {fails : α → Bool}
    (decides : ∀ item, fails item = false ↔ ∃ result, f item = .ok result) {items : List α} {cause : ε} :
    items.mapM f = .error cause ↔ ∃ item, items.find? fails = some item ∧ f item = .error cause := by
  constructor
  · intro failed
    induction items with
    | nil => cases failed
    | cons item rest ih =>
      rw [List.mapM_cons] at failed
      cases found : f item with
      | error reported =>
        have unknown : fails item = true := by
          refine Bool.eq_false_imp_eq_true.mp fun known => ?_
          obtain ⟨result, same⟩ := (decides item).mp known
          exact nomatch found.symm.trans same
        rw [bind_eq_error_of_error found] at failed
        cases failed
        exact ⟨item, List.find?_cons_of_pos unknown, found⟩
      | ok result =>
        rw [bind_eq_of_ok found] at failed
        have later : rest.mapM f = .error cause := by
          cases foundAll : rest.mapM f with
          | error reported => rw [bind_eq_error_of_error foundAll] at failed; exact failed
          | ok others => rw [bind_eq_of_ok foundAll] at failed; cases failed
        obtain ⟨first, firstFound, reported⟩ := ih later
        have known : fails item = false := (decides item).mpr ⟨result, found⟩
        exact ⟨first, by rw [List.find?_cons_of_neg (by simp [known]), firstFound], reported⟩
  · rintro ⟨item, first, failed⟩
    obtain ⟨_, before, after, rfl, passed⟩ := List.find?_eq_some_iff_append.mp first
    exact mapM_eq_error (fun other member => (decides other).mp (by simpa using passed other member)) failed

theorem mapM_eq_error_iff_append {f : α → Except ε β} {items : List α} {cause : ε} :
    items.mapM f = .error cause ↔ ∃ before item after, items = before ++ item :: after ∧
      (∀ earlier ∈ before, ∃ result, f earlier = .ok result) ∧ f item = .error cause := by
  have decides (item : α) : (!(f item).isOk) = false ↔ ∃ result, f item = .ok result := by
    cases f item <;> simp [isOk, Except.toBool]
  constructor
  · intro failed
    obtain ⟨item, first, failed⟩ := (mapM_eq_error_iff decides).mp failed
    obtain ⟨_, before, after, split, passed⟩ := List.find?_eq_some_iff_append.mp first
    exact ⟨before, item, after, split, fun earlier member => (decides earlier).mp (by simpa using passed earlier member),
      failed⟩
  · rintro ⟨before, item, after, rfl, known, failed⟩
    exact mapM_eq_error known failed

end Except
