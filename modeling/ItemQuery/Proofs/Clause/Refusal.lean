import ItemQuery.Clause
import ItemQuery.Proofs.Modifiers

/-! When a map query is refused: for a modifier that its own catalog lacks, and for nothing else.

Bonus modifiers are looked up among the bonus modifiers, all others among those of maps.
The first one that is absent is reported, those to avoid before those to look for and
these before the bonus ones.
-/

set_option autoImplicit false

namespace ItemQuery.MapModifiers

variable {modifiers : MapModifiers} {settings : Settings} {cause : CatalogError}

/-- The fragments of all keys are found, or the first absent key is reported. -/
theorem fragments_cases (source : Modifiers) (keys : List String) :
    (keys.find? (· ∉ source.keys) = none ∧ ∃ found, fragments source.fragment keys = .ok found) ∨
    ∃ key, keys.find? (· ∉ source.keys) = some key ∧
      fragments source.fragment keys = .error (.unknownModifier key) := by
  cases first : keys.find? (· ∉ source.keys) with
  | none =>
    have known : ∀ key ∈ keys, source.fragment.Knows key := fun key listed => by
      simpa [Modifiers.knows_fragment_iff] using List.find?_eq_none.mp first key listed
    exact Or.inl ⟨rfl, Except.exists_mapM_eq_ok known⟩
  | some key =>
    have absent : key ∉ source.keys := by simpa using List.find?_some first
    have unknown : keys.find? (¬source.fragment.Knows ·) = some key := by
      simpa only [Modifiers.knows_fragment_iff] using first
    exact Or.inr ⟨key, rfl, FragmentSource.mapM_eq_error_iff.mpr ⟨key, unknown, Modifiers.fragment_of_absent absent⟩⟩

/-- The first key that is absent from the catalog it is looked up in. -/
def firstAbsent? (modifiers : MapModifiers) (settings : Settings) : Option String :=
  ((settings.badMods.find? (· ∉ modifiers.map.keys)).or (settings.goodMods.find? (· ∉ modifiers.map.keys))).or
    (settings.bonusMods.find? (· ∉ modifiers.bonus.keys))

theorem isSome_firstAbsent?_iff : (modifiers.firstAbsent? settings).isSome ↔
    (∃ key ∈ settings.badMods ++ settings.goodMods, key ∉ modifiers.map.keys) ∨
      ∃ key ∈ settings.bonusMods, key ∉ modifiers.bonus.keys := by
  rw [firstAbsent?, ← List.find?_append, Option.isSome_or, Bool.or_eq_true, List.find?_isSome, List.find?_isSome]
  simp only [decide_eq_true_eq]

/-- The groups are looked up one after the other, and the first failure is that of the whole. -/
theorem groups_of_firstAbsent?_eq_some {key : String} (first : modifiers.firstAbsent? settings = some key) :
    modifiers.groups settings = .error (.unknownModifier key) := by
  rw [groups, exclusion, inclusion, bonusClause]
  rw [firstAbsent?] at first
  -- As long as one list has no absent key, the next one decides.
  obtain ⟨none, avoided, found⟩ | ⟨absent, met, failed⟩ := fragments_cases modifiers.map settings.badMods
  · rw [none, Option.none_or] at first
    rw [found]
    obtain ⟨none, wanted, found⟩ | ⟨absent, met, failed⟩ := fragments_cases modifiers.map settings.goodMods
    · rw [none, Option.none_or] at first
      rw [found]
      obtain ⟨none, -⟩ | ⟨absent, met, failed⟩ := fragments_cases modifiers.bonus settings.bonusMods
      · rw [none] at first
        cases first
      · cases met.symm.trans first
        rw [failed]
        rfl
    · rw [met, Option.some_or] at first
      cases first
      rw [failed]
      rfl
  · rw [met, Option.some_or, Option.some_or] at first
    cases first
    rw [failed]
    rfl

theorem exists_groups_of_firstAbsent?_eq_none (none : modifiers.firstAbsent? settings = none) :
    ∃ groups, modifiers.groups settings = .ok groups := by
  rw [firstAbsent?, Option.or_eq_none_iff, Option.or_eq_none_iff] at none
  obtain ⟨⟨noneAvoided, noneWanted⟩, noneAdded⟩ := none
  obtain ⟨-, avoided, foundAvoided⟩ | ⟨_, met, -⟩ := fragments_cases modifiers.map settings.badMods
  · obtain ⟨-, wanted, foundWanted⟩ | ⟨_, met, -⟩ := fragments_cases modifiers.map settings.goodMods
    · obtain ⟨-, added, foundAdded⟩ | ⟨_, met, -⟩ := fragments_cases modifiers.bonus settings.bonusMods
      · rw [groups, exclusion, inclusion, bonusClause, foundAvoided, foundWanted, foundAdded]
        exact ⟨_, rfl⟩
      · cases met.symm.trans noneAdded
    · cases met.symm.trans noneWanted
  · cases met.symm.trans noneAvoided

theorem query_eq_error_iff : modifiers.query settings = .error cause ↔
    ∃ key, modifiers.firstAbsent? settings = some key ∧ cause = .unknownModifier key := by
  rw [query, Except.map_eq_error_iff]
  cases first : modifiers.firstAbsent? settings with
  | none =>
    obtain ⟨groups, made⟩ := exists_groups_of_firstAbsent?_eq_none first
    rw [made]
    exact ⟨nofun, nofun⟩
  | some key =>
    rw [groups_of_firstAbsent?_eq_some first]
    simp [eq_comm]

/-- A query is refused exactly when a key is absent from its own catalog, and names the first such key.
Neither the other catalog nor any other setting has a say in it. -/
theorem query_refused_iff (modifiers : MapModifiers) (settings : Settings) :
    ((∃ cause, modifiers.query settings = .error cause) ↔
      (∃ key ∈ settings.badMods ++ settings.goodMods, key ∉ modifiers.map.keys) ∨
        ∃ key ∈ settings.bonusMods, key ∉ modifiers.bonus.keys) ∧
    (∀ cause, modifiers.query settings = .error cause ↔
      ∃ key, modifiers.firstAbsent? settings = some key ∧ cause = .unknownModifier key) ∧
    ∀ (quantity packSize : Minimum) (rarity : RarityFilter) (all : Bool) (cause : CatalogError),
      modifiers.query
          { settings with quantity := quantity, packSize := packSize, rarity := rarity, allGoodMods := all } =
        .error cause ↔ modifiers.query settings = .error cause := by
  refine ⟨?_, fun cause => query_eq_error_iff, fun quantity packSize rarity all cause => ?_⟩
  · rw [← isSome_firstAbsent?_iff, Option.isSome_iff_exists]
    constructor
    · rintro ⟨cause, refused⟩
      obtain ⟨key, first, -⟩ := query_eq_error_iff.mp refused
      exact ⟨key, first⟩
    · rintro ⟨key, first⟩
      exact ⟨_, query_eq_error_iff.mpr ⟨key, first, rfl⟩⟩
  · rw [query_eq_error_iff, query_eq_error_iff]
    rfl

example : query ⟨.ofPairs [("Vines", "a")], .ofPairs [("Fog", "b")]⟩
    { goodMods := ["Vines", "Fog"], bonusMods := ["Vines"] } = .error (.unknownModifier "Fog") := by rfl

end ItemQuery.MapModifiers
