import ItemQuery.Proofs.Offers

/-! Names resolved against a pool.

A name stands for the first entry that the pool has of it, and a repeated name adds nothing.
The first name that the pool has no entry of is reported, whatever was found before it. In the
pool of a feed the first entry of a name is its dearest one, the earliest in the feed of these.
-/

set_option autoImplicit false

namespace ItemQuery.Selection

variable {pool : List Entry} {names : List String} {name : String} {selection : Selection} {entry : Entry}
  {cause : QueryError}

/-- The selection has each of the names once, in the order in which they are first met, and for each of them the first
entry of the pool. -/
structure Resolves (pool : List Entry) (names : List String) (selection : Selection) : Prop where
  names : selection.names = names.eraseDups
  earliest : ∀ entry ∈ selection.entries, Entry.IsEarliest entry.name pool entry

theorem ofNames_concat (pool : List Entry) (names : List String) (name : String) :
    ofNames pool (names ++ [name]) = ofNames pool names >>= fun selection =>
      match Entry.named? name pool with
      | some entry => .ok (selection.insert entry).2
      | none => .error (.unknownEntry name) := by
  rw [ofNames, List.foldlM_append]
  simp only [List.foldlM_cons, List.foldlM_nil, bind_pure]
  rfl

theorem names_insert (selection : Selection) (new : Entry) : (selection.insert new).2.names =
    if new.name ∈ selection.names then selection.names else selection.names ++ [new.name] := by
  unfold insert
  by_cases known : new.name ∈ selection.names
  · rw [if_pos (contains_iff.mpr known), if_pos known]
  · rw [if_neg (mt contains_iff.mp known), if_neg known]
    simp [Selection.names]

theorem Resolves.insert (resolves : Resolves pool names selection) (found : Entry.named? name pool = some entry) :
    Resolves pool (names ++ [name]) (selection.insert entry).2 where
  names := by
    rw [names_insert, Entry.name_of_named? found, resolves.names]
    by_cases met : name ∈ names
    · rw [if_pos (List.mem_eraseDups.mpr met), List.eraseDups_concat_of_mem met]
    · rw [if_neg (mt List.mem_eraseDups.mp met), List.eraseDups_concat_of_not_mem met]
  earliest := by
    intro other member
    rcases mem_insert member with rfl | member
    · rw [Entry.name_of_named? found]
      exact Entry.named?_eq_some_iff.mp found
    · exact resolves.earliest other member

def firstAbsent? (pool : List Entry) (names : List String) : Option String :=
  names.find? fun name => (Entry.named? name pool).isNone

theorem isNone_named?_iff : (Entry.named? name pool).isNone ↔ ∀ entry ∈ pool, entry.name ≠ name := by
  rw [Option.isNone_iff_eq_none, Entry.named?_eq_none_iff]

theorem not_isNone_named?_iff : (!(Entry.named? name pool).isNone) = true ↔ ∃ entry ∈ pool, entry.name = name := by
  rw [Bool.not_eq_true', ← Bool.not_eq_true, isNone_named?_iff]
  simp only [not_forall, ne_eq, not_not, exists_prop]

theorem firstAbsent?_eq_some_iff : firstAbsent? pool names = some name ↔
    ∃ before after, names = before ++ name :: after ∧ (∀ earlier ∈ before, ∃ entry ∈ pool, entry.name = earlier) ∧
      ∀ entry ∈ pool, entry.name ≠ name := by
  rw [firstAbsent?, List.find?_eq_some_iff_append]
  simp only [isNone_named?_iff, not_isNone_named?_iff]
  constructor
  · rintro ⟨absent, before, after, split, met⟩
    exact ⟨before, after, split, met, absent⟩
  · rintro ⟨before, after, split, met, absent⟩
    exact ⟨absent, before, after, split, met⟩

theorem exists_firstAbsent?_iff :
    (∃ name, firstAbsent? pool names = some name) ↔ ∃ name ∈ names, ∀ entry ∈ pool, entry.name ≠ name := by
  rw [← Option.isSome_iff_exists, firstAbsent?, List.find?_isSome]
  simp only [isNone_named?_iff]

/-- All names are resolved, or the first absent one is reported. -/
theorem ofNames_cases (pool : List Entry) (names : List String) :
    (firstAbsent? pool names = none ∧ ∃ selection, ofNames pool names = .ok selection ∧ Resolves pool names selection) ∨
    ∃ name, firstAbsent? pool names = some name ∧ ofNames pool names = .error (.unknownEntry name) := by
  unfold firstAbsent?
  induction names using List.reverseRecOn with
  | nil => exact .inl ⟨rfl, {}, rfl, rfl, nofun⟩
  | append_singleton names name ih =>
    rw [ofNames_concat, List.find?_append]
    obtain ⟨none, selection, resolved, resolves⟩ | ⟨absent, first, refused⟩ := ih
    · rw [Except.bind_eq_of_ok resolved, none, Option.none_or]
      cases found : Entry.named? name pool with
      | some entry => exact .inl ⟨by simp [found], _, rfl, resolves.insert found⟩
      | none => exact .inr ⟨name, by simp [found], rfl⟩
    · rw [Except.bind_eq_error_of_error refused, first, Option.some_or]
      exact .inr ⟨absent, rfl, rfl⟩

theorem ofNames_eq_error_iff : ofNames pool names = .error cause ↔
    ∃ name, firstAbsent? pool names = some name ∧ cause = .unknownEntry name := by
  obtain ⟨none, selection, resolved, -⟩ | ⟨name, first, refused⟩ := ofNames_cases pool names
  · rw [none, resolved]
    exact ⟨nofun, nofun⟩
  · rw [first, refused]
    simp [eq_comm]

theorem resolves_of_ofNames (resolved : ofNames pool names = .ok selection) : Resolves pool names selection := by
  obtain ⟨-, found, same, resolves⟩ | ⟨name, -, refused⟩ := ofNames_cases pool names
  · exact Except.ok.inj (same.symm.trans resolved) ▸ resolves
  · cases refused.symm.trans resolved

theorem Resolves.unique {other : Selection} (resolves : Resolves pool names selection)
    (again : Resolves pool names other) : selection = other := by
  have determined {selection : Selection} (resolves : Resolves pool names selection) :
      selection.entries = names.eraseDups.filterMap (Entry.named? · pool) := by
    have found : ∀ entry ∈ selection.entries, Entry.named? entry.name pool = some entry := fun entry member =>
      Entry.named?_eq_some_iff.mpr (resolves.earliest entry member)
    rw [← resolves.names, Selection.names, List.filterMap_map]
    exact ((List.filterMap_congr found).trans (List.filterMap_some)).symm
  cases selection
  cases other
  exact congrArg Selection.mk ((determined resolves).trans (determined again).symm)

theorem Resolves.self (resolves : Resolves pool names selection) : Resolves pool selection.names selection where
  names := by rw [resolves.names, List.eraseDups_eq_self (List.nodup_eraseDups names)]
  earliest := resolves.earliest

/-- The names of a resolved selection are all in the pool, so they are resolved again, to the same entries. -/
theorem ofNames_names (resolved : ofNames pool names = .ok selection) :
    ofNames pool selection.names = .ok selection := by
  have resolves := resolves_of_ofNames resolved
  obtain ⟨-, other, again, resolvesOther⟩ | ⟨absent, first, -⟩ := ofNames_cases pool selection.names
  · rw [again, resolvesOther.unique resolves.self]
  · obtain ⟨name, member, missing⟩ := exists_firstAbsent?_iff.mp ⟨absent, first⟩
    obtain ⟨entry, entryMember, rfl⟩ := List.mem_map.mp member
    exact absurd rfl (missing entry (mem_ofNames resolved entry entryMember))

theorem exists_ofNames (known : ∀ name ∈ names, ∃ entry ∈ pool, entry.name = name) :
    ∃ selection, ofNames pool names = .ok selection ∧ Resolves pool names selection := by
  obtain ⟨-, found⟩ | ⟨absent, first, -⟩ := ofNames_cases pool names
  · exact found
  · obtain ⟨name, member, missing⟩ := exists_firstAbsent?_iff.mp ⟨absent, first⟩
    obtain ⟨entry, entryMember, same⟩ := known name member
    exact absurd same (missing entry entryMember)

/-- Names are refused exactly when one of them is not in the pool, and the first such name is reported. Otherwise each
name is selected once, as its first entry in the pool, and resolving the names of the selection gives it again. In the
pool of a feed this is the dearest offer of the name, and of several the earliest. -/
theorem ofNames_resolution (pool : List Entry) (names : List String) :
    ((∃ cause, ofNames pool names = .error cause) ↔ ∃ name ∈ names, ∀ entry ∈ pool, entry.name ≠ name) ∧
    (∀ cause, ofNames pool names = .error cause ↔
      ∃ before name after, names = before ++ name :: after ∧ (∀ earlier ∈ before, ∃ entry ∈ pool, entry.name = earlier) ∧
        (∀ entry ∈ pool, entry.name ≠ name) ∧ cause = .unknownEntry name) ∧
    ((∀ name ∈ names, ∃ entry ∈ pool, entry.name = name) →
      ∃ selection, ofNames pool names = .ok selection ∧ selection.names = names.eraseDups ∧
        (∀ entry ∈ selection.entries, Entry.IsEarliest entry.name pool entry) ∧
        ofNames pool selection.names = .ok selection) ∧
    ∀ (catalog : Catalog) (feed : Feed), pool = feed.obtainable catalog →
      ∀ selection, ofNames pool names = .ok selection → ∀ entry ∈ selection.entries,
        Entry.IsDearest (feed.offers catalog entry.name) entry := by
  refine ⟨?_, fun cause => ?_, fun known => ?_, ?_⟩
  · rw [← exists_firstAbsent?_iff]
    constructor
    · rintro ⟨cause, refused⟩
      obtain ⟨name, first, -⟩ := ofNames_eq_error_iff.mp refused
      exact ⟨name, first⟩
    · rintro ⟨name, first⟩
      exact ⟨_, ofNames_eq_error_iff.mpr ⟨name, first, rfl⟩⟩
  · rw [ofNames_eq_error_iff]
    simp only [firstAbsent?_eq_some_iff]
    constructor
    · rintro ⟨name, ⟨before, after, split, met, absent⟩, rfl⟩
      exact ⟨before, name, after, split, met, absent, rfl⟩
    · rintro ⟨before, name, after, split, met, absent, rfl⟩
      exact ⟨name, ⟨before, after, split, met, absent⟩, rfl⟩
  · obtain ⟨selection, resolved, resolves⟩ := exists_ofNames known
    exact ⟨selection, resolved, resolves.names, resolves.earliest, ofNames_names resolved⟩
  · rintro catalog feed rfl selection resolved entry member
    have found := Entry.named?_eq_some_iff.mpr ((resolves_of_ofNames resolved).earliest entry member)
    exact Entry.isFirst_iff.mp (Feed.isFirst_dearest found)

section Bands

open Feed

def earlyBand : Entry := { bandAt ⟨0x4072C00000000000⟩ with icon := "early" }

/-- Two of the three bands cost the same. -/
def bandFeed : Feed :=
  ⟨[bandAt ⟨0x4069000000000000⟩, earlyBand, { bandAt ⟨0x4072C00000000000⟩ with icon := "late" }]⟩

/-- Names that the pool lacks behind a repeated one, and the repeated one alone. -/
theorem ofNames_resolution_bands :
    ofNames (bandFeed.obtainable ring) ["Band", "Band", "Sash", "Cap"] = .error (.unknownEntry "Sash") ∧
    ofNames (bandFeed.obtainable ring) ["Band", "Band"] = .ok ⟨[earlyBand]⟩ ∧
    ofNames (bandFeed.obtainable ring) ["Band"] = .ok ⟨[earlyBand]⟩ ∧
    bandFeed.offers ring "Band" = bandFeed.entries ∧ Entry.IsDearest bandFeed.entries earlyBand := by
  obtain ⟨-, refused, -⟩ := ofNames_resolution (bandFeed.obtainable ring) ["Band", "Band", "Sash", "Cap"]
  obtain ⟨-, -, found, dearest⟩ := ofNames_resolution (bandFeed.obtainable ring) ["Band", "Band"]
  have resolved : ofNames (bandFeed.obtainable ring) ["Band", "Band"] = .ok ⟨[earlyBand]⟩ := rfl
  obtain ⟨selection, same, -, -, again⟩ := found (by decide)
  obtain rfl : selection = ⟨[earlyBand]⟩ := Except.ok.inj (same.symm.trans resolved)
  have offers : bandFeed.offers ring "Band" = bandFeed.entries := rfl
  have early := dearest ring bandFeed rfl _ resolved earlyBand List.mem_cons_self
  exact ⟨(refused _).mpr ⟨["Band", "Band"], "Sash", ["Cap"], rfl, by decide, by decide, rfl⟩, resolved, again, offers,
    offers ▸ early⟩

end Bands

end ItemQuery.Selection
