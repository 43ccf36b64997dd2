import ItemQuery.Proofs.Clause.Tidy
import ItemQuery.Proofs.Modifiers
import Mathlib.Tactic.IntervalCases

/-! The clauses of a query are those that its settings ask for.

A fragment is the only text in a query that is not fixed, and it has no double quote. So each
clause can be told from the ones around it, but for the empty one of an empty fragment.
-/

set_option autoImplicit false

namespace ItemQuery

namespace Pattern

theorem digit_ne_quote (n : Nat) : digit n ≠ '"' := by
  rcases Nat.lt_or_ge n 16 with few | many
  · interval_cases n <;> decide
  · rw [digit, Nat.digitChar_eq_star.mpr many]
    decide

theorem quote_not_mem_classFrom (low : Nat) : '"' ∉ classFrom low := by
  have other := (digit_ne_quote low).symm
  simp [classFrom, other]

theorem quote_not_mem_hundreds (threshold : Nat) : '"' ∉ hundreds threshold := by
  simp only [hundreds]
  split_ifs
  all_goals simp [quote_not_mem_classFrom]

theorem quote_not_mem_tens (threshold : Nat) : '"' ∉ tens threshold := by
  have other := (digit_ne_quote (threshold / 10)).symm
  simp only [tens]
  split_ifs
  all_goals simp [quote_not_mem_classFrom, other]

theorem quote_not_mem_atLeast (threshold : Nat) : '"' ∉ atLeast threshold := by
  unfold atLeast
  split_ifs
  all_goals simp [quote_not_mem_hundreds, quote_not_mem_tens, quote_not_mem_classFrom]

end Pattern

namespace Clause

/-! What the settings ask for, written out clause by clause. -/

/-- The fragments with bars between them. -/
def barred (fragments : List String) : List Char := List.intercalate ['|'] (fragments.map String.toList)

/-- A fragment that is asked for on its own. -/
def askedAlone (fragment : String) : List Clause :=
  if fragment = "" then []
  else if fragment.toList.any Text.isBlank then [quoted fragment.toList]
  else [bare fragment.toList]

def askedNumber (lead : String) (minimum : Minimum) : List Clause :=
  if minimum.pattern = [] then [] else [quoted (lead.toList ++ minimum.pattern ++ "%".toList)]

def askedRarities (filter : RarityFilter) : List Clause :=
  let sign := if filter.allow then "y: " else "!y: "
  let among (codes : String) : List Clause := [quoted (sign.toList ++ codes.toList)]
  match filter.normal, filter.magic, filter.rare with
  | false, false, false => []
  | true, false, false => among "n"
  | false, true, false => among "m"
  | false, false, true => among "r"
  | true, true, false => among "(n|m)"
  | true, false, true => among "(n|r)"
  | false, true, true => among "(m|r)"
  | true, true, true => if filter.allow then [] else among "(n|m|r)"

/-- The clauses that the settings ask for, given the fragments of the modifiers in them. -/
def asked (settings : Settings) (avoided wanted added : List String) : List Clause :=
  (if avoided = [] then [] else [quoted ('!' :: barred avoided)]) ++
    (if wanted = [] then []
      else if settings.allGoodMods then wanted.flatMap askedAlone
      else [quoted (barred wanted)]) ++
    askedNumber "m q.*" settings.quantity ++ askedNumber "iz.*" settings.packSize ++
    askedRarities settings.rarity ++
    (if added = [] then [] else [quoted ("(".toList ++ barred added ++ ").*ici".toList)])

theorem alternatives_eq (fragments : List String) : alternatives fragments = barred fragments :=
  Text.join_eq_intercalate _

theorem exclusion_eq (fragments : List String) :
    exclusion fragments = if fragments = [] then [] else [quoted ('!' :: barred fragments)] := by
  simp only [exclusion, List.isEmpty_iff, alternatives_eq]

theorem atLeast_eq (lead : String) (minimum : Minimum) : atLeast lead.toList minimum = askedNumber lead minimum := by
  simp only [atLeast, askedNumber, List.isEmpty_iff]
  rfl

theorem rarity_eq (filter : RarityFilter) : rarity filter = askedRarities filter := by
  have table : ∀ normal magic rare allow : Bool,
      rarity ⟨normal, magic, rare, allow⟩ = askedRarities ⟨normal, magic, rare, allow⟩ := by decide
  exact table _ _ _ _

theorem bonus_eq (fragments : List String) : Clause.bonus fragments =
    if fragments = [] then [] else [quoted ("(".toList ++ barred fragments ++ ").*ici".toList)] := by
  simp only [Clause.bonus, List.isEmpty_iff, alternatives_eq]
  rfl

/-- An empty fragment leaves no clause. -/
theorem filter_ofFragment (fragment : String) :
    [ofFragment fragment].filter (· ≠ bare []) = askedAlone fragment := by
  unfold ofFragment askedAlone
  simp only [← String.toList_eq_nil_iff]
  by_cases empty : fragment.toList = []
  · simp [empty]
  · cases fragment.toList.any Text.isBlank <;> simp [empty]

theorem filter_map_ofFragment (fragments : List String) :
    (fragments.map ofFragment).filter (· ≠ bare []) = fragments.flatMap askedAlone := by
  induction fragments with
  | nil => rfl
  | cons fragment rest ih =>
    rw [List.map_cons, ← List.singleton_append, List.filter_append, filter_ofFragment, ih, List.flatMap_cons]

theorem filter_inclusion (all : Bool) (fragments : List String) :
    (inclusion all fragments).filter (· ≠ bare []) =
      if fragments = [] then [] else if all then fragments.flatMap askedAlone
      else [quoted (barred fragments)] := by
  unfold inclusion
  simp only [List.isEmpty_iff, alternatives_eq]
  split_ifs
  · rfl
  · exact filter_map_ofFragment fragments
  · rfl

theorem quote_not_mem_alternatives {fragments : List String}
    (clear : ∀ fragment ∈ fragments, '"' ∉ fragment.toList) : '"' ∉ alternatives fragments := by
  intro found
  rcases Text.mem_join found with same | ⟨part, listed, inside⟩
  · cases same
  · obtain ⟨fragment, member, rfl⟩ := List.mem_map.mp listed
    exact clear fragment member inside

theorem wellFormed_exclusion {fragments : List String} (clear : ∀ fragment ∈ fragments, '"' ∉ fragment.toList) :
    ∀ clause ∈ exclusion fragments, clause.WellFormed := by
  unfold exclusion
  split_ifs
  · exact List.forall_mem_nil _
  · exact List.forall_mem_singleton.mpr (by simp [WellFormed, quote_not_mem_alternatives clear])

theorem wellFormed_ofFragment {fragment : String} (clear : '"' ∉ fragment.toList) :
    (ofFragment fragment).WellFormed ∨ ofFragment fragment = bare [] := by
  unfold ofFragment
  split_ifs with blank
  · exact Or.inl clear
  · by_cases empty : fragment.toList = []
    · exact Or.inr (congrArg bare empty)
    · refine Or.inl ⟨empty, fun c inside => ⟨?_, fun same => clear (same ▸ inside)⟩⟩
      simp only [List.any_eq_true, not_exists, not_and] at blank
      exact Bool.eq_false_iff.mpr (blank c inside)

theorem wellFormed_inclusion {fragments : List String} (clear : ∀ fragment ∈ fragments, '"' ∉ fragment.toList)
    (all : Bool) : ∀ clause ∈ inclusion all fragments, clause.WellFormed ∨ clause = bare [] := by
  unfold inclusion
  split_ifs
  · exact List.forall_mem_nil _
  · exact List.forall_mem_map.mpr fun fragment listed => wellFormed_ofFragment (clear fragment listed)
  · exact List.forall_mem_singleton.mpr (Or.inl (quote_not_mem_alternatives clear))

theorem wellFormed_bonus {fragments : List String} (clear : ∀ fragment ∈ fragments, '"' ∉ fragment.toList) :
    ∀ clause ∈ Clause.bonus fragments, clause.WellFormed := by
  unfold Clause.bonus
  split_ifs
  · exact List.forall_mem_nil _
  · exact List.forall_mem_singleton.mpr (by simp [WellFormed, quote_not_mem_alternatives clear])

theorem wellFormed_atLeast {lead : List Char} (clear : '"' ∉ lead) (minimum : Minimum) :
    ∀ clause ∈ atLeast lead minimum, clause.WellFormed := by
  unfold atLeast
  split_ifs
  · exact List.forall_mem_nil _
  · exact List.forall_mem_singleton.mpr (by simp [WellFormed, clear, Minimum.pattern, Pattern.quote_not_mem_atLeast])

theorem wellFormed_rarity (filter : RarityFilter) : ∀ clause ∈ rarity filter, clause.WellFormed := by
  have table : ∀ normal magic rare allow : Bool, ∀ clause ∈ rarity ⟨normal, magic, rare, allow⟩,
      clause.WellFormed := by decide
  exact table _ _ _ _

theorem filter_of_wellFormed {group : List Clause} (formed : ∀ clause ∈ group, clause.WellFormed) :
    group.filter (· ≠ bare []) = group := by
  refine List.filter_eq_self.mpr fun clause listed => decide_eq_true ?_
  rintro rfl
  exact (formed _ listed).1 rfl

/-- The groups of a query, given the fragments of the modifiers in its settings. -/
def groupsOf (settings : Settings) (avoided wanted added : List String) : List (List Clause) :=
  [exclusion avoided, inclusion settings.allGoodMods wanted, atLeast quantityLead settings.quantity,
    atLeast packSizeLead settings.packSize, rarity settings.rarity, Clause.bonus added]

section Groups

variable (settings : Settings) {avoided wanted added : List String}
  (clearAvoided : ∀ fragment ∈ avoided, '"' ∉ fragment.toList)
  (clearWanted : ∀ fragment ∈ wanted, '"' ∉ fragment.toList)
  (clearAdded : ∀ fragment ∈ added, '"' ∉ fragment.toList)

include clearAvoided clearAdded

theorem filter_groupsOf :
    (groupsOf settings avoided wanted added).flatten.filter (· ≠ bare []) = asked settings avoided wanted added := by
  have quantity := wellFormed_atLeast (show '"' ∉ quantityLead by decide) settings.quantity
  have packSize := wellFormed_atLeast (show '"' ∉ packSizeLead by decide) settings.packSize
  simp only [groupsOf, List.flatten_cons, List.flatten_nil, List.append_nil, List.filter_append,
    filter_of_wellFormed (wellFormed_exclusion clearAvoided), filter_inclusion, filter_of_wellFormed quantity,
    filter_of_wellFormed packSize, filter_of_wellFormed (wellFormed_rarity settings.rarity),
    filter_of_wellFormed (wellFormed_bonus clearAdded)]
  rw [exclusion_eq, show quantityLead = "m q.*".toList from rfl, show packSizeLead = "iz.*".toList from rfl,
    atLeast_eq, atLeast_eq, rarity_eq, bonus_eq]
  simp only [asked, List.append_assoc]

include clearWanted

theorem wellFormed_groupsOf :
    ∀ clause ∈ (groupsOf settings avoided wanted added).flatten, clause.WellFormed ∨ clause = bare [] := by
  intro clause member
  obtain ⟨group, member, listed⟩ := List.mem_flatten.mp member
  simp only [groupsOf, List.mem_cons, List.not_mem_nil, or_false] at member
  rcases member with rfl | rfl | rfl | rfl | rfl | rfl
  · exact Or.inl (wellFormed_exclusion clearAvoided clause listed)
  · exact wellFormed_inclusion clearWanted settings.allGoodMods clause listed
  · exact Or.inl (wellFormed_atLeast (by decide) settings.quantity clause listed)
  · exact Or.inl (wellFormed_atLeast (by decide) settings.packSize clause listed)
  · exact Or.inl (wellFormed_rarity settings.rarity clause listed)
  · exact Or.inl (wellFormed_bonus clearAdded clause listed)

end Groups

end Clause

namespace MapModifiers

open Clause

variable {modifiers : MapModifiers} {settings : Settings}

theorem groups_eq_ok_iff {groups : List (List Clause)} :
    modifiers.groups settings = .ok groups ↔ ∃ avoided wanted added,
      fragments modifiers.map.fragment settings.badMods = .ok avoided ∧
      fragments modifiers.map.fragment settings.goodMods = .ok wanted ∧
      fragments modifiers.bonus.fragment settings.bonusMods = .ok added ∧
      groups = groupsOf settings avoided wanted added := by
  constructor
  · intro done
    obtain ⟨avoided, foundAvoided, done⟩ := Except.bind_eq_ok_iff.mp done
    obtain ⟨wanted, foundWanted, done⟩ := Except.bind_eq_ok_iff.mp done
    obtain ⟨added, foundAdded, same⟩ := Except.bind_eq_ok_iff.mp done
    obtain ⟨avoidedFragments, avoids, rfl⟩ := Except.map_eq_ok_iff.mp foundAvoided
    obtain ⟨wantedFragments, wants, rfl⟩ := Except.map_eq_ok_iff.mp foundWanted
    obtain ⟨addedFragments, adds, rfl⟩ := Except.map_eq_ok_iff.mp foundAdded
    exact ⟨avoidedFragments, wantedFragments, addedFragments, avoids, wants, adds, (Except.ok.inj same).symm⟩
  · rintro ⟨avoided, wanted, added, avoids, wants, adds, rfl⟩
    rw [groups, exclusion, inclusion, bonusClause, avoids, wants, adds]
    rfl

/-- The finished query is the row of clauses that were asked for, each tidied on its own, and is read back as it. -/
theorem query_segments (map : modifiers.map.Built) (bonus : modifiers.bonus.Built) {output : String}
    (done : modifiers.query settings = .ok output) :
    ∃ avoided wanted added,
      fragments modifiers.map.fragment settings.badMods = .ok avoided ∧
      fragments modifiers.map.fragment settings.goodMods = .ok wanted ∧
      fragments modifiers.bonus.fragment settings.bonusMods = .ok added ∧
      output.toList = groupText ((asked settings avoided wanted added).map tidy) ∧
      (∀ clause ∈ (asked settings avoided wanted added).map tidy, clause.WellFormed) ∧
      split output.toList = some ((asked settings avoided wanted added).map tidy) := by
  obtain ⟨groups, made, rfl⟩ := Except.map_eq_ok_iff.mp done
  obtain ⟨avoided, wanted, added, avoids, wants, adds, rfl⟩ := groups_eq_ok_iff.mp made
  -- Quotes are taken out of a fragment when its modifier is made.
  have clear {source : Modifiers} (built : source.Built) {keys found : List String}
      (looked : fragments source.fragment keys = .ok found) : ∀ fragment ∈ found, '"' ∉ fragment.toList := by
    intro fragment listed
    obtain ⟨key, _, known⟩ := Except.exists_of_mapM_eq_ok looked listed
    exact built.quote_not_mem known
  have clauses := wellFormed_groupsOf settings (clear map avoids) (clear map wants) (clear bonus adds)
  have kept : (groupsOf settings avoided wanted added).flatten.filter (· ≠ bare []) =
      asked settings avoided wanted added := filter_groupsOf settings (clear map avoids) (clear bonus adds)
  have text : (String.ofList (assemble (groupsOf settings avoided wanted added))).toList =
      groupText ((asked settings avoided wanted added).map tidy) := by
    rw [String.toList_ofList, assemble_eq clauses, kept]
  have formed : ∀ clause ∈ (asked settings avoided wanted added).map tidy, clause.WellFormed := by
    rw [List.forall_mem_map]
    intro clause listed
    rw [← kept, List.mem_filter] at listed
    exact ((clauses clause listed.1).resolve_right (of_decide_eq_true listed.2)).tidy
  refine ⟨avoided, wanted, added, avoids, wants, adds, text, formed, ?_⟩
  exact split_eq_some_iff.mpr ⟨formed, text⟩

section Blanks

/-- Blanks at the ends of a fragment and inside it, an empty fragment, one with quotes and one with a class. -/
def untidy : MapModifiers where
  map := .ofPairs [("Vines", "  a "), ("Fog", ""), ("Thorns", "\"8\""), ("Dust", "[8-9]b")]
  bonus := .ofPairs [("Scarabs", "sc  ar"), ("Maps", "mo")]

def careful : Settings where
  badMods := ["Vines", "Thorns"]
  goodMods := ["Fog", "Vines", "Fog", "Dust"]
  allGoodMods := true
  quantity := { digits := "80" }
  packSize := { digits := "25", relax := true }
  rarity := { rare := false, allow := false }
  bonusMods := ["Maps", "Scarabs"]

theorem query_segments_of_blanks : ∃ output, untidy.query careful = .ok output ∧
    output =
      "\"! a |8\" \" a \" [89]b \"m q.*([89].|1..)%\" \"iz.*([2-9].|1..)%\" \"!y: (n|m)\" \"(mo|sc ar).*ici\"" ∧
    split output.toList =
      some [quoted "! a |8".toList, quoted " a ".toList, bare "[89]b".toList, quoted "m q.*([89].|1..)%".toList,
        quoted "iz.*([2-9].|1..)%".toList, quoted "!y: (n|m)".toList, quoted "(mo|sc ar).*ici".toList] := by
  have done : untidy.query careful = .ok
      "\"! a |8\" \" a \" [89]b \"m q.*([89].|1..)%\" \"iz.*([2-9].|1..)%\" \"!y: (n|m)\" \"(mo|sc ar).*ici\"" := rfl
  obtain ⟨avoided, wanted, added, avoids, wants, adds, -, -, reads⟩ := query_segments (.ofPairs _) (.ofPairs _) done
  cases (show Except.ok ["  a ", "8"] = Except.ok avoided from avoids)
  cases (show Except.ok ["", "  a ", "", "[8-9]b"] = Except.ok wanted from wants)
  cases (show Except.ok ["mo", "sc  ar"] = Except.ok added from adds)
  exact ⟨_, done, rfl, reads⟩

end Blanks

end MapModifiers

end ItemQuery
