import ItemQuery.Proofs.Pattern.Shorten
import Mathlib.Data.List.Infix

/-! Where brackets are not nested, shortening leaves nothing to shorten.

Such a text is made of classes and of what stands outside them, and a class is shortened on
its own. With nested brackets the digit that takes the place of one class can complete
another one.
-/

set_option autoImplicit false

namespace ItemQuery.Pattern

/-- A bracket that is open in front of the text is closed before the next one opens. -/
def Closes (text : List Char) : Prop := ∀ inner, inner ++ ['['] <+: text → ']' ∈ inner

/-- Between any two opening brackets one is closed. -/
def Flat (text : List Char) : Prop := ∀ inner, '[' :: (inner ++ ['[']) <:+: text → ']' ∈ inner

theorem closes_nil : Closes [] := by
  intro inner front
  exact absurd (List.prefix_nil.mp front) (by simp)

theorem closes_cons {c : Char} {rest : List Char} : Closes (c :: rest) ↔ c ≠ '[' ∧ (c = ']' ∨ Closes rest) := by
  constructor
  · intro closes
    refine ⟨?_, ?_⟩
    · rintro rfl
      exact absurd (closes [] (List.prefix_append ['['] rest)) List.not_mem_nil
    · by_cases closing : c = ']'
      · exact Or.inl closing
      · refine Or.inr fun inner front => ?_
        have member := closes (c :: inner) (List.cons_prefix_cons.mpr ⟨rfl, front⟩)
        exact (List.mem_cons.mp member).resolve_left (Ne.symm closing)
  · rintro ⟨opening, closes⟩ inner front
    cases inner with
    | nil => exact absurd (List.cons_prefix_cons.mp front).1.symm opening
    | cons d inner =>
      obtain ⟨rfl, rest⟩ := List.cons_prefix_cons.mp front
      exact List.mem_cons.mpr (closes.imp Eq.symm fun closes => closes inner rest)

theorem flat_nil : Flat [] := by
  intro inner inside
  exact absurd (List.infix_nil.mp inside) (by simp)

theorem flat_cons {c : Char} {rest : List Char} : Flat (c :: rest) ↔ (c = '[' → Closes rest) ∧ Flat rest := by
  unfold Flat Closes
  constructor
  · intro flat
    refine ⟨?_, fun inner inside => flat inner (inside.trans (List.suffix_cons c rest).isInfix)⟩
    rintro rfl inner front
    exact flat inner (List.cons_prefix_cons.mpr ⟨rfl, front⟩).isInfix
  · rintro ⟨here, later⟩ inner inside
    rcases List.infix_cons_iff.mp inside with front | inside
    · obtain ⟨same, front⟩ := List.cons_prefix_cons.mp front
      exact here same.symm inner front
    · exact later inner inside

def decideCloses : (text : List Char) → Decidable (Closes text)
  | [] => .isTrue closes_nil
  | _ :: rest => have := decideCloses rest; decidable_of_iff _ closes_cons.symm

def decideFlat : (text : List Char) → Decidable (Flat text)
  | [] => .isTrue flat_nil
  | _ :: rest => have := decideFlat rest; have := decideCloses rest; decidable_of_iff _ flat_cons.symm

instance : DecidablePred Flat := decideFlat

/-- No bracket is opened or closed. -/
def Clear (text : List Char) : Prop := '[' ∉ text ∧ ']' ∉ text

def bracketed (inner : List Char) : List Char := '[' :: (inner ++ [']'])

theorem Closes.cases {text : List Char} (closes : Closes text) :
    Clear text ∨ ∃ inner rest, Clear inner ∧ text = inner ++ ']' :: rest := by
  induction text with
  | nil => exact Or.inl ⟨List.not_mem_nil, List.not_mem_nil⟩
  | cons c text ih =>
    obtain ⟨opening, closes⟩ := closes_cons.mp closes
    by_cases closing : c = ']'
    · exact Or.inr ⟨[], text, ⟨List.not_mem_nil, List.not_mem_nil⟩, by simp [closing]⟩
    · have joined {inner : List Char} (clear : Clear inner) : Clear (c :: inner) := by
        simp [Clear, Ne.symm opening, Ne.symm closing, clear.1, clear.2]
      refine (ih (closes.resolve_left closing)).imp joined ?_
      rintro ⟨inner, rest, clear, rfl⟩
      exact ⟨c :: inner, rest, joined clear, rfl⟩

/-- A flat text begins with another character than an opening bracket, with a class, or with a bracket that stays
open to the end. -/
@[elab_as_elim]
theorem flat_induction {motive : List Char → Prop} (nil : motive [])
    (plain : ∀ c rest, c ≠ '[' → motive rest → motive (c :: rest))
    (closed : ∀ inner rest, Clear inner → motive rest → motive (bracketed inner ++ rest))
    (unclosed : ∀ inner, Clear inner → motive ('[' :: inner)) {text : List Char} (flat : Flat text) : motive text := by
  induction length : text.length using Nat.strongRecOn generalizing text with
  | ind n ih =>
    cases text with
    | nil => exact nil
    | cons c rest =>
      obtain ⟨closes, flatRest⟩ := flat_cons.mp flat
      rw [List.length_cons] at length
      by_cases opening : c = '['
      · subst opening
        rcases (closes rfl).cases with clear | ⟨inner, more, clear, rfl⟩
        · exact unclosed rest clear
        · have flatMore : Flat more := fun found inside =>
            flatRest found (inside.trans ((List.suffix_cons ']' more).trans (List.suffix_append inner _)).isInfix)
          have shorter : more.length < n := by
            rw [← length, List.length_append, List.length_cons]
            omega
          have whole : bracketed inner ++ more = '[' :: (inner ++ ']' :: more) := by simp [bracketed]
          exact whole ▸ closed inner more clear (ih more.length shorter flatMore rfl)
      · exact plain c rest opening (ih rest.length (by omega) flatRest rfl)

/-! Occurrences of a class. -/

theorem eq_of_append_cons {c : Char} {first second rest more : List Char} (inFirst : c ∉ first) (inSecond : c ∉ second)
    (same : first ++ c :: rest = second ++ c :: more) : first = second := by
  have before {front : List Char} (free : c ∉ front) (rest : List Char) :
      (front ++ c :: rest).takeWhile (· ≠ c) = front := by
    have passed : ∀ d ∈ front, decide (d ≠ c) = true :=
      fun d inside => decide_eq_true (ne_of_mem_of_not_mem inside free)
    rw [List.takeWhile_append_of_pos passed]
    simp
  rw [← before inFirst rest, same, before inSecond more]

section Occurrences

variable {wanted : List Char}

theorem absent_of_unclosed {text : List Char} (unclosed : ']' ∉ text) : ¬bracketed wanted <:+: text := by
  intro inside
  exact unclosed (inside.subset (by simp [bracketed]))

theorem bracketed_infix_append {front : List Char} (free : '[' ∉ front) (rest : List Char) :
    bracketed wanted <:+: front ++ rest ↔ bracketed wanted <:+: rest := by
  induction front with
  | nil => exact Iff.rfl
  | cons c front ih =>
    obtain ⟨here, others⟩ := not_or.mp (mt List.mem_cons.mpr free)
    rw [List.cons_append, List.infix_cons_iff, ih others]
    refine or_iff_right fun found => here ?_
    exact (List.cons_prefix_cons.mp found).1

variable {inner : List Char} (clear : Clear wanted) (other : Clear inner)

include clear other

theorem bracketed_prefix_iff (rest : List Char) : bracketed wanted <+: bracketed inner ++ rest ↔ wanted = inner := by
  constructor
  · rintro ⟨more, same⟩
    simp only [bracketed, List.cons_append, List.append_assoc, List.nil_append, List.cons.injEq, true_and] at same
    exact eq_of_append_cons clear.2 other.2 same
  · rintro rfl
    exact List.prefix_append _ _

theorem bracketed_infix_bracketed (rest : List Char) :
    bracketed wanted <:+: bracketed inner ++ rest ↔ wanted = inner ∨ bracketed wanted <:+: rest := by
  have free : '[' ∉ inner ++ [']'] := by simp [other.1]
  have whole : bracketed inner ++ rest = '[' :: (inner ++ [']'] ++ rest) := by simp [bracketed]
  rw [← bracketed_prefix_iff clear other rest, whole, List.infix_cons_iff, bracketed_infix_append free]

/-- A class is kept when it is not the one that is replaced. -/
theorem Replaces.keep {replacement : List Char} {f : List Char → List Char}
    (replaces : Replaces (bracketed wanted) replacement f) (different : wanted ≠ inner) (rest : List Char) :
    f (bracketed inner ++ rest) = bracketed inner ++ f rest := by
  have absent := mt (bracketed_prefix_iff clear other rest).mp different
  have free : '[' ∉ inner ++ [']'] := by simp [other.1]
  have whole (rest : List Char) : bracketed inner ++ rest = '[' :: (inner ++ [']'] ++ rest) := by simp [bracketed]
  rw [whole] at absent
  rw [whole, whole, replaces.skip _ _ absent, replaces.skip_append rfl free]

end Occurrences

/-! What shortening makes of a class. -/

def eights : List Char := ['8', '-', '9']

def nines : List Char := ['9', '-', '9']

theorem clear_eights : Clear eights := ⟨by decide, by decide⟩

theorem clear_nines : Clear nines := ⟨by decide, by decide⟩

theorem shorten_eights (rest : List Char) :
    shorten (bracketed eights ++ rest) = bracketed ['8', '9'] ++ shorten rest := rfl

theorem shorten_nines (rest : List Char) : shorten (bracketed nines ++ rest) = '9' :: shorten rest := rfl

theorem shorten_bracketed {inner : List Char} (clear : Clear inner) (notEights : eights ≠ inner)
    (notNines : nines ≠ inner) (rest : List Char) :
    shorten (bracketed inner ++ rest) = bracketed inner ++ shorten rest := by
  unfold shorten
  rw [shortenEights_replaces.keep clear_eights clear notEights, shortenNines_replaces.keep clear_nines clear notNines]

theorem shorten_eq_self {text : List Char} (noEights : ¬bracketed eights <:+: text)
    (noNines : ¬bracketed nines <:+: text) : shorten text = text := by
  unfold shorten
  rw [shortenEights_replaces.eq_self noEights, shortenNines_replaces.eq_self noNines]

theorem not_infix_shorten {wanted text : List Char} (long : wanted = eights ∨ wanted = nines) (flat : Flat text) :
    ¬bracketed wanted <:+: shorten text := by
  have clear : Clear wanted := by
    rcases long with rfl | rfl
    · exact clear_eights
    · exact clear_nines
  refine flat_induction ?nil ?plain ?closed ?unclosed flat
  case nil => exact absent_of_unclosed List.not_mem_nil
  case plain =>
    intro c rest other ih
    rw [shorten_cons other, ← List.singleton_append, bracketed_infix_append (by simpa using other.symm)]
    exact ih
  case closed =>
    intro inner rest clearInner ih
    by_cases isEights : eights = inner
    · have short : Clear ['8', '9'] := ⟨by decide, by decide⟩
      have longer : wanted ≠ ['8', '9'] := by rcases long with rfl | rfl <;> decide
      rw [← isEights, shorten_eights, bracketed_infix_bracketed clear short]
      exact not_or.mpr ⟨longer, ih⟩
    · by_cases isNines : nines = inner
      · have free : '[' ∉ ['9'] := by decide
        rw [← isNines, shorten_nines, ← List.singleton_append, bracketed_infix_append free]
        exact ih
      · have different : wanted ≠ inner := by
          rcases long with rfl | rfl
          · exact isEights
          · exact isNines
        rw [shorten_bracketed clearInner isEights isNines, bracketed_infix_bracketed clear clearInner]
        exact not_or.mpr ⟨different, ih⟩
  case unclosed =>
    intro inner clearInner
    have absent : ']' ∉ '[' :: inner := by simp [clearInner.2]
    rw [shorten_eq_self (absent_of_unclosed absent) (absent_of_unclosed absent)]
    exact absent_of_unclosed absent

end ItemQuery.Pattern
