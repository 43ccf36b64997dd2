import ItemQuery.Proofs.Pattern.Reading
import ItemQuery.Proofs.Pattern.Shorten
import Mathlib.Algebra.BigOperators.Group.List.Basic
import Mathlib.Tactic.IntervalCases

/-! What the pattern of a threshold stands for, row by row.

All patterns of thresholds, as different as they look, say the same kind of thing: some row
of letters, each for one character. The rows are short enough to compare them with the
digits of a number one by one.
-/

set_option autoImplicit false

namespace ItemQuery.Pattern

open Regex

/-- The letter for the digits from `low` to nine. -/
def digitFrom (low : Nat) : Letter :=
  if low = 9 then .exactly '9' else if low = 8 then .among [('9', '9'), ('8', '8')] else .among [(digit low, '9')]

/-- The class of the digits from `low` to nine as it is after shortening. -/
def shortClass (low : Nat) : List Char :=
  if low = 9 then ['9'] else if low = 8 then ['[', '8', '9', ']'] else classFrom low

def hundredRows (tens ones : Nat) : List (List Letter) :=
  if ones = 0 then [[.exactly '1', digitFrom tens, .any]]
  else if tens = 0 then [[.digit, .exactly '0', digitFrom ones], [.digit, digitFrom 1, .any]]
  else if tens = 9 then [[.exactly '1', .exactly '9', digitFrom ones]]
  else [[.exactly '1', digitFrom tens, digitFrom ones], [.exactly '1', digitFrom (tens + 1), .any]]

def tenRows (tens ones : Nat) : List (List Letter) :=
  if ones = 0 then [[digitFrom tens, .any], [.exactly '1', .any, .any]]
  else if tens = 9 then [[.exactly '9', digitFrom ones], [.exactly '1', .any, .any]]
  else [[.exactly (digit tens), digitFrom ones], [digitFrom (tens + 1), .any], [.exactly '1', .any, .any]]

/-- The rows of letters that the pattern of a threshold is for. -/
def rows (threshold : Nat) : List (List Letter) :=
  if 200 ≤ threshold then [[.exactly '2', .any, .any]]
  else if 100 < threshold then hundredRows (threshold / 10 % 10) (threshold % 10)
  else if threshold = 100 then [[.digit, .digit, .digit]]
  else if 9 < threshold then tenRows (threshold / 10) (threshold % 10)
  else [[digitFrom threshold], [.digit, .any], [.digit, .any, .any]]

def rowsLanguage (rows : List (List Letter)) : Language Char := (rows.map fun row => (row.map letters).prod).sum

def Matches (row : List Letter) (text : List Char) : Prop :=
  List.Forall₂ (fun kind c => kind.accepts c = true) row text

theorem mem_prod_letters {row : List Letter} {text : List Char} : text ∈ (row.map letters).prod ↔ Matches row text := by
  induction row generalizing text with
  | nil => simp [Matches, Language.mem_one]
  | cons kind row ih =>
    rw [List.map_cons, List.prod_cons, Language.mem_mul]
    constructor
    · rintro ⟨_, ⟨c, rfl, accepted⟩, rest, found, rfl⟩
      exact .cons accepted (ih.mp found)
    · rintro (_ | ⟨accepted, others⟩)
      exact ⟨_, ⟨_, rfl, accepted⟩, _, ih.mpr others, rfl⟩

theorem mem_rowsLanguage {rows : List (List Letter)} {text : List Char} :
    text ∈ rowsLanguage rows ↔ ∃ row ∈ rows, Matches row text := by
  induction rows with
  | nil => simp [rowsLanguage, Language.notMem_zero]
  | cons row rows ih =>
    rw [rowsLanguage, List.map_cons, List.sum_cons, Language.mem_add, mem_prod_letters, List.exists_mem_cons_iff]
    exact or_congr_right ih

/-! Reading the pattern gives the rows. -/

theorem shorten_classFrom {low : Nat} (some : 1 ≤ low) (single : low ≤ 9) (rest : List Char) :
    shorten (classFrom low ++ rest) = shortClass low ++ shorten rest := by
  interval_cases low <;> rfl

variable {pattern : List Char} {items : List Regex}

theorem reads_shortClass {low : Nat} (some : 1 ≤ low) (single : low ≤ 9) (tail : Reads pattern items) :
    Reads (shortClass low ++ pattern) (.letter (digitFrom low) :: items) := by
  refine reads_letter (fun rest => ?_) tail
  interval_cases low <;> rfl

theorem plain?_digit {n : Nat} (single : n ≤ 9) : plain? (digit n) = some (.letter (.exactly (digit n))) := by
  interval_cases n <;> rfl

/-- The text stands for the rows, in whatever items it is read into. -/
def StandsFor (text : List Char) (rows : List (List Letter)) : Prop :=
  ∃ items, Reads text items ∧ (sequence items).language = rowsLanguage rows

section Shapes

variable {tens ones : Nat}

theorem standsFor_hundreds_round (someTens : 1 ≤ tens) (singleTens : tens ≤ 9) :
    StandsFor (shorten ('1' :: classFrom tens ++ ['.'])) [[.exactly '1', digitFrom tens, .any]] := by
  have text : shorten ('1' :: classFrom tens ++ ['.']) = '1' :: (shortClass tens ++ ['.']) := by
    simp [shorten_cons, shorten_classFrom, someTens, singleTens]
  refine ⟨[.letter (.exactly '1'), .letter (digitFrom tens), .letter .any], ?_, ?_⟩
  · rw [text]
    exact reads_plain rfl (reads_shortClass someTens singleTens (reads_any reads_nil))
  · simp [rowsLanguage, language]

theorem standsFor_hundreds_low (someOnes : 1 ≤ ones) (singleOnes : ones ≤ 9) :
    StandsFor (shorten (['(', '\\', 'd', '0'] ++ classFrom ones ++ ['|', '\\', 'd'] ++ classFrom 1 ++ ['.', ')']))
      [[.digit, .exactly '0', digitFrom ones], [.digit, digitFrom 1, .any]] := by
  have text : shorten (['(', '\\', 'd', '0'] ++ classFrom ones ++ ['|', '\\', 'd'] ++ classFrom 1 ++ ['.', ')']) =
      '(' :: (Text.join '|' ['\\' :: 'd' :: '0' :: (shortClass ones ++ []), '\\' :: 'd' :: (shortClass 1 ++ ['.'])]
        ++ [')']) := by
    simp [shorten_cons, shorten_classFrom, someOnes, singleOnes]
  refine ⟨[choice (sequence [.letter .digit, .letter (.exactly '0'), .letter (digitFrom ones)])
    [sequence [.letter .digit, .letter (digitFrom 1), .letter .any]]], ?_, ?_⟩
  · rw [text]
    exact reads_group (reads_digit (reads_plain rfl (reads_shortClass someOnes singleOnes reads_nil)))
      (.cons (reads_digit (reads_shortClass le_rfl (by decide) (reads_any reads_nil))) .nil)
  · simp [rowsLanguage, language]

theorem standsFor_hundreds_nineties (someOnes : 1 ≤ ones) (singleOnes : ones ≤ 9) :
    StandsFor (shorten ('1' :: '9' :: classFrom ones)) [[.exactly '1', .exactly '9', digitFrom ones]] := by
  have text : shorten ('1' :: '9' :: (classFrom ones ++ [])) = '1' :: '9' :: (shortClass ones ++ []) := by
    rw [shorten_cons (by decide), shorten_cons (by decide), shorten_classFrom someOnes singleOnes, shorten_nil]
  refine ⟨[.letter (.exactly '1'), .letter (.exactly '9'), .letter (digitFrom ones)], ?_, ?_⟩
  · rw [← List.append_nil (classFrom ones), text]
    exact reads_plain rfl (reads_plain rfl (reads_shortClass someOnes singleOnes reads_nil))
  · simp [rowsLanguage, language]

theorem standsFor_hundreds_between (someTens : 1 ≤ tens) (nextTens : tens + 1 ≤ 9) (someOnes : 1 ≤ ones)
    (singleOnes : ones ≤ 9) :
    StandsFor (shorten (['1', '('] ++ classFrom tens ++ classFrom ones ++ '|' :: classFrom (tens + 1) ++ ['.', ')']))
      [[.exactly '1', digitFrom tens, digitFrom ones], [.exactly '1', digitFrom (tens + 1), .any]] := by
  have singleTens : tens ≤ 9 := Nat.le_of_succ_le nextTens
  have text : shorten (['1', '('] ++ classFrom tens ++ classFrom ones ++ '|' :: classFrom (tens + 1) ++ ['.', ')']) =
      '1' :: '(' :: (Text.join '|' [shortClass tens ++ (shortClass ones ++ []), shortClass (tens + 1) ++ ['.']]
        ++ [')']) := by
    simp [shorten_cons, shorten_classFrom, someTens, singleTens, someOnes, singleOnes, nextTens]
  refine ⟨[.letter (.exactly '1'), choice (sequence [.letter (digitFrom tens), .letter (digitFrom ones)])
    [sequence [.letter (digitFrom (tens + 1)), .letter .any]]], ?_, ?_⟩
  · rw [text]
    exact reads_plain rfl (reads_group
      (reads_shortClass someTens singleTens (reads_shortClass someOnes singleOnes reads_nil))
      (.cons (reads_shortClass (Nat.le_add_left 1 tens) nextTens (reads_any reads_nil)) .nil))
  -- The one in front of the group goes into both of its rows.
  · simp [rowsLanguage, language, mul_add]

theorem reads_any_hundred : Reads ['1', '.', '.'] [.letter (.exactly '1'), .letter .any, .letter .any] :=
  reads_plain rfl (reads_any (reads_any reads_nil))

theorem standsFor_tens_round (someTens : 1 ≤ tens) (singleTens : tens ≤ 9) :
    StandsFor (shorten ('(' :: classFrom tens ++ ['.', '|', '1', '.', '.', ')']))
      [[digitFrom tens, .any], [.exactly '1', .any, .any]] := by
  have text : shorten ('(' :: classFrom tens ++ ['.', '|', '1', '.', '.', ')']) =
      '(' :: (Text.join '|' [shortClass tens ++ ['.'], ['1', '.', '.']] ++ [')']) := by
    simp [shorten_cons, shorten_classFrom, someTens, singleTens]
  refine ⟨[choice (sequence [.letter (digitFrom tens), .letter .any])
    [sequence [.letter (.exactly '1'), .letter .any, .letter .any]]], ?_, ?_⟩
  · rw [text]
    exact reads_group (reads_shortClass someTens singleTens (reads_any reads_nil)) (.cons reads_any_hundred .nil)
  · simp [rowsLanguage, language]

theorem standsFor_tens_nineties (someOnes : 1 ≤ ones) (singleOnes : ones ≤ 9) :
    StandsFor (shorten ('(' :: '9' :: classFrom ones ++ ['|', '1', '.', '.', ')']))
      [[.exactly '9', digitFrom ones], [.exactly '1', .any, .any]] := by
  have text : shorten ('(' :: '9' :: classFrom ones ++ ['|', '1', '.', '.', ')']) =
      '(' :: (Text.join '|' ['9' :: (shortClass ones ++ []), ['1', '.', '.']] ++ [')']) := by
    simp [shorten_cons, shorten_classFrom, someOnes, singleOnes]
  refine ⟨[choice (sequence [.letter (.exactly '9'), .letter (digitFrom ones)])
    [sequence [.letter (.exactly '1'), .letter .any, .letter .any]]], ?_, ?_⟩
  · rw [text]
    exact reads_group (reads_plain rfl (reads_shortClass someOnes singleOnes reads_nil)) (.cons reads_any_hundred .nil)
  · simp [rowsLanguage, language]

theorem standsFor_tens_between (nextTens : tens + 1 ≤ 9) (someOnes : 1 ≤ ones) (singleOnes : ones ≤ 9) :
    StandsFor (shorten ('(' :: digit tens :: classFrom ones ++ '|' :: classFrom (tens + 1) ++
        ['.', '|', '1', '.', '.', ')']))
      [[.exactly (digit tens), digitFrom ones], [digitFrom (tens + 1), .any], [.exactly '1', .any, .any]] := by
  have singleTens : tens ≤ 9 := Nat.le_of_succ_le nextTens
  have noClass : digit tens ≠ '[' := by interval_cases tens <;> decide
  have text : shorten ('(' :: digit tens :: classFrom ones ++ '|' :: classFrom (tens + 1) ++
      ['.', '|', '1', '.', '.', ')']) = '(' :: (Text.join '|' [digit tens :: (shortClass ones ++ []),
        shortClass (tens + 1) ++ ['.'], ['1', '.', '.']] ++ [')']) := by
    simp [shorten_cons, shorten_classFrom, someOnes, singleOnes, nextTens, noClass]
  refine ⟨[choice (sequence [.letter (.exactly (digit tens)), .letter (digitFrom ones)])
    [sequence [.letter (digitFrom (tens + 1)), .letter .any],
      sequence [.letter (.exactly '1'), .letter .any, .letter .any]]], ?_, ?_⟩
  · rw [text]
    exact reads_group (reads_plain (plain?_digit singleTens) (reads_shortClass someOnes singleOnes reads_nil))
      (.cons (reads_shortClass (Nat.le_add_left 1 tens) nextTens (reads_any reads_nil))
        (.cons reads_any_hundred .nil))
  · simp [rowsLanguage, language]

theorem standsFor_ones (someOnes : 1 ≤ ones) (singleOnes : ones ≤ 9) :
    StandsFor (shorten ('(' :: classFrom ones ++ ['|', '\\', 'd', '.', '.', '?', ')']))
      [[digitFrom ones], [.digit, .any], [.digit, .any, .any]] := by
  have text : shorten ('(' :: classFrom ones ++ ['|', '\\', 'd', '.', '.', '?', ')']) =
      '(' :: (Text.join '|' [shortClass ones ++ [], ['\\', 'd', '.', '.', '?']] ++ [')']) := by
    simp [shorten_cons, shorten_classFrom, someOnes, singleOnes]
  refine ⟨[choice (sequence [.letter (digitFrom ones)])
    [sequence [.letter .digit, .letter .any, .optional (.letter .any)]]], ?_, ?_⟩
  · rw [text]
    exact reads_group (reads_shortClass someOnes singleOnes reads_nil)
      (.cons (reads_digit (reads_any (reads_optional_any reads_nil))) .nil)
  -- The optional character makes two rows of its alternative.
  · simp [rowsLanguage, language, mul_add]

end Shapes

theorem standsFor_hundreds {threshold : Nat} (above : 100 < threshold) (below : threshold < 200) :
    StandsFor (shorten (hundreds threshold)) (hundredRows (threshold / 10 % 10) (threshold % 10)) := by
  simp only [hundreds, hundredRows]
  split_ifs with noOnes noTens nineTens nineOnes
  · exact standsFor_hundreds_round (by omega) (by omega)
  · exact standsFor_hundreds_low (by omega) (by omega)
  · have written : shorten ['1', '9', '9'] = shorten ('1' :: '9' :: classFrom 9) := rfl
    rw [nineOnes, written]
    exact standsFor_hundreds_nineties (by decide) le_rfl
  · exact standsFor_hundreds_nineties (by omega) (by omega)
  · exact standsFor_hundreds_between (by omega) (by omega) (by omega) (by omega)

theorem standsFor_tens {threshold : Nat} (above : 9 < threshold) (below : threshold < 100) :
    StandsFor (shorten (tens threshold)) (tenRows (threshold / 10) (threshold % 10)) := by
  simp only [tens, tenRows]
  split_ifs with noOnes nineTens
  · exact standsFor_tens_round (by omega) (by omega)
  · exact standsFor_tens_nineties (by omega) (by omega)
  · exact standsFor_tens_between (by omega) (by omega) (by omega)

theorem isEmpty_atLeast {threshold : Nat} (asks : 1 ≤ threshold) : (atLeast threshold).isEmpty = false := by
  simp only [atLeast, hundreds, tens]
  split_ifs
  all_goals first | omega | rfl

theorem standsFor_atLeast {threshold : Nat} (asks : 1 ≤ threshold) :
    StandsFor (shorten (atLeast threshold)) (rows threshold) := by
  rw [atLeast, if_neg (Nat.pos_iff_ne_zero.mp asks), rows]
  by_cases most : 200 ≤ threshold
  · rw [if_pos most, if_pos most]
    exact ⟨[.letter (.exactly '2'), .letter .any, .letter .any],
      reads_plain rfl (reads_any (reads_any reads_nil)), by simp [rowsLanguage, language]⟩
  rw [if_neg most, if_neg most]
  by_cases above : 100 < threshold
  · rw [if_pos above, if_pos above]
    exact standsFor_hundreds above (by omega)
  rw [if_neg above, if_neg above]
  by_cases hundred : threshold = 100
  · rw [if_pos hundred, if_pos hundred]
    exact ⟨[choice (sequence [.times 3 (.letter .digit)]) []], reads_group (reads_three_digits reads_nil) .nil,
      by simp [rowsLanguage, language, pow_succ, mul_assoc]⟩
  rw [if_neg hundred, if_neg hundred]
  by_cases double : 9 < threshold
  · rw [if_pos double, if_pos double]
    exact standsFor_tens double (by omega)
  · rw [if_neg double, if_neg double]
    exact standsFor_ones asks (by omega)

end ItemQuery.Pattern
