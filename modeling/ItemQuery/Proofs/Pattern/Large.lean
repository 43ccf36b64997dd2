import ItemQuery.Proofs.Pattern.Threshold

/-! Numbers from 200 on.

The rows of a threshold are made for numbers below 200. Of the larger ones of three digits,
the least thresholds and 100 find all. Others look at the last two digits only, want a one in
front, or, from 200 on, want a two there. So a threshold can be met and yet not be found.
-/

set_option autoImplicit false

namespace ItemQuery

namespace Regex

def percentItems (number : List Regex) : List Regex := number ++ [.letter (.exactly '%')]

theorem mem_percent {found : List Char} {number : List Regex} :
    found ∈ (sequence (percentItems number)).language ↔
      ∃ text ∈ (sequence number).language, found = text ++ ['%'] := by
  rw [language_sequence, percentItems, List.map_append, List.prod_append, ← language_sequence, ← language_sequence]
  constructor
  · rintro ⟨text, isNumber, _, ⟨_, ⟨c, rfl, sign⟩, _, rfl, rfl⟩, rfl⟩
    exact ⟨text, isNumber, by rw [beq_iff_eq.mp sign]; rfl⟩
  · rintro ⟨text, isNumber, rfl⟩
    exact Language.append_mem_mul isNumber ⟨_, ⟨'%', rfl, rfl⟩, [], rfl, rfl⟩

/-- In a line with digits only before its percent sign, the number found ends the digits. -/
theorem foundIn_percent_iff {number : List Regex} {before digits : List Char}
    (starts : ∀ text ∈ (sequence number).language, ∃ c rest, text = c :: rest ∧ c.isDigit = true)
    (plain : ∀ c ∈ before, c ≠ '%' ∧ c.isDigit = false) (all : ∀ c ∈ digits, c.isDigit = true) :
    (sequence (percentItems number)).FoundIn (before ++ digits ++ ['%']) ↔
      ∃ text ∈ (sequence number).language, text <:+ digits := by
  have only : '%' ∉ before ++ digits := by
    rw [List.mem_append]
    rintro (inside | inside)
    · exact (plain '%' inside).1 rfl
    · exact absurd (all '%' inside) (by decide)
  constructor
  · rintro ⟨first, _, last, line, found⟩
    obtain ⟨text, isNumber, rfl⟩ := mem_percent.mp found
    obtain ⟨c, rest, rfl, digit⟩ := starts text isNumber
    have ended : before ++ digits ++ ['%'] = first ++ c :: rest ++ '%' :: last := by simpa using line
    obtain ⟨same, -⟩ := eq_of_append_separator only ended
    obtain ⟨front, -, rfl⟩ := exists_digits_before (fun c inside => (plain c inside).2) digit same.symm
    exact ⟨c :: rest, isNumber, List.suffix_append _ _⟩
  · rintro ⟨text, isNumber, front, rfl⟩
    exact ⟨before ++ front, text ++ ['%'], [], by simp, mem_percent.mpr ⟨text, isNumber, rfl⟩⟩

end Regex

namespace Pattern

open Regex

variable {threshold value : Nat}

theorem exists_digit_of_mem_rowsLanguage (asks : 1 ≤ threshold) {text : List Char}
    (found : text ∈ rowsLanguage (rows threshold)) : ∃ c rest, text = c :: rest ∧ c.isDigit = true := by
  obtain ⟨row, listed, found⟩ := mem_rowsLanguage.mp found
  obtain ⟨kind, rest, rfl, numeric⟩ := exists_numeric_of_mem_rows asks row listed
  obtain ⟨c, others, accepted, -, rfl⟩ := List.forall₂_cons_left_iff.mp found
  exact ⟨c, others, rfl, numeric c accepted⟩

theorem exists_ends_iff {listed : List (List Letter)} {digits : List Char} :
    (∃ text ∈ rowsLanguage listed, text <:+ digits) ↔ ∃ row ∈ listed, Ends row digits := by
  simp only [mem_rowsLanguage, Ends]
  constructor
  · rintro ⟨text, ⟨row, member, found⟩, last⟩
    exact ⟨row, member, text, last, found⟩
  · rintro ⟨row, member, text, last, found⟩
    exact ⟨text, ⟨row, member, found⟩, last⟩

theorem atLeast_finds_iff_ends (asks : 1 ≤ threshold) :
    ∃ regex, read? (shorten (atLeast threshold) ++ ['%']) = some regex ∧
      ∀ before value, (∀ c ∈ before, c ≠ '%' ∧ c.isDigit = false) →
        (regex.FoundIn (before ++ Nat.toDigits 10 value ++ ['%']) ↔
          ∃ row ∈ rows threshold, Ends row (Nat.toDigits 10 value)) := by
  obtain ⟨number, reads, stands⟩ := standsFor_atLeast asks
  refine ⟨_, read?_of_reads (reads.append (reads_plain rfl reads_nil)), fun before value plain => ?_⟩
  have starts : ∀ text ∈ (sequence number).language, ∃ c rest, text = c :: rest ∧ c.isDigit = true :=
    fun text found => exists_digit_of_mem_rowsLanguage asks (stands ▸ found)
  have digits : ∀ c ∈ Nat.toDigits 10 value, c.isDigit = true :=
    fun c inside => Nat.isDigit_of_mem_toDigits (by decide) (by decide) inside
  rw [← percentItems, foundIn_percent_iff starts plain digits, stands, exists_ends_iff]

/-! Numbers whose first of three digits is not a one. -/

section Digits

variable {tens ones a b c : Nat}

theorem not_accepts_one (other : a ≠ 1) (singleA : a ≤ 9) : (Letter.exactly '1').accepts (digit a) = false := by
  rw [Bool.eq_false_iff, Ne, accepts_exactly]
  exact fun same => other ((digitChar_eq_digit singleA (by decide)).mp same)

theorem ends_hundredRows_other (other : a ≠ 1) (some : 1 ≤ tens ∨ 1 ≤ ones) (singleTens : tens ≤ 9)
    (singleOnes : ones ≤ 9) (singleA : a ≤ 9) (singleB : b ≤ 9) (singleC : c ≤ 9) :
    (∃ row ∈ hundredRows tens ones, Ends row [digit a, digit b, digit c]) ↔ tens = 0 ∧ ones ≤ 10 * b + c := by
  have notOne := not_accepts_one other singleA
  unfold hundredRows
  split_ifs with noOnes noTens nineTens
  all_goals
    simp (disch := omega) [ends_iff, Matches, accepts_digitFrom, accepts_digit, accepts_any, accepts_exactly, notOne]
    omega

theorem ends_tenRows_other (other : a ≠ 1) (someTens : 1 ≤ tens) (singleTens : tens ≤ 9) (singleOnes : ones ≤ 9)
    (singleA : a ≤ 9) (singleB : b ≤ 9) (singleC : c ≤ 9) :
    (∃ row ∈ tenRows tens ones, Ends row [digit a, digit b, digit c]) ↔ 10 * tens + ones ≤ 10 * b + c := by
  have notOne := not_accepts_one other singleA
  unfold tenRows
  split_ifs with noOnes nineTens
  all_goals
    simp (disch := omega) [ends_iff, Matches, accepts_digitFrom, accepts_any, accepts_exactly, digitChar_eq_digit,
      notOne]
    omega

end Digits

/-- The rows of a threshold end a number from 200 on when they are for all numbers of three digits, when they look
at the last two digits and these are large enough, or when they want a two in front and there is one. -/
theorem ends_rows_large (asks : 1 ≤ threshold) (above : 200 ≤ value) (below : value ≤ 999) :
    (∃ row ∈ rows threshold, Ends row (Nat.toDigits 10 value)) ↔
      (threshold ≤ 109 ∧ (threshold ≤ 9 ∨ threshold % 100 ≤ value % 100)) ∨ (200 ≤ threshold ∧ value ≤ 299) := by
  have singleA : value / 100 ≤ 9 := by omega
  have singleB : value / 10 % 10 ≤ 9 := by omega
  have singleC : value % 10 ≤ 9 := by omega
  have other : value / 100 ≠ 1 := by omega
  have lastTwo : 10 * (value / 10 % 10) + value % 10 = value % 100 := by omega
  rw [toDigits_three (by omega) (by omega)]
  unfold rows
  split_ifs with most more hundred double
  · have two : (Letter.exactly '2').accepts (digit (value / 100)) = true ↔ value / 100 = 2 :=
      accepts_exactly.trans (@digitChar_eq_digit _ 2 singleA (by decide))
    simp [ends_iff, Matches, two, accepts_any, singleB, singleC]
    omega
  · rw [ends_hundredRows_other other (by omega) (by omega) (by omega) singleA singleB singleC, lastTwo]
    omega
  · simp [ends_iff, Matches, accepts_digit, singleA, singleB, singleC]
    omega
  · rw [ends_tenRows_other other (by omega) (by omega) (by omega) singleA singleB singleC, lastTwo]
    omega
  · have whole : Matches [.digit, .any, .any] [digit (value / 100), digit (value / 10 % 10), digit (value % 10)] :=
      .cons (accepts_digit singleA) (.cons (accepts_any singleB) (.cons (accepts_any singleC) .nil))
    exact iff_of_true ⟨_, by simp, whole.ends⟩ (by omega)

end Pattern

namespace Minimum

open Pattern

/-- Of the lines with one number from 200 to 999, the pattern finds all for the least thresholds, those with the last
two digits of the threshold or more up to 109, none up to 199, and those below 300 for the thresholds from 200 on. -/
theorem pattern_finds_large_iff (minimum : Minimum) (asks : 1 ≤ minimum.threshold) (before : List Char)
    (plain : ∀ c ∈ before, c ≠ '%' ∧ c.isDigit = false) (value : Nat) (above : 200 ≤ value) (below : value ≤ 999) :
    ∃ regex, Regex.read? (shorten minimum.pattern ++ ['%']) = some regex ∧
      (regex.FoundIn (before ++ Nat.toDigits 10 value ++ ['%']) ↔
        (minimum.threshold ≤ 109 ∧ (minimum.threshold ≤ 9 ∨ minimum.threshold % 100 ≤ value % 100)) ∨
          (200 ≤ minimum.threshold ∧ value ≤ 299)) := by
  obtain ⟨regex, reads, finds⟩ := atLeast_finds_iff_ends asks
  exact ⟨regex, reads, (finds before value plain).trans (ends_rows_large asks above below)⟩

/-- A pack size of 80 and more, on a line with 285 of it. -/
theorem pattern_finds_285 : ∃ regex, Regex.read? (shorten (Minimum.pattern ⟨"80", false⟩) ++ ['%']) = some regex ∧
    regex.FoundIn ("Monster Pack Size: +".toList ++ Nat.toDigits 10 285 ++ ['%']) := by
  obtain ⟨regex, reads, found⟩ := pattern_finds_large_iff ⟨"80", false⟩ (by decide) "Monster Pack Size: +".toList
    (by simp) 285 (by decide) (by decide)
  exact ⟨regex, reads, found.mpr (by decide)⟩

/-- A pack size of 210 is more than 80, and the pattern passes it over. -/
theorem pattern_overlooks_210 : Minimum.threshold ⟨"80", false⟩ ≤ 210 ∧
    ∃ regex, Regex.read? (shorten (Minimum.pattern ⟨"80", false⟩) ++ ['%']) = some regex ∧
      ¬regex.FoundIn ("Monster Pack Size: +".toList ++ Nat.toDigits 10 210 ++ ['%']) := by
  have asks : 1 ≤ Minimum.threshold ⟨"80", false⟩ := by decide
  obtain ⟨regex, reads, finds⟩ := atLeast_finds_iff_ends asks
  refine ⟨by decide, regex, reads, ?_⟩
  rw [finds _ 210 (by simp), ends_rows_large asks (by decide) (by decide)]
  decide

end Minimum

end ItemQuery
