import ItemQuery.Proofs.Pattern.Rows

/-! Rows of letters at the end of a number. -/

set_option autoImplicit false

namespace ItemQuery.Pattern

/-- Some stretch at the end of the text is as the row says. -/
def Ends (row : List Letter) (text : List Char) : Prop := ∃ last, last <:+ text ∧ Matches row last

theorem ends_iff {row : List Letter} {text : List Char} :
    Ends row text ↔ row.length ≤ text.length ∧ Matches row (text.drop (text.length - row.length)) := by
  constructor
  · rintro ⟨last, ⟨front, rfl⟩, found⟩
    have same : row.length = last.length := List.Forall₂.length_eq found
    rw [List.length_append, same, Nat.add_sub_cancel, List.drop_left]
    exact ⟨Nat.le_add_left _ _, found⟩
  · rintro ⟨-, found⟩
    exact ⟨_, List.drop_suffix _ _, found⟩

theorem Matches.ends {row : List Letter} {text : List Char} (found : Matches row text) : Ends row text :=
  ⟨text, List.suffix_refl _, found⟩

theorem Ends.length_le {row : List Letter} {text : List Char} (ends : Ends row text) : row.length ≤ text.length :=
  (ends_iff.mp ends).1

/-! The letters on a digit. -/

theorem accepts_digitFrom {low n : Nat} (some : 1 ≤ low) (singleLow : low ≤ 9) (single : n ≤ 9) :
    (digitFrom low).accepts (digit n) = true ↔ low ≤ n := by
  have table : ∀ low ∈ List.range 10, ∀ n ∈ List.range 10, 1 ≤ low →
      ((digitFrom low).accepts (digit n) = true ↔ low ≤ n) := by decide
  exact table low (List.mem_range.mpr (by omega)) n (List.mem_range.mpr (by omega)) some

theorem accepts_exactly {c : Char} {n : Nat} : (Letter.exactly c).accepts (digit n) = true ↔ n.digitChar = c :=
  beq_iff_eq

theorem digitChar_eq_digit {n wanted : Nat} (single : n ≤ 9) (singleWanted : wanted ≤ 9) :
    n.digitChar = digit wanted ↔ n = wanted := by
  have table : ∀ n ∈ List.range 10, ∀ wanted ∈ List.range 10, n.digitChar = digit wanted ↔ n = wanted := by decide
  exact table n (List.mem_range.mpr (by omega)) wanted (List.mem_range.mpr (by omega))

theorem accepts_digit {n : Nat} (single : n ≤ 9) : Letter.digit.accepts (digit n) = true := by
  interval_cases n <;> rfl

theorem accepts_any {n : Nat} (single : n ≤ 9) : Letter.any.accepts (digit n) = true := by
  interval_cases n <;> rfl

theorem isDigit_of_accepts_among {ranges : List (Char × Char)} {c : Char}
    (inside : ∀ range ∈ ranges, '0' ≤ range.1 ∧ range.2 ≤ '9') (accepted : (Letter.among ranges).accepts c = true) :
    c.isDigit = true := by
  obtain ⟨range, listed, between⟩ := List.any_eq_true.mp accepted
  obtain ⟨first, last⟩ := Bool.and_eq_true_iff.mp between
  have lower : '0' ≤ c := Char.le_trans (inside range listed).1 (of_decide_eq_true first)
  have upper : c ≤ '9' := Char.le_trans (of_decide_eq_true last) (inside range listed).2
  exact Bool.and_eq_true_iff.mpr ⟨decide_eq_true lower, decide_eq_true upper⟩

/-- The letter is for digits only. -/
def Numeric (kind : Letter) : Prop := ∀ c, kind.accepts c = true → c.isDigit = true

theorem numeric_exactly {c : Char} : Numeric (.exactly c) ↔ c.isDigit = true :=
  ⟨fun numeric => numeric c (beq_self_eq_true c), fun isDigit _ accepted => by rwa [beq_iff_eq.mp accepted]⟩

theorem numeric_digit : Numeric .digit := fun _ accepted => accepted

theorem numeric_digitFrom {low : Nat} (some : 1 ≤ low) (singleLow : low ≤ 9) : Numeric (digitFrom low) := by
  unfold digitFrom
  split_ifs
  · exact numeric_exactly.mpr rfl
  · exact fun _ accepted => isDigit_of_accepts_among (by decide) accepted
  · exact fun _ accepted => isDigit_of_accepts_among (by interval_cases low <;> decide) accepted

/-! The digits of a number, at most three. -/

theorem toDigits_one {value : Nat} (below : value < 10) : Nat.toDigits 10 value = [digit value] :=
  Nat.toDigits_of_lt_base below

theorem toDigits_two {value : Nat} (above : 10 ≤ value) (below : value < 100) :
    Nat.toDigits 10 value = [digit (value / 10), digit (value % 10)] := by
  rw [Nat.toDigits_of_base_le (by decide) above, toDigits_one (by omega)]
  rfl

theorem toDigits_three {value : Nat} (above : 100 ≤ value) (below : value < 1000) :
    Nat.toDigits 10 value = [digit (value / 100), digit (value / 10 % 10), digit (value % 10)] := by
  rw [Nat.toDigits_of_base_le (by decide) (by omega), toDigits_two (by omega) (by omega), Nat.div_div_eq_div_mul]
  rfl

/-! The rows on the digits of a number. -/

section Numbers

variable {threshold value tens ones b c : Nat}

theorem three_le_of_mem_rows (above : 100 ≤ threshold) : ∀ row ∈ rows threshold, 3 ≤ row.length := by
  unfold rows hundredRows
  split_ifs
  all_goals first | omega | simp

theorem two_le_of_mem_rows (above : 10 ≤ threshold) : ∀ row ∈ rows threshold, 2 ≤ row.length := by
  unfold rows hundredRows tenRows
  split_ifs
  all_goals first | omega | simp

theorem exists_numeric_of_mem_rows (asks : 1 ≤ threshold) :
    ∀ row ∈ rows threshold, ∃ kind rest, row = kind :: rest ∧ Numeric kind := by
  unfold rows hundredRows tenRows
  split_ifs
  all_goals
    simp (disch := omega) [numeric_exactly, numeric_digit, numeric_digitFrom, digit, Nat.isDigit_digitChar]
  all_goals omega

theorem ends_hundredRows (some : 1 ≤ tens ∨ 1 ≤ ones) (singleTens : tens ≤ 9) (singleOnes : ones ≤ 9)
    (singleB : b ≤ 9) (singleC : c ≤ 9) :
    (∃ row ∈ hundredRows tens ones, Ends row [digit 1, digit b, digit c]) ↔ 10 * tens + ones ≤ 10 * b + c := by
  unfold hundredRows
  split_ifs with noOnes noTens nineTens
  all_goals
    simp (disch := omega) [ends_iff, Matches, accepts_digitFrom, accepts_digit, accepts_any, accepts_exactly]
    omega

theorem ends_tenRows_two (someTens : 1 ≤ tens) (singleTens : tens ≤ 9) (singleOnes : ones ≤ 9)
    (singleB : b ≤ 9) (singleC : c ≤ 9) :
    (∃ row ∈ tenRows tens ones, Ends row [digit b, digit c]) ↔ 10 * tens + ones ≤ 10 * b + c := by
  unfold tenRows
  split_ifs with noOnes nineTens
  all_goals
    simp (disch := omega) [ends_iff, Matches, accepts_digitFrom, accepts_any, accepts_exactly, digitChar_eq_digit]
    omega

theorem ends_tenRows_three (singleB : b ≤ 9) (singleC : c ≤ 9) :
    ∃ row ∈ tenRows tens ones, Ends row [digit 1, digit b, digit c] := by
  have found : [Letter.exactly '1', .any, .any] ∈ tenRows tens ones := by
    unfold tenRows
    split_ifs <;> simp
  exact ⟨_, found, Matches.ends
    (.cons (accepts_exactly.mpr rfl) (.cons (accepts_any singleB) (.cons (accepts_any singleC) .nil)))⟩

theorem ends_rows_one (asks : 1 ≤ threshold) (single : value < 10) :
    (∃ row ∈ rows threshold, Ends row (Nat.toDigits 10 value)) ↔ threshold ≤ value := by
  rw [toDigits_one single]
  by_cases double : 10 ≤ threshold
  -- All rows are longer than the number.
  · refine iff_of_false ?_ (by omega)
    rintro ⟨row, found, ends⟩
    exact absurd ends.length_le (Nat.not_le_of_lt (two_le_of_mem_rows double row found))
  · unfold rows
    split_ifs
    all_goals first | omega | simp (disch := omega) [ends_iff, Matches, accepts_digitFrom]

theorem ends_rows_two (asks : 1 ≤ threshold) (above : 10 ≤ value) (below : value < 100) :
    (∃ row ∈ rows threshold, Ends row (Nat.toDigits 10 value)) ↔ threshold ≤ value := by
  have singleB : value / 10 ≤ 9 := by omega
  have singleC : value % 10 ≤ 9 := by omega
  rw [toDigits_two above below]
  by_cases triple : 100 ≤ threshold
  · refine iff_of_false ?_ (by omega)
    rintro ⟨row, found, ends⟩
    exact absurd ends.length_le (Nat.not_le_of_lt (three_le_of_mem_rows triple row found))
  · unfold rows
    split_ifs with _ _ _ double
    all_goals try omega
    · rw [ends_tenRows_two (by omega) (by omega) (by omega) singleB singleC]
      omega
    -- A threshold of one digit is not more than any number of two.
    · have whole : Matches [.digit, .any] [digit (value / 10), digit (value % 10)] :=
        .cons (accepts_digit singleB) (.cons (accepts_any singleC) .nil)
      exact iff_of_true ⟨_, by simp, whole.ends⟩ (by omega)

theorem ends_rows_three (asks : 1 ≤ threshold) (above : 100 ≤ value) (below : value < 200) :
    (∃ row ∈ rows threshold, Ends row (Nat.toDigits 10 value)) ↔ threshold ≤ value := by
  have singleB : value / 10 % 10 ≤ 9 := by omega
  have singleC : value % 10 ≤ 9 := by omega
  rw [toDigits_three above (by omega), show value / 100 = 1 by omega]
  unfold rows
  split_ifs with most more hundred double
  · simp [ends_iff, Matches, accepts_exactly]
    omega
  · rw [ends_hundredRows (by omega) (by omega) (by omega) singleB singleC]
    omega
  · simp [ends_iff, Matches, accepts_digit, singleB, singleC]
    omega
  · exact iff_of_true (ends_tenRows_three singleB singleC) (by omega)
  · have whole : Matches [.digit, .any, .any] [digit 1, digit (value / 10 % 10), digit (value % 10)] :=
      .cons (accepts_digit (by decide)) (.cons (accepts_any singleB) (.cons (accepts_any singleC) .nil))
    exact iff_of_true ⟨_, by simp, whole.ends⟩ (by omega)

/-- Below 200, rows of a threshold stand at the end of just the numbers from it on. -/
theorem ends_rows_iff (asks : 1 ≤ threshold) (small : value ≤ 199) :
    (∃ row ∈ rows threshold, Ends row (Nat.toDigits 10 value)) ↔ threshold ≤ value := by
  rcases Nat.lt_or_ge value 10 with single | double
  · exact ends_rows_one asks single
  rcases Nat.lt_or_ge value 100 with below | triple
  · exact ends_rows_two asks double below
  · exact ends_rows_three asks triple (Nat.lt_succ_of_le small)

end Numbers

end ItemQuery.Pattern
