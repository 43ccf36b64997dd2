import Mathlib.Data.Nat.Digits.Defs
import ItemQuery.Clause
import ItemQuery.Proofs.Pattern.Rows

/-! What a least value comes to.

Numbers of 32 bits stay at the largest one instead of starting over, so the number that is
read from a text is the number that its digits write, cut off once. Patterns tell numbers
apart only below 200. So the cut is never seen in a pattern, nor in a query.
-/

set_option autoImplicit false

namespace ItemQuery

namespace Pattern

theorem atLeast_of_large {threshold : Nat} (large : 200 ≤ threshold) : atLeast threshold = ['2', '.', '.'] := by
  rw [atLeast, if_neg (by omega), if_pos large]

/-- All numbers from 200 on have one pattern, so it makes no difference where they are cut off. -/
theorem atLeast_min {most : Nat} (large : 200 ≤ most) (threshold : Nat) :
    atLeast (min threshold most) = atLeast threshold := by
  by_cases below : threshold ≤ most
  · rw [min_eq_left below]
  · have above : most ≤ threshold := by omega
    rw [min_eq_right above, atLeast_of_large large, atLeast_of_large (large.trans above)]

end Pattern

namespace Minimum

def written (text : List Char) : Nat :=
  Nat.ofDigits 10 ((text.filter Char.isDigit).map fun c => c.toNat - '0'.toNat).reverse

/-- The number that is asked for, without any bound. -/
def exact (minimum : Minimum) : Nat :=
  if minimum.relax then 10 * (written minimum.digits.toList / 10) else written minimum.digits.toList

section Words

/-- What fits is exact, anything else is the largest number. -/
theorem toNat_cut {result : Nat} {word : UInt32} (exact : result < 2 ^ 32 → word.toNat = result) :
    (if result ≤ largest.toNat then word else largest).toNat = min result (2 ^ 32 - 1) := by
  have most : largest.toNat = 2 ^ 32 - 1 := rfl
  rw [most]
  split
  · next fits => rw [exact (by omega), min_eq_left fits]
  · next exceeds => rw [most, min_eq_right (by omega)]

theorem toNat_times (n factor : UInt32) : (times n factor).toNat = min (n.toNat * factor.toNat) (2 ^ 32 - 1) :=
  toNat_cut fun fits => by rw [UInt32.toNat_mul, Nat.mod_eq_of_lt fits]

theorem toNat_plus (n more : UInt32) : (plus n more).toNat = min (n.toNat + more.toNat) (2 ^ 32 - 1) :=
  toNat_cut fun fits => by rw [UInt32.toNat_add, Nat.mod_eq_of_lt fits]

theorem toNat_roundDown (n : UInt32) : (roundDown n).toNat = 10 * (n.toNat / 10) := by
  have := n.toNat_lt
  rw [roundDown, UInt32.toNat_mul, UInt32.toNat_div, Nat.mod_eq_of_lt]
  · exact Nat.mul_comm _ _
  · change n.toNat / 10 * 10 < 2 ^ 32
    omega

end Words

section Digits

variable {c : Char} {d : UInt32}

theorem isDigit_iff : c.isDigit = true ↔ '0' ≤ c ∧ c ≤ '9' := by
  simp [Char.isDigit, Char.le_def]

theorem decimal?_of_not_isDigit (other : c.isDigit = false) : decimal? c = none := by
  rw [decimal?, if_neg (by simp [← isDigit_iff, other])]

theorem exists_decimal? (digit : c.isDigit = true) : ∃ d, decimal? c = some d ∧ d.toNat = c.toNat - '0'.toNat := by
  have range := isDigit_iff.mp digit
  refine ⟨_, if_pos range, UInt32.toNat_sub_of_le _ _ range.1⟩

theorem written_concat_of_digit (text : List Char) (digit : c.isDigit = true) :
    written (text ++ [c]) = 10 * written text + (c.toNat - '0'.toNat) := by
  rw [written, List.filter_append, List.filter_cons_of_pos digit, List.filter_nil, List.map_append, List.map_singleton,
    List.reverse_concat, Nat.ofDigits_cons, Nat.add_comm]
  rfl

theorem written_concat_of_other (text : List Char) (other : c.isDigit = false) :
    written (text ++ [c]) = written text := by
  rw [written, List.filter_append, List.filter_cons_of_neg (by simp [other]), List.filter_nil, List.append_nil, written]

theorem number_concat_of_digit (text : List Char) (digit : decimal? c = some d) :
    number (text ++ [c]) = plus (times (number text) 10) d := by
  rw [number, List.filterMap_append, List.filterMap_cons_some digit, List.filterMap_nil, List.foldl_concat, number]

theorem number_concat_of_other (text : List Char) (other : decimal? c = none) : number (text ++ [c]) = number text := by
  rw [number, List.filterMap_append, List.filterMap_cons_none other, List.filterMap_nil, List.append_nil, number]

end Digits

/-- Cutting a number off before a digit is appended to it is as good as cutting it off afterwards. -/
theorem toNat_plus_times {n d : UInt32} {whole : Nat} (cut : n.toNat = min whole (2 ^ 32 - 1)) :
    (plus (times n 10) d).toNat = min (10 * whole + d.toNat) (2 ^ 32 - 1) := by
  have ten : UInt32.toNat 10 = 10 := rfl
  rw [toNat_plus, toNat_times, cut, ten]
  omega

theorem toNat_number (text : List Char) : (number text).toNat = min (written text) (2 ^ 32 - 1) := by
  induction text using List.reverseRecOn with
  | nil => rfl
  | append_singleton text c ih =>
    cases digit : c.isDigit with
    | true =>
      obtain ⟨d, found, value⟩ := exists_decimal? digit
      rw [number_concat_of_digit text found, written_concat_of_digit text digit, toNat_plus_times ih, value]
    | false =>
      rw [number_concat_of_other text (decimal?_of_not_isDigit digit), written_concat_of_other text digit, ih]

theorem threshold_eq (minimum : Minimum) : minimum.threshold =
    if minimum.relax then 10 * (min (written minimum.digits.toList) (2 ^ 32 - 1) / 10)
    else min (written minimum.digits.toList) (2 ^ 32 - 1) := by
  unfold threshold
  cases minimum.relax with
  | true => exact (toNat_roundDown _).trans (by rw [toNat_number, if_pos rfl])
  | false => exact toNat_number _

theorem pattern_eq (minimum : Minimum) : minimum.pattern = Pattern.atLeast minimum.exact := by
  rw [pattern, threshold_eq, exact]
  cases minimum.relax with
  | true =>
    -- Rounding keeps the order, so the cut may be made after it.
    have later (n : Nat) : 10 * (min n (2 ^ 32 - 1) / 10) = min (10 * (n / 10)) (10 * ((2 ^ 32 - 1) / 10)) := by omega
    rw [if_pos rfl, if_pos rfl, later, Pattern.atLeast_min (by decide)]
  | false => exact Pattern.atLeast_min (by decide) _

theorem clause_eq (minimum : Minimum) (lead : List Char) : Clause.atLeast lead minimum =
    if minimum.exact = 0 then [] else [.quoted (lead ++ Pattern.atLeast minimum.exact ++ ['%'])] := by
  rw [Clause.atLeast, pattern_eq]
  by_cases none : minimum.exact = 0
  · rw [none]
    rfl
  · rw [Pattern.isEmpty_atLeast (Nat.pos_of_ne_zero none), if_neg Bool.false_ne_true, if_neg none]

theorem query_quantity_congr {minimum other : Minimum} (same : other.exact = minimum.exact) (modifiers : MapModifiers)
    (settings : Settings) :
    modifiers.query { settings with quantity := other } = modifiers.query { settings with quantity := minimum } := by
  simp only [MapModifiers.query, MapModifiers.groups, clause_eq, same]

theorem query_packSize_congr {minimum other : Minimum} (same : other.exact = minimum.exact) (modifiers : MapModifiers)
    (settings : Settings) :
    modifiers.query { settings with packSize := other } = modifiers.query { settings with packSize := minimum } := by
  simp only [MapModifiers.query, MapModifiers.groups, clause_eq, same]

/-- No step of reading a number starts over: it is exact, or it stays at the largest number. So the threshold is the
number that the digits write, cut off at 32 bits and then rounded. Patterns, clauses and queries are those of the
number as it is written. -/
theorem threshold_exact (minimum : Minimum) :
    (∀ before c after d, minimum.digits.toList = before ++ c :: after → decimal? c = some d →
      number (before ++ [c]) = plus (times (number before) 10) d ∧
        (times (number before) 10).toNat = min (10 * (number before).toNat) (2 ^ 32 - 1) ∧
        (number (before ++ [c])).toNat = min ((times (number before) 10).toNat + d.toNat) (2 ^ 32 - 1) ∧
        (number (before ++ [c])).toNat = min (written (before ++ [c])) (2 ^ 32 - 1)) ∧
    (minimum.threshold = if minimum.relax then 10 * (min (written minimum.digits.toList) (2 ^ 32 - 1) / 10)
      else min (written minimum.digits.toList) (2 ^ 32 - 1)) ∧
    minimum.pattern = Pattern.atLeast minimum.exact ∧
    (∀ lead, Clause.atLeast lead minimum =
      if minimum.exact = 0 then [] else [.quoted (lead ++ Pattern.atLeast minimum.exact ++ ['%'])]) ∧
    ∀ (other : Minimum), other.exact = minimum.exact → ∀ (modifiers : MapModifiers) (settings : Settings),
      modifiers.query { settings with quantity := other } = modifiers.query { settings with quantity := minimum } ∧
      modifiers.query { settings with packSize := other } = modifiers.query { settings with packSize := minimum } := by
  refine ⟨fun before c after d _ digit => ?_, minimum.threshold_eq, minimum.pattern_eq, minimum.clause_eq,
    fun other same modifiers settings =>
      ⟨query_quantity_congr same modifiers settings, query_packSize_congr same modifiers settings⟩⟩
  have appended := number_concat_of_digit before digit
  refine ⟨appended, ?_, by rw [appended, toNat_plus], toNat_number _⟩
  rw [toNat_times, Nat.mul_comm]
  rfl

/-- A number past 32 bits, with a leading zero and a digit of another script that do not count. -/
def overlong : Minimum := ⟨"+0\uff1142949672969x", true⟩

theorem threshold_exact_overlong :
    (number ['+', '0', '\uff11', '4', '2', '9', '4', '9', '6', '7', '2', '9', '6', '9']).toNat = 2 ^ 32 - 1 ∧
      overlong.threshold = 4294967290 ∧ overlong.pattern = ['2', '.', '.'] ∧
      MapModifiers.query {} { quantity := ⟨"42949672960", false⟩ } = MapModifiers.query {} { quantity := overlong } := by
  have same : Minimum.exact ⟨"42949672960", false⟩ = overlong.exact := by decide
  obtain ⟨steps, threshold, pattern, -, queries⟩ := threshold_exact overlong
  obtain ⟨-, -, -, cut⟩ :=
    steps ['+', '0', '\uff11', '4', '2', '9', '4', '9', '6', '7', '2', '9', '6'] '9' ['x'] 9 (by decide) (by decide)
  exact ⟨cut.trans (by decide), threshold.trans (by decide), pattern.trans (by decide), (queries _ same {} {}).1⟩

end Minimum

end ItemQuery
