import Mathlib.Tactic.Ring
import ItemQuery.Binary64.Rounding
import ItemQuery.Proofs.Binary64

/-! Rounding goes to the nearest number.

A ratio lies between the two points half-way to the neighbours of the number it is
rounded to, and on such a point only if the number is even. No other number has that
property, so the number is found by any account of the ratio that shows it.
-/

set_option autoImplicit false

namespace ItemQuery.Binary64

section RoundRatio

variable {num den : Nat}

/-- Twice the ratio is at most one away from twice the natural it is rounded to. -/
theorem roundRatio_spec (num : Nat) (positive : 0 < den) :
    2 * num ≤ (2 * roundRatio num den + 1) * den ∧ 2 * roundRatio num den * den ≤ 2 * num + den ∧
      (2 * num = (2 * roundRatio num den + 1) * den ∨ 2 * roundRatio num den * den = 2 * num + den →
        roundRatio num den % 2 = 0) := by
  have parts := Nat.div_add_mod num den
  have small := Nat.mod_lt num positive
  have above : (2 * (num / den) + 1) * den = 2 * (den * (num / den)) + den := by ring
  have next : (2 * (num / den + 1) + 1) * den = 2 * (den * (num / den)) + 3 * den := by ring
  have here : 2 * (num / den) * den = 2 * (den * (num / den)) := by ring
  have there : 2 * (num / den + 1) * den = 2 * (den * (num / den)) + 2 * den := by ring
  unfold roundRatio
  simp only [Bool.or_eq_true, Bool.and_eq_true, decide_eq_true_eq, beq_iff_eq]
  split <;> refine ⟨?_, ?_, ?_⟩ <;> omega

theorem div_le_roundRatio (num den : Nat) : num / den ≤ roundRatio num den := by
  unfold roundRatio
  dsimp only
  split <;> omega

theorem roundRatio_le (num den : Nat) : roundRatio num den ≤ num / den + 1 := by
  unfold roundRatio
  dsimp only
  split <;> omega

theorem roundRatio_mul_of_dvd (positive : 0 < den) (whole : den ∣ num) : roundRatio num den * den = num := by
  obtain ⟨count, rfl⟩ := whole
  rw [roundRatio, Nat.mul_mod_right, Nat.mul_div_cancel_left count positive]
  simp [positive, Nat.mul_comm]

theorem roundRatio_mul_right {factor : Nat} (positive : 0 < factor) (num den : Nat) :
    roundRatio (num * factor) (den * factor) = roundRatio num den := by
  have less {a b : Nat} : 2 * (a * factor) < b * factor ↔ 2 * a < b := by
    rw [← Nat.mul_assoc]
    exact Nat.mul_lt_mul_right positive
  have same {a b : Nat} : 2 * (a * factor) = b * factor ↔ 2 * a = b := by
    rw [← Nat.mul_assoc]
    exact Nat.mul_right_cancel_iff positive
  unfold roundRatio
  rw [Nat.mul_div_mul_right _ _ positive, Nat.mul_mod_mul_right]
  simp only [Bool.or_eq_true, Bool.and_eq_true, decide_eq_true_eq, beq_iff_eq, less, same]

end RoundRatio

/-- The magnitude with so many powers of two on top of what is kept has the units that were kept. -/
theorem unitsOf_add {exponent kept : Nat} (fits : kept ≤ 2 * binade) (normal : exponent = 0 ∨ binade ≤ kept) :
    unitsOf (exponent * binade + kept) = kept * 2 ^ exponent := by
  by_cases subnormal : kept < binade
  · obtain rfl : exponent = 0 := normal.resolve_right (by omega)
    rw [Nat.zero_mul, Nat.zero_add, unitsOf_subnormal subnormal, Nat.pow_zero, Nat.mul_one]
  by_cases full : kept = 2 * binade
  · -- The carry moves to the next power of two.
    have carried : exponent * binade + kept = binade * (exponent + 1 + 1) + 0 := by rw [full]; ring
    rw [carried, unitsOf_normal (by decide), Nat.zero_add, Nat.shiftLeft_eq, full, Nat.pow_succ]
    ring
  · obtain ⟨fraction, rfl⟩ := Nat.exists_eq_add_of_le (Nat.le_of_not_lt subnormal)
    have split : exponent * binade + (binade + fraction) = binade * (exponent + 1) + fraction := by ring
    rw [split, unitsOf_normal (by omega), Nat.shiftLeft_eq, Nat.add_comm]

/-- The ratio, in units, is no further away than half-way to the next numbers, and half-way only if
the number is even. -/
structure Nearest (num den magnitude : Nat) : Prop where
  below : (unitsOf (magnitude - 1) + unitsOf magnitude) * den ≤ 2 * num
  above : 2 * num ≤ (unitsOf magnitude + unitsOf (magnitude + 1)) * den
  even : (unitsOf (magnitude - 1) + unitsOf magnitude) * den = 2 * num ∨
    2 * num = (unitsOf magnitude + unitsOf (magnitude + 1)) * den → magnitude % 2 = 0

namespace Nearest

variable {num den : Nat}

theorem le {first second : Nat} (positive : 0 < den) (isFirst : Nearest num den first)
    (isSecond : Nearest num den second) : first ≤ second := by
  by_contra greater
  have lower : unitsOf second ≤ unitsOf (first - 1) := unitsOf_strictMono.monotone (by omega)
  have upper : unitsOf (second + 1) ≤ unitsOf first := unitsOf_strictMono.monotone (by omega)
  have ordered : (unitsOf second + unitsOf (second + 1)) * den ≤ (unitsOf (first - 1) + unitsOf first) * den :=
    Nat.mul_le_mul_right den (Nat.add_le_add lower upper)
  have below := isFirst.below
  have above := isSecond.above
  -- The two share a half-way point, so they are neighbours, and both even.
  have meet : (unitsOf (first - 1) + unitsOf first) * den = (unitsOf second + unitsOf (second + 1)) * den := by omega
  have sums := Nat.eq_of_mul_eq_mul_right positive meet
  have neighbours : second = first - 1 := unitsOf_strictMono.injective (by omega)
  have evenFirst := isFirst.even (by omega)
  have evenSecond := isSecond.even (by omega)
  omega

theorem unique {first second : Nat} (positive : 0 < den) (isFirst : Nearest num den first)
    (isSecond : Nearest num den second) : first = second :=
  Nat.le_antisymm (isFirst.le positive isSecond) (isSecond.le positive isFirst)

end Nearest

section Kept

variable {num den exponent kept : Nat}

theorem le_unitsOf_succ (fits : kept ≤ 2 * binade) (normal : exponent = 0 ∨ binade ≤ kept) :
    (kept + 1) * 2 ^ exponent ≤ unitsOf (exponent * binade + kept + 1) := by
  by_cases full : kept = 2 * binade
  · have carried : exponent * binade + kept + 1 = (exponent + 1) * binade + (binade + 1) := by rw [full]; ring
    rw [carried, unitsOf_add (by decide) (.inr (Nat.le_succ binade)), Nat.pow_succ, ← Nat.mul_assoc, Nat.mul_right_comm]
    exact Nat.mul_le_mul_right _ (by omega)
  · rw [Nat.add_assoc, unitsOf_add (by omega) (normal.imp_right Nat.le_succ_of_le)]

theorem unitsOf_pred (fits : kept ≤ 2 * binade) (some : 0 < kept) (normal : exponent = 0 ∨ binade < kept) :
    unitsOf (exponent * binade + kept - 1) = (kept - 1) * 2 ^ exponent := by
  rw [Nat.add_sub_assoc some, unitsOf_add (by omega) (normal.imp_right (by omega))]

/-- Below a power of two the numbers lie closer together. -/
theorem unitsOf_pred_binade :
    unitsOf ((exponent + 1) * binade + binade - 1) + unitsOf ((exponent + 1) * binade + binade) <
      2 * binade * 2 ^ (exponent + 1) := by
  have before : (exponent + 1) * binade + binade - 1 = exponent * binade + (2 * binade - 1) := by
    rw [Nat.succ_mul]
    have : 0 < binade := by decide
    omega
  have power := Nat.two_pow_pos exponent
  rw [before, unitsOf_add (by decide) (.inr (by decide)), unitsOf_add (by decide) (.inr (Nat.le_refl binade)),
    Nat.pow_succ]
  simp only [binade]
  omega

/-- The ratio is at least half-way up from the number below, and half-way only if what is kept is even. -/
theorem half_below (positive : 0 < den) (fits : kept ≤ 2 * binade) (enough : exponent = 0 ∨ binade ≤ kept)
    (normal : exponent = 0 ∨ binade * (den * 2 ^ exponent) ≤ num)
    (below : 2 * kept * (den * 2 ^ exponent) ≤ 2 * num + den * 2 ^ exponent)
    (even : 2 * kept * (den * 2 ^ exponent) = 2 * num + den * 2 ^ exponent → kept % 2 = 0) :
    (unitsOf (exponent * binade + kept - 1) + unitsOf (exponent * binade + kept)) * den ≤ 2 * num ∧
      ((unitsOf (exponent * binade + kept - 1) + unitsOf (exponent * binade + kept)) * den = 2 * num →
        kept % 2 = 0) := by
  obtain none | some := Nat.eq_zero_or_pos kept
  · obtain rfl : exponent = 0 := enough.resolve_right (by rw [none]; decide)
    rw [none]
    exact ⟨by simp [unitsOf_subnormal (show 0 < binade by decide)], fun _ => rfl⟩
  by_cases least : exponent = 0 ∨ binade < kept
  · have sum : (unitsOf (exponent * binade + kept - 1) + unitsOf (exponent * binade + kept)) * den +
        den * 2 ^ exponent = 2 * kept * (den * 2 ^ exponent) := by
      obtain ⟨less, rfl⟩ := Nat.exists_eq_add_of_le' some
      rw [unitsOf_pred fits some least, unitsOf_add fits enough, Nat.add_sub_cancel]
      ring
    exact ⟨by omega, fun same => even (by omega)⟩
  -- At a power of two the number below is closer, and the ratio is not below the power.
  · obtain ⟨large, small⟩ := not_or.mp least
    obtain ⟨less, rfl⟩ := Nat.exists_eq_add_one_of_ne_zero large
    obtain rfl : kept = binade := Nat.le_antisymm (Nat.le_of_not_lt small) (enough.resolve_left large)
    have strict := Nat.mul_lt_mul_of_pos_right (@unitsOf_pred_binade less) positive
    have room : 2 * binade * 2 ^ (less + 1) * den = 2 * (binade * (den * 2 ^ (less + 1))) := by ring
    have bound := normal.resolve_left large
    exact ⟨by omega, fun same => by omega⟩

theorem half_above (den : Nat) (fits : kept ≤ 2 * binade) (enough : exponent = 0 ∨ binade ≤ kept) :
    (2 * kept + 1) * (den * 2 ^ exponent) ≤
      (unitsOf (exponent * binade + kept) + unitsOf (exponent * binade + kept + 1)) * den := by
  rw [unitsOf_add fits enough]
  calc (2 * kept + 1) * (den * 2 ^ exponent) = (kept * 2 ^ exponent + (kept + 1) * 2 ^ exponent) * den := by ring
    _ ≤ _ := Nat.mul_le_mul_right den (Nat.add_le_add_left (le_unitsOf_succ fits enough) _)

/-- The significant bits of a ratio and what they leave out make the nearest number. -/
theorem nearest_of_kept (positive : 0 < den) (rounded : kept = roundRatio num (den * 2 ^ exponent))
    (fits : kept ≤ 2 * binade) (normal : exponent = 0 ∨ binade * (den * 2 ^ exponent) ≤ num) :
    Nearest num den (exponent * binade + kept) := by
  have unitPositive : 0 < den * 2 ^ exponent := Nat.mul_pos positive (Nat.two_pow_pos exponent)
  have enough : exponent = 0 ∨ binade ≤ kept := normal.imp_right fun large =>
    rounded ▸ ((Nat.le_div_iff_mul_le unitPositive).mpr large).trans (div_le_roundRatio num _)
  obtain ⟨above, below, even⟩ := roundRatio_spec num unitPositive
  rw [← rounded] at above below even
  have previous := half_below positive fits enough normal below fun half => even (.inr half)
  have next := half_above den fits enough
  have parity : (exponent * binade + kept) % 2 = kept % 2 := by
    simp only [binade]
    omega
  refine ⟨previous.1, above.trans next, fun half => parity.trans ?_⟩
  obtain half | half := half
  · exact previous.2 half
  · exact even (.inl (by omega))

end Kept

/-- Where a ratio is cut, 53 bits are left, or all of them are. -/
theorem kept_bounds {num den exponent : Nat} (positive : 0 < den) (cut : Nat.log2 (num / den) - 52 = exponent) :
    roundRatio num (den * 2 ^ exponent) ≤ 2 * binade ∧ (exponent = 0 ∨ binade * (den * 2 ^ exponent) ≤ num) := by
  have power := Nat.two_pow_pos exponent
  have size : num / den < 2 ^ (53 + exponent) :=
    Nat.lt_log2_self.trans_le (Nat.pow_le_pow_right (by decide) (by omega))
  have quotient : num / (den * 2 ^ exponent) < 2 * binade := by
    rw [← Nat.div_div_eq_div_mul, Nat.div_lt_iff_lt_mul power]
    rwa [Nat.pow_add] at size
  refine ⟨(roundRatio_le _ _).trans quotient, ?_⟩
  obtain rfl | large := Nat.eq_zero_or_pos exponent
  · exact .inl rfl
  · have some : num / den ≠ 0 := by
      intro none
      rw [none, Nat.log2_zero] at cut
      omega
    have least : 2 ^ (52 + exponent) ≤ num / den :=
      (Nat.pow_le_pow_right (by decide) (by omega)).trans (Nat.log2_self_le some)
    refine .inr (le_trans ?_ ((Nat.le_div_iff_mul_le positive).mp least))
    rw [Nat.pow_add]
    exact (by ring : binade * (den * 2 ^ exponent) = binade * 2 ^ exponent * den).le

theorem ofRatio_eq_of_nearest {num den magnitude : Nat} (positive : 0 < den) (finite : magnitude < infiniteMagnitude)
    (nearest : Nearest (num * one) den magnitude) : ofRatio num den = ofMagnitude magnitude := by
  obtain ⟨fits, normal⟩ := kept_bounds positive (Eq.refl (Nat.log2 (num * one / den) - 52))
  have same := (nearest_of_kept positive rfl fits normal).unique positive nearest
  rw [ofRatio, Nat.shiftLeft_eq, same, Nat.min_eq_left finite.le]

theorem ofRatio_mul_right {factor : Nat} (positive : 0 < factor) (num den : Nat) :
    ofRatio (num * factor) (den * factor) = ofRatio num den := by
  have scaled : num * factor * one = num * one * factor := Nat.mul_right_comm ..
  have unit (exponent : Nat) : (den * factor) <<< exponent = den <<< exponent * factor := by
    rw [Nat.shiftLeft_eq, Nat.shiftLeft_eq, Nat.mul_right_comm]
  rw [ofRatio, scaled, Nat.mul_div_mul_right _ _ positive, unit, roundRatio_mul_right positive]
  rfl

theorem magnitude_ofMagnitude {magnitude : Nat} (small : magnitude < 0x8000000000000000) :
    (ofMagnitude magnitude).magnitude = magnitude := by
  have fits : magnitude < UInt64.size := small.trans (by decide)
  rw [ofMagnitude, Binary64.magnitude, UInt64.toNat_ofNat_of_lt' fits, Nat.mod_eq_of_lt small]

theorem ofMagnitude_magnitude {x : Binary64} (unsigned : x.isNegative = false) : ofMagnitude x.magnitude = x := by
  have positive : ¬0x8000000000000000 ≤ x.bits.toNat := by
    rw [← isNegative_iff, unsigned]
    decide
  rw [ofMagnitude, Binary64.magnitude, Nat.mod_eq_of_lt (by omega), UInt64.ofNat_toNat]

theorem neg_neg (x : Binary64) : x.neg.neg = x := by
  rw [neg, neg, UInt64.xor_assoc, UInt64.xor_self, UInt64.xor_zero]

theorem neg_ofMagnitude_magnitude {x : Binary64} (negative : x.isNegative = true) :
    (ofMagnitude x.magnitude).neg = x := by
  have low := x.isNegative_iff.mp negative
  have high := x.bits.toNat_lt
  have top : x.bits.toNat / 2 ^ 63 = 1 := by omega
  -- The sign is the top bit: without it the bits are the magnitude.
  have bits : x.neg.bits.toNat = x.magnitude := by
    have flipped : x.neg.bits.toNat = x.bits.toNat ^^^ 2 ^ 63 := UInt64.toNat_xor ..
    have cleared := Nat.xor_div_two_pow (a := x.bits.toNat) (b := 2 ^ 63) (n := 63)
    have kept := Nat.xor_mod_two_pow (a := x.bits.toNat) (b := 2 ^ 63) (n := 63)
    rw [top, Nat.div_self (Nat.two_pow_pos 63), Nat.xor_self] at cleared
    rw [Nat.mod_self, Nat.xor_zero] at kept
    rw [flipped, Binary64.magnitude]
    omega
  have unsigned : ofMagnitude x.magnitude = x.neg := by rw [ofMagnitude, ← bits, UInt64.ofNat_toNat]
  rw [unsigned, neg_neg]

theorem log2_sub_le {size scale : Nat} (bound : size < 2 ^ (53 + scale)) : Nat.log2 size - 52 ≤ scale := by
  obtain rfl | some := Nat.eq_zero_or_pos size
  · rw [Nat.log2_zero]
    exact Nat.zero_le scale
  · have below : Nat.log2 size < 53 + scale := (Nat.log2_lt some.ne').mpr bound
    omega

theorem units_ofNat {n : Nat} (small : n < 2 ^ 53) : (ofNat n).units = n * one := by
  -- The exponents go by names, so that no power is computed.
  obtain ⟨scale, scale_eq⟩ : ∃ scale, scale = 1074 := ⟨_, rfl⟩
  obtain ⟨top, top_eq⟩ : ∃ top, top = 2046 := ⟨_, rfl⟩
  have one_eq : one = 2 ^ scale := by rw [one, ← scale_eq, Nat.one_shiftLeft]
  generalize cut : Nat.log2 (n * one / 1) - 52 = exponent
  obtain ⟨fits, normal⟩ := kept_bounds Nat.one_pos cut
  rw [Nat.one_mul] at fits normal
  have bound : n * one < 2 ^ (53 + scale) := by
    rw [one_eq, Nat.pow_add]
    exact Nat.mul_lt_mul_of_pos_right small (Nat.two_pow_pos scale)
  have bits : exponent ≤ scale := by
    rw [Nat.div_one] at cut
    exact cut ▸ log2_sub_le bound
  have whole : roundRatio (n * one) (2 ^ exponent) * 2 ^ exponent = n * one := by
    refine roundRatio_mul_of_dvd (Nat.two_pow_pos exponent) ?_
    rw [one_eq]
    exact Nat.dvd_mul_left_of_dvd (Nat.pow_dvd_pow 2 bits) n
  have enough : exponent = 0 ∨ binade ≤ roundRatio (n * one) (2 ^ exponent) := normal.imp_right fun large =>
    Nat.le_of_mul_le_mul_right (large.trans whole.ge) (Nat.two_pow_pos exponent)
  have units := (unitsOf_add fits enough).trans whole
  have finite : exponent * binade + roundRatio (n * one) (2 ^ exponent) < infiniteMagnitude := by
    have last : infiniteMagnitude = top * binade + binade := by rw [top_eq]; rfl
    have power : binade = 2 ^ 52 := rfl
    rw [last, ← unitsOf_strictMono.lt_iff_lt, units, unitsOf_add (by decide) (.inr (Nat.le_refl binade)), power,
      ← Nat.pow_add]
    exact bound.trans_le (Nat.pow_le_pow_right (by decide) (by omega))
  rw [ofNat, ofRatio, cut, Nat.one_shiftLeft, Nat.min_eq_left finite.le, Binary64.units, magnitude_ofMagnitude, units]
  exact finite.trans (by decide)

end ItemQuery.Binary64
