import ItemQuery.Json.Decoder
import ItemQuery.Proofs.Binary64.Rounding

/-! Numbers that are read as the nearest one.

A whole number that fits 64 bits is rounded once. So is a decimal whose digits fit 53 bits
and are scaled by at most 22 powers of ten, since both the digits and the power are numbers
without rounding. Other literals are rounded more than once and may miss the nearest number.
-/

set_option autoImplicit false

namespace ItemQuery.Json.Literal

open Binary64

def number (start : Nat) (digits : List Nat) : Nat := digits.foldl (fun n d => 10 * n + d) start

theorem le_number (start : Nat) (digits : List Nat) : start ≤ number start digits := by
  induction digits generalizing start with
  | nil => exact Nat.le_refl start
  | cons d rest ih => exact (by omega : start ≤ 10 * start + d).trans (ih _)

theorem absorb_of_lt {start : Nat} {digits : List Nat} (fits : number start digits < 2 ^ 64) :
    absorb start digits = (number start digits, []) := by
  induction digits generalizing start with
  | nil => rfl
  | cons d rest ih =>
    have here : 10 * start + d < 0x10000000000000000 := (le_number _ rest).trans_lt fits
    rw [absorb, if_pos here, ih fits]
    rfl

variable (literal : Literal)

def significand : Nat := number (number 0 literal.whole) literal.fraction

def shift : Int :=
  match literal.exponent? with
  | none => 0
  | some ⟨negative, digits⟩ => if negative then -(number 0 digits : Int) else number 0 digits

/-- The power of ten for all digits as one number: what stands behind the point moves the exponent. -/
def scale : Int := literal.shift - literal.fraction.length

def IsWhole : Prop := literal.fraction = [] ∧ literal.exponent? = none

instance : Decidable literal.IsWhole := inferInstanceAs (Decidable (_ ∧ _))

/-- Few enough digits, and a small enough power, to be read without a second rounding. -/
structure Exact : Prop where
  fits : literal.significand < if literal.IsWhole then 2 ^ 64 else 2 ^ 53
  held : literal.shift.natAbs ≤ exponentLimit
  scaled : literal.scale.natAbs ≤ 22

/-! What the literal says, without its sign, as a ratio. -/

def num : Nat := literal.significand * 10 ^ literal.scale.toNat

def den : Nat := 10 ^ (-literal.scale).toNat

def signed (size : Binary64) : Binary64 := if literal.negative then size.neg else size

variable {literal}

theorem units_powerOfTen : ∀ places < 23, (powerOfTen places).units = 10 ^ places * one := by
  decide +kernel

theorem scale?_of_places {significand places : Nat} (small : significand < 2 ^ 53) (some : 0 < places)
    (few : places ≤ 22) : scale? significand (-places) = Option.some (ofRatio significand (10 ^ places)) := by
  have divided : (Binary64.ofNat significand).divSize (powerOfTen places) = ofRatio significand (10 ^ places) := by
    rw [divSize, units_ofNat small, units_powerOfTen places (by omega)]
    exact ofRatio_mul_right (by decide +kernel) _ _
  have steps : (places - 1) / 308 = 0 := by omega
  simp only [scale?, Int.natAbs_neg, Int.natAbs_natCast, steps, shrink, Nat.mul_zero, Nat.sub_zero, divided]
  rw [if_neg (by omega), if_neg (by omega)]

theorem scale?_of_zeros {significand zeros : Nat} (small : significand < 2 ^ 53) (few : zeros ≤ 22)
    (finite : (ofRatio (significand * 10 ^ zeros) 1).isInfinite = false) :
    scale? significand zeros = some (ofRatio (significand * 10 ^ zeros) 1) := by
  have product : (Binary64.ofNat significand).mulSize (powerOfTen zeros) = ofRatio (significand * 10 ^ zeros) 1 := by
    have units : significand * one * (10 ^ zeros * one) = significand * 10 ^ zeros * (one * one) := by ring
    have unit : 0 < one * one := by decide +kernel
    rw [mulSize, units_ofNat small, units_powerOfTen zeros (by omega), units]
    simpa only [Nat.one_mul] using ofRatio_mul_right unit (significand * 10 ^ zeros) 1
  simp only [scale?, Int.toNat_natCast, product, finite]
  rw [if_neg (by omega), if_pos (by omega)]
  rfl

theorem scale?_of_exact (small : literal.significand < 2 ^ 53) (scaled : literal.scale.natAbs ≤ 22)
    (finite : (ofRatio literal.num literal.den).isInfinite = false) :
    scale? literal.significand literal.scale = some (ofRatio literal.num literal.den) := by
  unfold num den at finite ⊢
  generalize literal.scale = scale at scaled finite ⊢
  cases scale with
  | ofNat zeros =>
    have none : (-(zeros : Int)).toNat = 0 := Int.toNat_neg_natCast zeros
    simp only [Int.ofNat_eq_natCast, Int.toNat_natCast, none, Nat.pow_zero] at scaled finite ⊢
    exact scale?_of_zeros small scaled finite
  | negSucc places =>
    rw [Int.toNat_negSucc, Int.neg_negSucc, Int.toNat_natCast, Nat.pow_zero, Nat.mul_one]
    exact scale?_of_places small places.succ_pos scaled

/-- An exponent that can be held moves the point. -/
theorem real?_of_held (held : literal.shift.natAbs ≤ exponentLimit) (significand : Nat) :
    real? significand (-(literal.fraction.length : Int)) literal.exponent? = scale? significand literal.scale := by
  obtain ⟨sign, whole, fraction, none | ⟨negative, digits⟩⟩ := literal
  · simp only [real?, scale, shift, Int.zero_sub]
  · have size : ¬exponentLimit < number 0 digits := by
      cases negative <;> simpa [shift] using held
    have moved : (if negative then -(fraction.length : Int) - number 0 digits else -fraction.length + number 0 digits) =
        (if negative then -(number 0 digits : Int) else number 0 digits) - fraction.length := by
      split <;> omega
    exact (if_neg size).trans (congrArg (scale? significand) moved)

theorem scalar?_of_whole (exact : literal.Exact) (isWhole : literal.IsWhole) :
    ∃ scalar, literal.scalar? = some scalar ∧
      Decoder.real.view (.scalar scalar) = .ok (literal.signed (ofRatio literal.significand 1)) := by
  have ⟨whole, plain⟩ := isWhole
  have fits := exact.fits
  rw [if_pos isWhole] at fits
  have digits : literal.significand = number 0 literal.whole := by rw [significand, whole]; rfl
  have read := absorb_of_lt (digits ▸ fits)
  simp only [scalar?, read, whole, plain, ← digits, signed, List.isEmpty_nil, Option.isNone_none,
    Bool.and_self, if_true]
  cases literal.negative with
  | false => exact ⟨_, rfl, rfl⟩
  | true =>
    simp only [Bool.not_true, if_true, Bool.false_eq_true, if_false]
    -- Zero, and what does not fit with its sign, is a real number from the start. The rest is rounded when it is taken.
    split
    · exact ⟨_, rfl, rfl⟩
    · next some =>
      have below : (-(literal.significand : Int)) < 0 := by omega
      refine ⟨_, rfl, congrArg Except.ok ?_⟩
      rw [if_pos below, Int.natAbs_neg, Int.natAbs_natCast]
      rfl

theorem scalar?_of_decimal (exact : literal.Exact) (decimal : ¬literal.IsWhole)
    (finite : (ofRatio literal.num literal.den).isInfinite = false) :
    literal.scalar? = some (.real (literal.signed (ofRatio literal.num literal.den))) := by
  have fits := exact.fits
  rw [if_neg decimal] at fits
  have wide : literal.significand < 2 ^ 64 := fits.trans (by decide)
  have whole := absorb_of_lt ((le_number _ literal.fraction).trans_lt wide)
  have fraction : absorb (number 0 literal.whole) literal.fraction = (literal.significand, []) := absorb_of_lt wide
  have places : ((0 : Nat) : Int) - ((literal.fraction.length - 0 : Nat) : Int) = -(literal.fraction.length : Int) := by
    omega
  have shown : (literal.fraction.isEmpty && literal.exponent?.isNone) = false := by
    simpa [IsWhole, ← Bool.not_eq_true] using decimal
  simp only [scalar?, whole, fraction, List.isEmpty_nil, Bool.true_and, shown, Bool.false_eq_true, if_false,
    List.length_nil, places, real?_of_held exact.held, scale?_of_exact fits exact.scaled finite, Option.map_some, signed]

/-- The number is the nearest one to what the literal says, which has not too many digits. -/
structure Shows (literal : Literal) (x : Binary64) : Prop where
  exact : literal.Exact
  sign : x.isNegative = literal.negative
  finite : x.magnitude < infiniteMagnitude
  nearest : Nearest (literal.num * one) literal.den x.magnitude

theorem Shows.ofRatio_eq {x : Binary64} (shows : literal.Shows x) :
    ofRatio literal.num literal.den = ofMagnitude x.magnitude :=
  ofRatio_eq_of_nearest (Nat.pow_pos (by decide)) shows.finite shows.nearest

theorem Shows.signed_eq {x : Binary64} (shows : literal.Shows x) :
    literal.signed (ofRatio literal.num literal.den) = x := by
  rw [shows.ofRatio_eq, signed, ← shows.sign]
  split
  · next negative => exact neg_ofMagnitude_magnitude negative
  · next unsigned => exact ofMagnitude_magnitude (Bool.eq_false_iff.mpr unsigned)

theorem Shows.isInfinite_eq {x : Binary64} (shows : literal.Shows x) :
    (ofRatio literal.num literal.den).isInfinite = false := by
  have small : x.magnitude < 0x8000000000000000 := shows.finite.trans (by decide)
  rw [shows.ofRatio_eq, isInfinite, magnitude_ofMagnitude small]
  exact beq_false_of_ne shows.finite.ne

/-- The number that a literal shows is the number that is read. -/
theorem Shows.exists_scalar {x : Binary64} (shows : literal.Shows x) :
    ∃ scalar, literal.scalar? = some scalar ∧ Decoder.real.view (.scalar scalar) = .ok x := by
  have rounded := shows.signed_eq
  by_cases isWhole : literal.IsWhole
  · have ⟨whole, plain⟩ := isWhole
    have unscaled : literal.scale = 0 := by simp [scale, shift, whole, plain]
    rw [num, den, unscaled, Int.neg_zero, Int.toNat_zero, Nat.pow_zero, Nat.mul_one] at rounded
    exact rounded ▸ scalar?_of_whole shows.exact isWhole
  · exact ⟨_, scalar?_of_decimal shows.exact isWhole shows.isInfinite_eq, by rw [rounded]; rfl⟩

end ItemQuery.Json.Literal
