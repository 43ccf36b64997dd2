import ItemQuery.Proofs.Binary64

/-! The total order by rules: numbers go by value, and what is not a number lies outside them.

The order is worked out on the bits. Read as a sign and a magnitude these give the exact
values and the places of zeros, infinities and not-a-numbers, so that the order on the bits
is the one that IEEE 754 describes.
-/

set_option autoImplicit false

namespace ItemQuery.Binary64

/-- Numbers go by value, with negative zero below zero. What is not a number lies below all numbers or above them by
its sign, and further out the greater its magnitude is. -/
def Below (x y : Binary64) : Prop :=
  match x.value?, y.value? with
  | some less, some greater => less < greater ∨ less = greater ∧ x.isNegative = true ∧ y.isNegative = false
  | none, some _ => x.isNegative = true
  | some _, none => y.isNegative = false
  | none, none =>
    if x.isNegative = y.isNegative then
      if x.isNegative then y.magnitude < x.magnitude else x.magnitude < y.magnitude
    else x.isNegative = true

variable {x y : Binary64}

theorem totalCompare_lt_iff_rank : totalCompare x y = .lt ↔ x.rank.toNat < y.rank.toNat :=
  Std.compare_eq_lt.trans UInt64.lt_iff_toNat_lt

theorem rank_lt_iff :
    x.rank.toNat < y.rank.toNat ↔
      if x.isNegative = y.isNegative then
        if x.isNegative then y.magnitude < x.magnitude else x.magnitude < y.magnitude
      else x.isNegative = true := by
  have boundX : x.magnitude < 0x8000000000000000 := Nat.mod_lt _ (by decide)
  have boundY : y.magnitude < 0x8000000000000000 := Nat.mod_lt _ (by decide)
  rw [rank_toNat, rank_toNat]
  cases x.isNegative <;> cases y.isNegative <;> simp <;> omega

theorem magnitude_lt_of_isNaN (number : x.isNaN = false) (other : y.isNaN = true) : x.magnitude < y.magnitude := by
  have low : ¬infiniteMagnitude < x.magnitude := of_decide_eq_false number
  have high : infiniteMagnitude < y.magnitude := of_decide_eq_true other
  omega

theorem totalCompare_lt_iff : totalCompare x y = .lt ↔ x.Below y := by
  rw [totalCompare_lt_iff_rank, rank_lt_iff]
  unfold Below value?
  cases numberX : x.isNaN with
  | false =>
    cases numberY : y.isNaN with
    | false =>
      -- Numbers of one sign compare as their units do, and numbers of different signs by the sign.
      have less : x.units < y.units ↔ x.magnitude < y.magnitude := unitsOf_strictMono.lt_iff_lt
      have greater : y.units < x.units ↔ y.magnitude < x.magnitude := unitsOf_strictMono.lt_iff_lt
      cases x.isNegative <;> cases y.isNegative <;> simp <;> omega
    | true =>
      have outside := magnitude_lt_of_isNaN numberX numberY
      cases x.isNegative <;> cases y.isNegative <;> simp <;> omega
  | true =>
    cases numberY : y.isNaN with
    | false =>
      have outside := magnitude_lt_of_isNaN numberY numberX
      cases x.isNegative <;> cases y.isNegative <;> simp <;> omega
    | true => rfl

theorem below_of_exceeds (above : y.exceeds x) : x.Below y := by
  obtain ⟨greater, less, greaterValue, lessValue, strictly⟩ := exceeds_iff.mp above
  unfold Below
  rw [greaterValue, lessValue]
  exact Or.inl strictly

/-- Among numbers without a sign, the order goes by value alone. -/
theorem Unsigned.totalCompare_lt_iff_exceeds (first : x.Unsigned) (second : y.Unsigned) :
    totalCompare x y = .lt ↔ y.exceeds x := by
  rw [totalCompare_lt_iff]
  refine ⟨fun below => ?_, below_of_exceeds⟩
  unfold Below at below
  rw [first.value?_eq, second.value?_eq] at below
  unfold exceeds
  rw [first.value?_eq, second.value?_eq]
  simpa [first.isNegative_eq] using below

theorem Unsigned.eq_of_value (first : x.Unsigned) (second : y.Unsigned) (same : x.value? = y.value?) : x = y := by
  rw [first.value?_eq, second.value?_eq, Option.some_inj, Int.natCast_inj] at same
  have magnitudes : x.magnitude = y.magnitude := unitsOf_strictMono.injective same
  have ranks : x.rank.toNat = y.rank.toNat := by rw [first.rank_eq, second.rank_eq, magnitudes]
  exact rank_injective (UInt64.toNat_inj.mp ranks)

theorem Unsigned.totalCompare_eq_iff_value (first : x.Unsigned) (second : y.Unsigned) :
    totalCompare x y = .eq ↔ x.value? = y.value? :=
  totalCompare_eq_iff.trans ⟨congrArg value?, first.eq_of_value second⟩

theorem exists_value (number : x.isNaN = false) : ∃ value, x.value? = some value := by
  unfold value?
  simp [number]

/-- A number that does not exceed a bound is below all that do. -/
theorem exceeds_of_exceeds {bound : Binary64} (above : y.exceeds bound) (number : x.isNaN = false)
    (within : x.exceeds bound = false) : y.exceeds x := by
  obtain ⟨greater, limit, greaterValue, limitValue, strictly⟩ := exceeds_iff.mp above
  obtain ⟨value, same⟩ := exists_value number
  unfold exceeds at within ⊢
  simp only [same, limitValue, greaterValue, decide_eq_false_iff_not, decide_eq_true_eq] at within ⊢
  omega

end ItemQuery.Binary64
