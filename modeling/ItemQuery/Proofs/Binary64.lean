import Mathlib.Order.Monotone.Basic
import ItemQuery.Binary64.Basic

/-! Numeric order and total order: they agree on the numbers without a sign.

A greater magnitude stands for more units, so among numbers without a sign comparing
positions, magnitudes or exact values comes to the same.
-/

set_option autoImplicit false

namespace ItemQuery.Binary64

variable {x y : Binary64}

instance : Std.TransCmp totalCompare := inferInstanceAs (Std.TransCmp (compareOn rank))

theorem totalCompare_isLE_iff : (totalCompare x y).isLE ↔ x.rank.toNat ≤ y.rank.toNat :=
  Std.isLE_compare.trans UInt64.le_iff_toNat_le

theorem totalCompare_eq_iff : totalCompare x y = .eq ↔ x = y := by
  constructor
  · intro same
    exact rank_injective (Std.LawfulEqCmp.eq_of_compare same)
  · rintro rfl
    exact Std.ReflCmp.compare_self

theorem unitsOf_subnormal {magnitude : Nat} (small : magnitude < binade) : unitsOf magnitude = magnitude := if_pos small

theorem unitsOf_normal {exponent fraction : Nat} (small : fraction < binade) :
    unitsOf (binade * (exponent + 1) + fraction) = (fraction + binade) <<< exponent := by
  have positive : 0 < binade := by decide
  have normal : ¬binade * (exponent + 1) + fraction < binade := by rw [Nat.mul_succ]; omega
  rw [unitsOf, if_neg normal, Nat.mul_add_mod, Nat.mod_eq_of_lt small, Nat.mul_add_div positive,
    Nat.div_eq_of_lt small]
  rfl

/-- From one number to the next the fraction grows; past the last fraction of a power of two the exponent does. -/
theorem unitsOf_lt_succ (magnitude : Nat) : unitsOf magnitude < unitsOf (magnitude + 1) := by
  have positive : 0 < binade := by decide
  by_cases subnormal : magnitude < binade
  · rw [unitsOf_subnormal subnormal]
    by_cases next : magnitude + 1 < binade
    · rw [unitsOf_subnormal next]
      exact Nat.lt_succ_self magnitude
    · -- The least normal number has one unit more than the greatest subnormal one.
      have least : magnitude + 1 = binade * (0 + 1) + 0 := by omega
      rw [least, unitsOf_normal positive]
      omega
  · obtain ⟨exponent, fraction, small, rfl⟩ : ∃ exponent fraction, fraction < binade ∧
        magnitude = binade * (exponent + 1) + fraction := by
      refine ⟨magnitude / binade - 1, magnitude % binade, Nat.mod_lt magnitude positive, ?_⟩
      have quotient : 1 ≤ magnitude / binade := (Nat.one_le_div_iff positive).mpr (Nat.le_of_not_lt subnormal)
      rw [Nat.sub_add_cancel quotient, Nat.div_add_mod]
    have wider {less greater : Nat} (ordered : less < greater) : less <<< exponent < greater <<< exponent := by
      rw [Nat.shiftLeft_eq, Nat.shiftLeft_eq]
      exact Nat.mul_lt_mul_of_pos_right ordered (Nat.two_pow_pos exponent)
    rw [unitsOf_normal small]
    by_cases next : fraction + 1 < binade
    · rw [Nat.add_assoc, unitsOf_normal next]
      exact wider (by omega)
    · have carried : binade * (exponent + 1) + fraction + 1 = binade * (exponent + 1 + 1) + 0 := by
        rw [Nat.mul_succ binade (exponent + 1)]
        omega
      rw [carried, unitsOf_normal positive, Nat.shiftLeft_succ_inside]
      exact wider (by omega)

theorem unitsOf_strictMono : StrictMono unitsOf := strictMono_nat_of_lt_succ unitsOf_lt_succ

/-- A number, and none below zero. -/
structure Unsigned (x : Binary64) : Prop where
  isNaN_eq : x.isNaN = false
  isNegative_eq : x.isNegative = false

namespace Unsigned

theorem value?_eq (unsigned : x.Unsigned) : x.value? = some (x.units : Int) := by
  simp [value?, unsigned.isNaN_eq, unsigned.isNegative_eq]

theorem rank_eq (unsigned : x.Unsigned) : x.rank.toNat = 0x8000000000000000 + x.magnitude := by
  simp [rank_toNat, unsigned.isNegative_eq]

theorem totalCompare_isLE_iff_units (first : x.Unsigned) (second : y.Unsigned) :
    (totalCompare x y).isLE ↔ x.units ≤ y.units := by
  rw [totalCompare_isLE_iff, first.rank_eq, second.rank_eq, units, units, unitsOf_strictMono.le_iff_le]
  omega

end Unsigned

theorem exceeds_iff : x.exceeds y ↔ ∃ greater less, x.value? = some greater ∧ y.value? = some less ∧ less < greater := by
  unfold exceeds
  cases x.value? <;> cases y.value? <;> simp

/-- At least as great numerically, false as soon as one side is not a number. -/
def reaches (x y : Binary64) : Bool :=
  match x.value?, y.value? with
  | some a, some b => decide (b ≤ a)
  | _, _ => false

theorem reaches_iff : x.reaches y ↔ ∃ greater less, x.value? = some greater ∧ y.value? = some less ∧ less ≤ greater := by
  unfold reaches
  cases x.value? <;> cases y.value? <;> simp

theorem Unsigned.reaches_iff_totalCompare (first : x.Unsigned) (second : y.Unsigned) :
    x.reaches y ↔ (totalCompare y x).isLE := by
  rw [second.totalCompare_isLE_iff_units first, reaches_iff, first.value?_eq, second.value?_eq]
  simp

theorem unsigned_of_exceeds (above : x.exceeds y) (unsigned : y.Unsigned) : x.Unsigned := by
  obtain ⟨greater, less, greaterValue, lessValue, strictly⟩ := exceeds_iff.mp above
  rw [unsigned.value?_eq] at lessValue
  cases lessValue
  unfold value? at greaterValue
  split at greaterValue
  · cases greaterValue
  · next number =>
    refine ⟨by simpa using number, Bool.eq_false_iff.mpr fun negative => ?_⟩
    rw [if_pos negative] at greaterValue
    cases greaterValue
    omega

end ItemQuery.Binary64
