/-! Binary floating-point numbers of 64 bits, held as their bits.

A number is a sign and a magnitude. Magnitudes run through zero, the subnormal and
the normal numbers, infinity and the not-a-numbers in order, so the total order of
IEEE 754 is the order of a 64-bit `rank`. Numeric comparison goes through the exact
value, counted in units of the least positive number.
-/

set_option autoImplicit false

namespace ItemQuery

structure Binary64 where
  bits : UInt64
  deriving DecidableEq, Repr

namespace Binary64

instance : Inhabited Binary64 := ⟨⟨0⟩⟩

def isNegative (x : Binary64) : Bool := decide (0x8000000000000000 ≤ x.bits)

/-- The number without its sign, as an index into the numbers of one sign. -/
def magnitude (x : Binary64) : Nat := x.bits.toNat % 0x8000000000000000

/-- How many numbers lie from a power of two up to the next: two to the 52nd. -/
def binade : Nat := 0x10000000000000

def infiniteMagnitude : Nat := 2047 * binade

def isNaN (x : Binary64) : Bool := decide (infiniteMagnitude < x.magnitude)

def isInfinite (x : Binary64) : Bool := x.magnitude == infiniteMagnitude

def isZero (x : Binary64) : Bool := x.magnitude == 0

def ofMagnitude (magnitude : Nat) : Binary64 := ⟨UInt64.ofNat magnitude⟩

def neg (x : Binary64) : Binary64 := ⟨x.bits ^^^ 0x8000000000000000⟩

/-- Position in the total order: negative numbers lie below the positive ones, in reverse. -/
def rank (x : Binary64) : UInt64 :=
  if x.isNegative then 0xFFFFFFFFFFFFFFFF - x.bits else x.bits + 0x8000000000000000

def totalCompare (x y : Binary64) : Ordering := compare x.rank y.rank

/-- The size of a magnitude in units of the least positive number; infinity counts as two to the 1024th. -/
def unitsOf (magnitude : Nat) : Nat :=
  if magnitude < binade then magnitude else (magnitude % binade + binade) <<< (magnitude / binade - 1)

def units (x : Binary64) : Nat := unitsOf x.magnitude

def one : Nat := 1 <<< 1074

def value? (x : Binary64) : Option Int :=
  if x.isNaN then none else some (if x.isNegative then -(x.units : Int) else x.units)

/-- Numeric comparison, false as soon as one side is not a number. -/
def exceeds (x y : Binary64) : Bool :=
  match x.value?, y.value? with
  | some a, some b => decide (b < a)
  | _, _ => false

theorem isNegative_iff (x : Binary64) : x.isNegative = true ↔ 0x8000000000000000 ≤ x.bits.toNat := by
  simp [isNegative, UInt64.le_iff_toNat_le]

theorem rank_toNat (x : Binary64) :
    x.rank.toNat = if x.isNegative then 0x7FFFFFFFFFFFFFFF - x.magnitude else 0x8000000000000000 + x.magnitude := by
  have bound := x.bits.toNat_lt
  have sign := x.isNegative_iff
  unfold rank magnitude
  split
  · next negative =>
    have := sign.1 negative
    rw [UInt64.toNat_sub]
    simp only [UInt64.reduceToNat]
    omega
  · next positive =>
    have : ¬0x8000000000000000 ≤ x.bits.toNat := fun h => positive (sign.2 h)
    rw [UInt64.toNat_add]
    simp only [UInt64.reduceToNat]
    omega

theorem rank_injective {x y : Binary64} (same : x.rank = y.rank) : x = y := by
  have ranks := congrArg UInt64.toNat same
  have hx := x.bits.toNat_lt
  have hy := y.bits.toNat_lt
  have signX := x.isNegative_iff
  have signY := y.isNegative_iff
  have bits : x.bits.toNat = y.bits.toNat := by
    rw [rank_toNat, rank_toNat] at ranks
    unfold magnitude at ranks
    split at ranks <;> split at ranks <;> simp_all <;> omega
  cases x
  cases y
  exact congrArg Binary64.mk (UInt64.toNat_inj.1 bits)

end Binary64

end ItemQuery
