import ItemQuery.Pattern

/-! A least value as the user types it.

The digits of the text are read as one number, everything else in it is passed over.
Numbers past 32 bits count as the largest one that fits. A relaxed minimum is rounded
down to a multiple of ten.
-/

set_option autoImplicit false

namespace ItemQuery

structure Minimum where
  digits : String := ""
  relax : Bool := false
  deriving DecidableEq, Repr, Inhabited

namespace Minimum

def largest : UInt32 := 0xFFFFFFFF

/-- The product, or the largest number if that is too small to hold it. -/
def times (n factor : UInt32) : UInt32 := if n.toNat * factor.toNat ≤ largest.toNat then n * factor else largest

def plus (n more : UInt32) : UInt32 := if n.toNat + more.toNat ≤ largest.toNat then n + more else largest

def decimal? (c : Char) : Option UInt32 := if '0' ≤ c ∧ c ≤ '9' then some (c.val - '0'.val) else none

def number (text : List Char) : UInt32 := (text.filterMap decimal?).foldl (fun n d => plus (times n 10) d) 0

def roundDown (n : UInt32) : UInt32 := n / 10 * 10

def threshold (minimum : Minimum) : Nat :=
  let number := number minimum.digits.toList
  (if minimum.relax then roundDown number else number).toNat

/-- The pattern for the numbers from the threshold on, empty without a constraint. -/
def pattern (minimum : Minimum) : List Char := Pattern.atLeast minimum.threshold

end Minimum

end ItemQuery
