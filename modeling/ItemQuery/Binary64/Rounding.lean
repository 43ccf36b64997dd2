import ItemQuery.Binary64.Basic

/-! Correct rounding of a ratio of naturals, and the products, quotients and whole parts built on it.

A ratio is scaled to units, cut to 53 significant bits and rounded to the nearest
such number, ties to the even one. The magnitude of the result is the kept bits plus
the number of dropped ones in the exponent field, and a carry runs over by itself.
-/

set_option autoImplicit false

namespace ItemQuery.Binary64

/-- The nearest natural to a ratio; a tie goes to the even neighbour. -/
def roundRatio (num den : Nat) : Nat :=
  let below := num / den
  let twice := 2 * (num % den)
  if twice < den || (twice == den && below % 2 == 0) then below else below + 1

/-- The nearest number to a non-negative ratio, infinity past the largest one. -/
def ofRatio (num den : Nat) : Binary64 :=
  let scaled := num * one
  let dropped := Nat.log2 (scaled / den) - 52
  let kept := roundRatio scaled (den <<< dropped)
  ofMagnitude (min (dropped * binade + kept) infiniteMagnitude)

def ofNat (n : Nat) : Binary64 := ofRatio n 1

def mulSize (x y : Binary64) : Binary64 := ofRatio (x.units * y.units) (one * one)

def divSize (x y : Binary64) : Binary64 := ofRatio x.units y.units

def wholeText (x : Binary64) : String :=
  if x.isNaN then "NaN"
  else
    let size := if x.isInfinite then "inf" else toString (roundRatio x.units one)
    if x.isNegative then "-" ++ size else size


end ItemQuery.Binary64
