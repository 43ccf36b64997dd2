import ItemQuery.Binary64.Rounding

/-! The shortest decimal text of a number.

Among the decimals nearer to the number than to its neighbours, the one on the
coarsest power-of-ten grid has the fewest digits. It is positional from 0.00001 up to
below ten to the 16th, always with a point, and scientific elsewhere.
-/

set_option autoImplicit false

namespace ItemQuery.Binary64

structure Decimal where
  digits : Nat
  exponent : Int
  deriving DecidableEq, Repr

/-- The decimals of one grid that read back as the magnitude, the nearer first. -/
def gridHit? (magnitude : Nat) (exponent : Int) : Option Decimal :=
  let up := Nat.pow 10 exponent.toNat
  let down := Nat.pow 10 (-exponent).toNat
  let size := 2 * unitsOf magnitude * down
  let low := (unitsOf (magnitude - 1) + unitsOf magnitude) * down
  let high := (unitsOf magnitude + unitsOf (magnitude + 1)) * down
  let step := 2 * one * up
  let reads (n : Nat) : Bool :=
    let point := n * step
    if magnitude % 2 == 0 then low ≤ point && point ≤ high else low < point && point < high
  let below := size / step
  let nearest := roundRatio size step
  if nearest != 0 && reads nearest then some ⟨nearest, exponent⟩
  else if below != 0 && reads below then some ⟨below, exponent⟩
  else if reads (below + 1) then some ⟨below + 1, exponent⟩
  else none

/-- The shortest decimal of a positive finite magnitude, tried from the coarsest grid down. -/
def shortest (magnitude : Nat) : Decimal :=
  ((List.range 634).findSome? fun (fine : Nat) => gridHit? magnitude (309 - (fine : Int))).getD ⟨0, 0⟩

def Decimal.text (d : Decimal) : String :=
  let digits := toString d.digits
  let leading : Int := d.exponent + digits.length - 1
  let zeros (n : Int) : String := String.ofList (List.replicate n.toNat '0')
  if -5 ≤ leading ∧ leading ≤ 15 then
    if 0 ≤ d.exponent then digits ++ zeros d.exponent ++ ".0"
    else if 0 ≤ leading then
      let cut := leading.toNat + 1
      String.ofList (digits.toList.take cut) ++ "." ++ String.ofList (digits.toList.drop cut)
    else "0." ++ zeros (-1 - leading) ++ digits
  else
    let fraction := digits.toList.drop 1
    String.ofList (digits.toList.take 1) ++ (if fraction.isEmpty then "" else "." ++ String.ofList fraction) ++
      (if 0 ≤ leading then "e+" else "e-") ++ toString leading.natAbs

def shortestText (x : Binary64) : String :=
  if x.isNaN then "NaN"
  else
    let size := if x.isInfinite then "inf" else if x.isZero then "0.0" else (shortest x.magnitude).text
    if x.isNegative then "-" ++ size else size

end ItemQuery.Binary64
