import ItemQuery.Binary64.Rounding
import ItemQuery.Json.Fault

/-! Numbers as a document writes them, and their values.

A literal without point and exponent that fits 64 bits is a whole number; minus zero is
not. Any other literal keeps the leading digits that fit 64 bits as its significand,
rounds it, and scales it by a rounded power of ten, so the last bits may differ from
those of the nearest number. A literal past the largest number has no value.
-/

set_option autoImplicit false

namespace ItemQuery.Json

structure Exponent where
  negative : Bool
  digits : List Nat
  deriving DecidableEq, Repr

/-- A number literal; an absent fraction is empty. -/
structure Literal where
  negative : Bool
  whole : List Nat
  fraction : List Nat
  exponent? : Option Exponent
  deriving DecidableEq, Repr

def digit? (c : Char) : Option Nat := if '0' ≤ c ∧ c ≤ '9' then some (c.toNat - '0'.toNat) else none

def digits : List Char → List Nat × List Char
  | [] => ([], [])
  | c :: rest =>
    match digit? c with
    | some d => let (more, rest) := digits rest; (d :: more, rest)
    | none => ([], c :: rest)

namespace Literal

def lacksDigit : List Char → Fault
  | [] => .truncated
  | _ => .malformed

def exponentPart : List Char → Except Fault (Option Exponent × List Char)
  | [] => .ok (none, [])
  | c :: rest =>
    if c = 'e' ∨ c = 'E' then
      let (negative, rest) := match rest with
        | '+' :: rest => (false, rest)
        | '-' :: rest => (true, rest)
        | rest => (false, rest)
      match digits rest with
      | ([], rest) => .error (lacksDigit rest)
      | (ds, rest) => .ok (some ⟨negative, ds⟩, rest)
    else .ok (none, c :: rest)

def fractionPart : List Char → Except Fault (List Nat × List Char)
  | '.' :: rest =>
    match digits rest with
    | ([], rest) => .error (lacksDigit rest)
    | (ds, rest) => .ok (ds, rest)
  | rest => .ok ([], rest)

/-- A leading zero stands alone. -/
def wholePart (text : List Char) : Except Fault (List Nat × List Char) :=
  match digits text with
  | ([], rest) => .error (lacksDigit rest)
  | (0 :: _ :: _, _) => .error .malformed
  | (ds, rest) => .ok (ds, rest)

def read (text : List Char) : Except Fault (Literal × List Char) := do
  let (negative, text) := match text with
    | '-' :: rest => (true, rest)
    | rest => (false, rest)
  let (whole, text) ← wholePart text
  let (fraction, text) ← fractionPart text
  let (exponent?, text) ← exponentPart text
  return (⟨negative, whole, fraction, exponent?⟩, text)

/-- Append digits while the number fits 64 bits; the digits from the first misfit on are left over. -/
def absorb (significand : Nat) : List Nat → Nat × List Nat
  | [] => (significand, [])
  | d :: rest => if 10 * significand + d < 0x10000000000000000 then absorb (10 * significand + d) rest else (significand, d :: rest)

def powerOfTen (k : Nat) : Binary64 := .ofNat (Nat.pow 10 k)

/-- Divide by 10 to the 308th as often as asked, then by what is left of the power. -/
def shrink : Nat → Binary64 → Nat → Binary64
  | 0, size, last => size.divSize (powerOfTen last)
  | steps + 1, size, last => if size.isZero then size else shrink steps (size.divSize (powerOfTen 308)) last

def scale? (significand : Nat) (exponent : Int) : Option Binary64 :=
  let size := Binary64.ofNat significand
  if 308 < exponent then if size.isZero then some size else none
  else if 0 ≤ exponent then
    let product := size.mulSize (powerOfTen exponent.toNat)
    if product.isInfinite then none else some product
  else
    let places := exponent.natAbs
    let steps := (places - 1) / 308
    some (shrink steps size (places - 308 * steps))

/-- Exponents are held in 32 bits. A larger one leaves only zero a value, a smaller one makes the value zero. -/
def exponentLimit : Nat := 0x7FFFFFFF

def real? (significand : Nat) (shift : Int) : Option Exponent → Option Binary64
  | none => scale? significand shift
  | some ⟨negative, ds⟩ =>
    let size := ds.foldl (fun n d => 10 * n + d) 0
    if exponentLimit < size then
      if significand ≠ 0 ∧ ¬negative then none else some ⟨0⟩
    else scale? significand (if negative then shift - size else shift + size)

/-- The value of a literal; none when it is out of range. -/
def scalar? (literal : Literal) : Option Scalar :=
  let (significand, dropped) := absorb 0 literal.whole
  let signed (size : Binary64) : Scalar := .real (if literal.negative then size.neg else size)
  if dropped.isEmpty && literal.fraction.isEmpty && literal.exponent?.isNone then
    if !literal.negative then some (.integer significand)
    else if significand = 0 ∨ 0x8000000000000000 < significand then some (signed (.ofNat significand))
    else some (.integer (-(significand : Int)))
  else
    let (significand, surplus) := absorb significand literal.fraction
    let taken := literal.fraction.length - surplus.length
    (real? significand (dropped.length - taken) literal.exponent?).map signed

end Literal

end ItemQuery.Json
