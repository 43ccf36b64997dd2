import ItemQuery.Text.Ranges
import ItemQuery.Text.Utf8
import ItemQuery.Web.HostTable

/-! Host names.

A name is percent-decoded and mapped character by character: letters become lower-case,
forms of ASCII characters become those, ignorable characters go. Only names that are
ASCII by then are read.
-/

set_option autoImplicit false

namespace ItemQuery.Web

def HostRun.covers (run : HostRun) (n : Nat) : Bool := decide (run.first ≤ n) && decide (n ≤ run.last)

def HostRun.imageOf (run : HostRun) (n : Nat) : Char := Char.ofNat (run.image.toNat + (n - run.first))

namespace HostName

def hexDigit? (c : Char) : Option Nat :=
  if c.isDigit then some (c.toNat - '0'.toNat)
  else if 'a' ≤ c.toLower ∧ c.toLower ≤ 'f' then some (c.toLower.toNat - 'a'.toNat + 10)
  else none

def bytes (c : Char) : List UInt8 := (String.singleton c).toUTF8.toList

/-- The bytes of a text, with percent-encoded ones decoded. -/
def decodedBytes : List Char → List UInt8
  | '%' :: a :: b :: rest =>
    match hexDigit? a, hexDigit? b with
    | some high, some low => UInt8.ofNat (16 * high + low) :: decodedBytes rest
    | _, _ => bytes '%' ++ decodedBytes (a :: b :: rest)
  | c :: rest => bytes c ++ decodedBytes rest
  | [] => []

def mapped (c : Char) : List Char :=
  let n := c.toNat
  if n < 0x80 then [c.toLower]
  else if Text.inRanges hostIgnored n then []
  else
    match hostRuns.find? (·.covers n) with
    | some run => [run.imageOf n]
    | none => ((hostTexts.lookup n).map String.toList).getD [c]

/-- Characters that no ASCII name holds. -/
def isForbidden (c : Char) : Bool :=
  decide (c ≤ ' ') || decide (0x7F ≤ c.toNat) ||
    ['#', '%', '/', ':', '<', '>', '?', '@', '[', '\\', ']', '^', '|'].contains c

def read? (text : List Char) : Option (List Char) :=
  let name := (Text.Utf8.decodeLossy (decodedBytes text)).flatMap mapped
  if name.isEmpty || name.any isForbidden then none else some name

end HostName

end ItemQuery.Web
