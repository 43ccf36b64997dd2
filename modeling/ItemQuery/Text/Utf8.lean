/-! UTF-8 read byte by byte.

Every longest sequence of bytes that begins a character but does not complete one, and
every byte that begins none, is ill-formed as one piece.
-/

set_option autoImplicit false

namespace ItemQuery.Text.Utf8

/-- A character under way: its bits so far, the bytes still due, and the range of the next one. -/
structure Partial where
  bits : Nat
  due : Nat
  low : Nat
  high : Nat
  deriving DecidableEq, Repr

/-- What a byte between characters says: a character, the start of one, or nothing well-formed. -/
def lead (byte : Nat) : Option (Char ⊕ Partial) :=
  if byte < 0x80 then some (.inl (Char.ofNat byte))
  else if byte < 0xC2 then none
  else if byte < 0xE0 then some (.inr ⟨byte - 0xC0, 1, 0x80, 0xBF⟩)
  else if byte < 0xF0 then
    some (.inr ⟨byte - 0xE0, 2, if byte = 0xE0 then 0xA0 else 0x80, if byte = 0xED then 0x9F else 0xBF⟩)
  else if byte < 0xF5 then
    some (.inr ⟨byte - 0xF0, 3, if byte = 0xF0 then 0x90 else 0x80, if byte = 0xF4 then 0x8F else 0xBF⟩)
  else none

/-- The pieces of a byte sequence, ill-formed ones as none. -/
def pieces : Option Partial → List UInt8 → List (Option Char)
  | none, [] => []
  | some _, [] => [none]
  | none, byte :: rest =>
    match lead byte.toNat with
    | some (.inl c) => some c :: pieces none rest
    | some (.inr begun) => pieces (some begun) rest
    | none => none :: pieces none rest
  | some begun, byte :: rest =>
    if begun.low ≤ byte.toNat ∧ byte.toNat ≤ begun.high then
      let bits := begun.bits * 0x40 + (byte.toNat - 0x80)
      if begun.due = 1 then some (Char.ofNat bits) :: pieces none rest
      else pieces (some ⟨bits, begun.due - 1, 0x80, 0xBF⟩) rest
    else
      none ::
        match lead byte.toNat with
        | some (.inl c) => some c :: pieces none rest
        | some (.inr begun) => pieces (some begun) rest
        | none => none :: pieces none rest

def decode? (bytes : List UInt8) : Option String := ((pieces none bytes).mapM id).map String.ofList

def replacement : Char := '\uFFFD'

def decodeLossy (bytes : List UInt8) : List Char := (pieces none bytes).map (·.getD replacement)

def withoutMark : List Char → List Char
  | '\uFEFF' :: text => text
  | text => text

end ItemQuery.Text.Utf8
