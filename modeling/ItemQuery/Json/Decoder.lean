import ItemQuery.Json.Skip

/-! Reading values of a known shape.

A decoder has two sides. `scan` takes the value off a text as it goes by, so a wrong
shape and a broken text are told apart by which comes first. `view` looks at a finished
value and can only find a wrong shape.
-/

set_option autoImplicit false

namespace ItemQuery.Json

structure Decoder (α : Type) where
  scan : (room : Nat) → Reader α
  view : Value → Except Mismatch α

namespace Decoder

variable {α β : Type}

def map (f : α → β) (decoder : Decoder α) : Decoder β where
  scan room source := do
    let (result, rest) ← decoder.scan room source
    .ok (f result, rest)
  view found := (decoder.view found).map f

def checked : Except Mismatch α → Except Fault α
  | .ok result => .ok result
  | .error cause => .error (.mismatch cause)

/-- Values that their first token decides. -/
def ofHead (accept : Head → Except Mismatch α) : Decoder α where
  scan _ source := do
    let (first, rest) ← head source
    let result ← checked (accept first)
    .ok (result, rest)
  view found := accept found.head

def text : Decoder String := ofHead fun
  | .scalar (.text value) => .ok value
  | found => .error (.wrongType found .text)

def flag : Decoder Bool := ofHead fun
  | .scalar (.flag value) => .ok value
  | found => .error (.wrongType found .flag)

def real : Decoder Binary64 := ofHead fun
  | .scalar (.real value) => .ok value
  | .scalar (.integer value) =>
    let size := Binary64.ofNat value.natAbs
    .ok (if value < 0 then size.neg else size)
  | found => .error (.wrongType found .real)

/-- A whole number of 32 bits, or null. -/
def count? : Decoder (Option UInt32) := ofHead fun
  | .scalar .null => .ok none
  | .scalar (.integer value) =>
    if 0 ≤ value ∧ value < 0x100000000 then .ok (some (UInt32.ofNat value.toNat)) else .error (.outOfRange value .count)
  | found => .error (.wrongType found .count)

def any : Decoder Value where
  scan := value
  view := .ok

def list (item : Decoder α) : Decoder (List α) where
  scan room source := do
    let (first, rest) ← head source
    match first, room with
    | .list, room + 1 => items (item.scan room) rest
    | .list, 0 => .error .malformed
    | found, _ => .error (.mismatch (.wrongType found .list))
  view
    | .list values => values.mapM item.view
    | found => .error (.wrongType found.head .list)

/-- An object read as a table from keys to values of one shape. -/
def table (item : Decoder α) : Decoder (List (String × α)) where
  scan room source := do
    let (first, rest) ← head source
    match first, room with
    | .object, room + 1 => members (intoTable (item.scan room)) [] rest
    | .object, 0 => .error .malformed
    | found, _ => .error (.mismatch (.wrongType found .object))
  view
    | .object values => values.mapM fun (key, found) => (item.view found).map (key, ·)
    | found => .error (.wrongType found.head .object)

def decode (decoder : Decoder α) (source : String) : Except Fault α := document (decoder.scan room) source

end Decoder

end ItemQuery.Json
