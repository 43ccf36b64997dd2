import ItemQuery.Json.Number
import ItemQuery.Json.Text
import ItemQuery.Keyed

/-! Reading documents from left to right.

A reader takes a value off the front of the text and returns what follows, or the first
fault it meets. Lists and objects are read by loops over readers for their parts; the
number of containers that may still be opened, the room, bounds how deep they nest.
-/

set_option autoImplicit false

namespace ItemQuery.Json

abbrev Reader (α : Type) := List Char → Except Fault (α × List Char)

def isSpace (c : Char) : Bool := c == ' ' || c == '\n' || c == '\t' || c == '\r'

def skipSpace (text : List Char) : List Char := text.dropWhile isSpace

/-- The rest of a word whose first letter is read. -/
def word : List Char → List Char → Except Fault (List Char)
  | [], text => .ok text
  | _ :: _, [] => .error .truncated
  | letter :: letters, c :: text => if c = letter then word letters text else .error .malformed

/-- The first token of a value: a whole scalar, or the bracket that opens a container. -/
def head : Reader Head := fun source =>
  match skipSpace source with
  | [] => .error .truncated
  | '[' :: rest => .ok (.list, rest)
  | '\x7b' :: rest => .ok (.object, rest)
  | '"' :: rest => do
    let (value, rest) ← text rest
    .ok (.scalar (.text value), rest)
  | 'n' :: rest => do
    let rest ← word ['u', 'l', 'l'] rest
    .ok (.scalar .null, rest)
  | 't' :: rest => do
    let rest ← word ['r', 'u', 'e'] rest
    .ok (.scalar (.flag true), rest)
  | 'f' :: rest => do
    let rest ← word ['a', 'l', 's', 'e'] rest
    .ok (.scalar (.flag false), rest)
  | c :: rest =>
    if c = '-' ∨ (digit? c).isSome then do
      let (literal, rest) ← Literal.read (c :: rest)
      match literal.scalar? with
      | some value => .ok (.scalar value, rest)
      | none => .error .malformed
    else .error .malformed

section Loops

variable {α σ : Type}

/-- The items from the next one on; `fuel` is at least as long as the source, `done` holds the others in reverse. -/
def itemsFrom (item : Reader α) : (fuel : List Char) → List α → Reader (List α)
  | [], _, _ => .error .truncated
  | _ :: fuel, done, source => do
    let (value, source) ← item source
    match skipSpace source with
    | [] => .error .truncated
    | ']' :: rest => .ok ((value :: done).reverse, rest)
    | ',' :: rest => itemsFrom item fuel (value :: done) rest
    | _ => .error .malformed

def items (item : Reader α) : Reader (List α) := fun source =>
  match skipSpace source with
  | ']' :: rest => .ok ([], rest)
  | rest => itemsFrom item rest [] rest

def membersFrom (member : σ → String → Reader σ) : (fuel : List Char) → σ → Reader σ
  | [], _, _ => .error .truncated
  | _ :: fuel, state, source =>
    match skipSpace source with
    | [] => .error .truncated
    | '"' :: rest => do
      let (key, rest) ← text rest
      let (state, rest) ← member state key rest
      match skipSpace rest with
      | [] => .error .truncated
      | '\x7d' :: rest => .ok (state, rest)
      | ',' :: rest => membersFrom member fuel state rest
      | _ => .error .malformed
    | _ => .error .malformed

/-- The members of an object whose brace is open; `member` goes on after a key, colon included. -/
def members (member : σ → String → Reader σ) (start : σ) : Reader σ := fun source =>
  match skipSpace source with
  | '\x7d' :: rest => .ok (start, rest)
  | rest => membersFrom member rest start rest

def afterColon (value : Reader α) : Reader α := fun source =>
  match skipSpace source with
  | [] => .error .truncated
  | ':' :: rest => value rest
  | _ => .error .malformed

def intoTable (value : Reader α) (table : List (String × α)) (key : String) : Reader (List (String × α)) :=
  fun source => do
    let (new, rest) ← afterColon value source
    .ok (Keyed.put Prod.fst (key, new) table, rest)

end Loops

/-- A whole value with at most `room` containers inside one another. -/
def value : (room : Nat) → Reader Value
  | 0, source => do
    let (first, rest) ← head source
    match first with
    | .scalar value => .ok (.scalar value, rest)
    | _ => .error .malformed
  | room + 1, source => do
    let (first, rest) ← head source
    match first with
    | .scalar value => .ok (.scalar value, rest)
    | .list => do
      let (values, rest) ← items (value room) rest
      .ok (.list values, rest)
    | .object => do
      let (table, rest) ← members (intoTable (value room)) [] rest
      .ok (.object table, rest)

/-- How many containers may lie inside one another. -/
def room : Nat := 127

def document {α : Type} (reader : Reader α) (source : String) : Except Fault α := do
  let (result, rest) ← reader source.toList
  if (skipSpace rest).isEmpty then .ok result else .error .malformed

end ItemQuery.Json
