import ItemQuery.Json.Fault

/-! Text between quotes.

The writer escapes quotes, backslashes and control characters only. The reader takes
every escape of the format; a pair of surrogate escapes is one character and a lone
surrogate none. Text that is only skipped may hold lone surrogates.
-/

set_option autoImplicit false

namespace ItemQuery.Json

def hexDigit? (c : Char) : Option Nat :=
  if '0' ≤ c ∧ c ≤ '9' then some (c.toNat - '0'.toNat)
  else if 'a' ≤ c ∧ c ≤ 'f' then some (c.toNat - 'a'.toNat + 10)
  else if 'A' ≤ c ∧ c ≤ 'F' then some (c.toNat - 'A'.toNat + 10)
  else none

/-- Four hexadecimal digits. The document ends too early when fewer than four bytes are left. -/
def hexUnit (text : List Char) : Except Fault (Nat × List Char) :=
  match text with
  | a :: b :: c :: d :: rest =>
    match hexDigit? a, hexDigit? b, hexDigit? c, hexDigit? d with
    | some a, some b, some c, some d => .ok (((a * 16 + b) * 16 + c) * 16 + d, rest)
    | _, _, _, _ => .error .malformed
  | text => if text.foldr (fun c size => c.utf8Size + size) 0 < 4 then .error .truncated else .error .malformed

def shortEscape? : Char → Option Char
  | '"' => some '"'
  | '\\' => some '\\'
  | '/' => some '/'
  | 'b' => some '\x08'
  | 'f' => some '\x0c'
  | 'n' => some '\n'
  | 'r' => some '\r'
  | 't' => some '\t'
  | _ => none

def isLeading (unit : Nat) : Bool := decide (0xD800 ≤ unit) && decide (unit ≤ 0xDBFF)

def isTrailing (unit : Nat) : Bool := decide (0xDC00 ≤ unit) && decide (unit ≤ 0xDFFF)

def trailingUnit : List Char → Except Fault (Nat × List Char)
  | [] => .error .truncated
  | ['\\'] => .error .truncated
  | '\\' :: 'u' :: rest => do
    let (unit, rest) ← hexUnit rest
    if isTrailing unit then .ok (unit, rest) else .error .malformed
  | _ => .error .malformed

def escaped : List Char → Except Fault (Char × List Char)
  | [] => .error .truncated
  | 'u' :: rest => do
    let (unit, rest) ← hexUnit rest
    if isTrailing unit then .error .malformed
    else if isLeading unit then
      let (second, rest) ← trailingUnit rest
      .ok (Char.ofNat (0x10000 + (unit - 0xD800) * 0x400 + (second - 0xDC00)), rest)
    else .ok (Char.ofNat unit, rest)
  | c :: rest =>
    match shortEscape? c with
    | some c => .ok (c, rest)
    | none => .error .malformed

/-- Text up to its closing quote; `fuel` is at least as long as the source, `done` holds the text in reverse. -/
def textFrom : (fuel : List Char) → (done source : List Char) → Except Fault (String × List Char)
  | [], _, _ => .error .truncated
  | _ :: _, _, [] => .error .truncated
  | _ :: fuel, done, c :: rest =>
    if c = '"' then .ok (String.ofList done.reverse, rest)
    else if c = '\\' then do
      let (c, rest) ← escaped rest
      textFrom fuel (c :: done) rest
    else if c < ' ' then .error .malformed
    else textFrom fuel (c :: done) rest

def text (source : List Char) : Except Fault (String × List Char) := textFrom source [] source

def skipEscaped : List Char → Except Fault (List Char)
  | [] => .error .truncated
  | 'u' :: rest => do
    let (_, rest) ← hexUnit rest
    .ok rest
  | c :: rest => if (shortEscape? c).isSome then .ok rest else .error .malformed

def skipTextFrom : (fuel source : List Char) → Except Fault (List Char)
  | [], _ => .error .truncated
  | _ :: _, [] => .error .truncated
  | _ :: fuel, c :: rest =>
    if c = '"' then .ok rest
    else if c = '\\' then do
      let rest ← skipEscaped rest
      skipTextFrom fuel rest
    else if c < ' ' then .error .malformed
    else skipTextFrom fuel rest

def skipText (source : List Char) : Except Fault (List Char) := skipTextFrom source source

/-- A character as the writer puts it between quotes. -/
def writtenChar (c : Char) : List Char :=
  match c with
  | '"' => ['\\', '"']
  | '\\' => ['\\', '\\']
  | '\x08' => ['\\', 'b']
  | '\x0c' => ['\\', 'f']
  | '\n' => ['\\', 'n']
  | '\r' => ['\\', 'r']
  | '\t' => ['\\', 't']
  | c => if c < ' ' then ['\\', 'u', '0', '0', Nat.digitChar (c.toNat / 16), Nat.digitChar (c.toNat % 16)] else [c]

def writtenText (value : String) : List Char := '"' :: (value.toList.flatMap writtenChar ++ ['"'])

end ItemQuery.Json
