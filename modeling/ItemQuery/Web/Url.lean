import ItemQuery.Web.HostName

/-! Addresses of web servers.

An address of the schemes `http` and `https` is read as the URL standard says: blanks at
the ends and line breaks are dropped, backslashes count as slashes, dot segments are
resolved, and characters outside the path set are percent-encoded.
-/

set_option autoImplicit false

namespace ItemQuery.Web

structure Url where
  scheme : List Char
  host : List Char
  /-- The number after the host's colon, none for the scheme's own. -/
  number? : Option Nat
  path : List Char
  deriving DecidableEq, Repr

namespace Url

def isSlash (c : Char) : Bool := c == '/' || c == '\\'

/-- Remove controls and spaces at the ends, and line breaks and tabs everywhere. -/
def clean (text : List Char) : List Char :=
  let isEdge (c : Char) : Bool := decide (c ≤ ' ')
  let trimmed := ((text.dropWhile isEdge).reverse.dropWhile isEdge).reverse
  trimmed.filter fun c => c != '\t' && c != '\n' && c != '\r'

def isSchemeChar (c : Char) : Bool := c.isAlphanum || c == '+' || c == '-' || c == '.'

def cut (test : Char → Bool) (text : List Char) : List Char × List Char :=
  (text.takeWhile (!test ·), text.dropWhile (!test ·))

def readScheme? (text : List Char) : Option (List Char × List Char) :=
  match cut (· == ':') text with
  | (c :: scheme, _ :: rest) =>
    if c.isAlpha && scheme.all isSchemeChar then some ((c :: scheme).map Char.toLower, rest) else none
  | _ => none

def ownNumber? (scheme : List Char) : Option Nat :=
  if scheme = ['h', 't', 't', 'p'] then some 80
  else if scheme = ['h', 't', 't', 'p', 's'] then some 443
  else none

/-- A number after its colon; an empty one is the scheme's own. -/
def readNumber? (own : Nat) : List Char → Option (Option Nat)
  | [] => some none
  | digits =>
    if digits.all Char.isDigit then
      let number := digits.foldl (fun n c => 10 * n + (c.toNat - '0'.toNat)) 0
      if 65535 < number then none else some (if number = own then none else some number)
    else none

def withoutUser (authority : List Char) : List Char := (authority.reverse.takeWhile (· != '@')).reverse

def pathReserved : List Char := ['"', '#', '<', '>', '?', '\x60', '\x7b', '\x7d']

def isPathChar (c : Char) : Bool :=
  decide (0x21 ≤ c.toNat) && decide (c.toNat ≤ 0x7E) && !pathReserved.contains c

def percent (byte : UInt8) : List Char :=
  let digit (n : Nat) : Char := (Nat.digitChar n).toUpper
  ['%', digit (byte.toNat / 16), digit (byte.toNat % 16)]

def encodeChar (c : Char) : List Char :=
  if isPathChar c then [c] else (HostName.bytes c).flatMap percent

/-- Whether a segment is one dot or two, dots possibly encoded. -/
def dots : List Char → Nat
  | [] => 0
  | '.' :: rest => 1 + dots rest
  | '%' :: '2' :: 'e' :: rest => 1 + dots rest
  | '%' :: '2' :: 'E' :: rest => 1 + dots rest
  | _ => 3

def segments : List Char → List (List Char)
  | [] => [[]]
  | c :: rest =>
    match segments rest with
    | first :: others => if isSlash c then [] :: first :: others else (c :: first) :: others
    | [] => [[c]]

def isDrive : List Char → Bool
  | [letter, mark] => letter.isAlpha && (mark == ':' || mark == '|')
  | _ => false

/-- Segments in reverse without their last one; the root of a drive has nothing above it. -/
def parent : List (List Char) → List (List Char)
  | [] => []
  | segment :: above => if isDrive segment then segment :: above else above

/-- Resolve dot segments; `done` holds the finished ones in reverse. -/
def resolve (done : List (List Char)) : List (List Char) → List (List Char)
  | [] => done.reverse
  | segment :: rest =>
    let ending := if rest.isEmpty then [[]] else []
    match dots segment with
    | 1 => resolve (ending ++ done) rest
    | 2 => resolve (ending ++ parent done) rest
    | _ => resolve (segment.flatMap encodeChar :: done) rest

def readPath (text : List Char) : List Char :=
  let text := match text with
    | c :: rest => if isSlash c then rest else c :: rest
    | [] => []
  (resolve [] (segments text)).flatMap ('/' :: ·)

def parse? (address : String) : Option Url := do
  let (scheme, rest) ← readScheme? (clean address.toList)
  let own ← ownNumber? scheme
  let (authority, rest) := cut (fun c => isSlash c || c == '?' || c == '#') (rest.dropWhile isSlash)
  let (name, digits) := cut (· == ':') (withoutUser authority)
  let host ← HostName.read? name
  let number? ← readNumber? own (digits.drop 1)
  return ⟨scheme, host, number?, readPath (cut (fun c => c == '?' || c == '#') rest).1⟩

def sameServer (first second : Url) : Bool :=
  first.scheme == second.scheme && first.host == second.host && first.number? == second.number?

end Url

end ItemQuery.Web
