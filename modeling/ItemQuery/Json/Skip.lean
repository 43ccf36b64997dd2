import ItemQuery.Json.Reader

/-! Values that are read over.

Nothing is built, so the nesting is bounded by the text alone: the open containers lie
on a list. Numbers need digits but no value, and surrogates need no partner.
-/

set_option autoImplicit false

namespace ItemQuery.Json

inductive Container where
  | list
  | object
  deriving DecidableEq, Repr

def Container.closing : Container → Char
  | .list => ']'
  | .object => '\x7d'

/-- What comes next: a key, a value, or what follows a value. -/
inductive Place where
  | key
  | value
  | done
  deriving DecidableEq, Repr

def Container.part : Container → Place
  | .list => .value
  | .object => .key

/-- The digits of a skipped number may not run out with the text either. -/
def skipNumber (source : List Char) : Except Fault (List Char) :=
  match Literal.read source with
  | .ok (_, rest) => .ok rest
  | .error _ => .error .malformed

def skipHead (source : List Char) : Except Fault (Option Container × List Char) :=
  match source with
  | [] => .error .truncated
  | '[' :: rest => .ok (some .list, rest)
  | '\x7b' :: rest => .ok (some .object, rest)
  | '"' :: rest => (skipText rest).map (none, ·)
  | 'n' :: rest => (word ['u', 'l', 'l'] rest).map (none, ·)
  | 't' :: rest => (word ['r', 'u', 'e'] rest).map (none, ·)
  | 'f' :: rest => (word ['a', 'l', 's', 'e'] rest).map (none, ·)
  | c :: rest =>
    if c = '-' ∨ (digit? c).isSome then (skipNumber (c :: rest)).map (none, ·) else .error .malformed

def skipKey (source : List Char) : Except Fault (List Char) :=
  match source with
  | [] => .error .truncated
  | '"' :: rest => do
    let rest ← skipText rest
    match skipSpace rest with
    | [] => .error .truncated
    | ':' :: rest => .ok rest
    | _ => .error .malformed
  | _ => .error .malformed

/-- Skip to the end of the outermost value. Each step takes a character, and `fuel` is at least as long as the source. -/
def skipFrom : (fuel : List Char) → Place → List Container → List Char → Except Fault (List Char)
  | _, .done, [], source => .ok source
  | [], _, _, _ => .error .truncated
  | _ :: fuel, .value, stack, source => do
    match ← skipHead (skipSpace source) with
    | (none, rest) => skipFrom fuel .done stack rest
    | (some container, rest) =>
      match skipSpace rest with
      | [] => .error .truncated
      | c :: rest =>
        if c = container.closing then skipFrom fuel .done stack rest
        else skipFrom fuel container.part (container :: stack) (c :: rest)
  | _ :: fuel, .key, stack, source => do
    let rest ← skipKey (skipSpace source)
    skipFrom fuel .value stack rest
  | _ :: fuel, .done, container :: stack, source =>
    match skipSpace source with
    | [] => .error .truncated
    | c :: rest =>
      if c = ',' then skipFrom fuel container.part (container :: stack) rest
      else if c = container.closing then skipFrom fuel .done stack rest
      else .error .malformed

def skip (source : List Char) : Except Fault (List Char) := skipFrom source .value [] source

end ItemQuery.Json
