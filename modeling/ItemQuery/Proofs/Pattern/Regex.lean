import Mathlib.Computability.Language

/-! Patterns as a search reads them.

A pattern is read into letters, groups, alternatives and repetitions, and means a language
of texts. A line is found by it when some stretch of the line is in that language. What the
reader does not know, anchors and escapes other than the digit, it refuses.
-/

set_option autoImplicit false

open scoped Computability

namespace ItemQuery

inductive Letter where
  | exactly (c : Char)
  /-- All but the end of a line. -/
  | any
  | digit
  | among (ranges : List (Char × Char))
  deriving DecidableEq, Repr

def Letter.accepts : Letter → Char → Bool
  | .exactly wanted, c => c == wanted
  | .any, c => c != '\n'
  | .digit, c => c.isDigit
  | .among ranges, c => ranges.any fun (first, last) => first ≤ c && c ≤ last

inductive Regex where
  | empty
  | letter (kind : Letter)
  | both (first second : Regex)
  | either (first second : Regex)
  | many (repeated : Regex)
  | optional (item : Regex)
  | times (count : Nat) (repeated : Regex)
  deriving DecidableEq, Repr

namespace Regex

def letters (kind : Letter) : Language Char := {text | ∃ c, text = [c] ∧ kind.accepts c = true}

def language : Regex → Language Char
  | .empty => 1
  | .letter kind => letters kind
  | .both first second => language first * language second
  | .either first second => language first + language second
  | .many repeated => (language repeated)∗
  | .optional item => 1 + language item
  | .times count repeated => language repeated ^ count

/-- A search is not bound to the ends of the line. -/
def FoundIn (regex : Regex) (line : List Char) : Prop :=
  ∃ before found after, line = before ++ found ++ after ∧ found ∈ regex.language

inductive Token where
  | letter (kind : Letter)
  | opening
  | closing
  | bar
  | star
  | mark
  | count (n : Nat)
  deriving DecidableEq, Repr

def plain? : Char → Option Token
  | '(' => some .opening
  | ')' => some .closing
  | '|' => some .bar
  | '.' => some (.letter .any)
  | '*' => some .star
  | '?' => some .mark
  | '\\' | '[' | ']' | '\x7b' | '\x7d' | '^' | '$' | '+' => none
  | c => some (.letter (.exactly c))

/-- Tokens of a pattern; the ranges of a class that is open come first. -/
def tokens : Option (List (Char × Char)) → List Char → Option (List Token)
  | none, [] => some []
  | some _, [] => none
  | some ranges, ']' :: rest => (tokens none rest).map (.letter (.among ranges) :: ·)
  | some ranges, first :: '-' :: last :: rest =>
    if last = ']' then none else tokens (some ((first, last) :: ranges)) rest
  | some ranges, c :: rest =>
    if c = '[' ∨ c = '\\' ∨ c = '^' then none else tokens (some ((c, c) :: ranges)) rest
  | none, '[' :: rest => tokens (some []) rest
  | none, '\\' :: 'd' :: rest => (tokens none rest).map (.letter .digit :: ·)
  | none, '\x7b' :: n :: '\x7d' :: rest =>
    if n.isDigit then (tokens none rest).map (.count (n.toNat - '0'.toNat) :: ·) else none
  | none, c :: rest => (plain? c).bind fun token => (tokens none rest).map (token :: ·)

/-- A group under way: the alternatives before the current one and the items of that one, the last first. -/
structure Level where
  choices : List Regex := []
  items : List Regex := []

def sequence (items : List Regex) : Regex := items.foldr .both .empty

namespace Level

def add (level : Level) (item : Regex) : Level := { level with items := item :: level.items }

def bar (level : Level) : Level := ⟨sequence level.items.reverse :: level.choices, []⟩

def close (level : Level) : Regex :=
  level.choices.foldl (fun later choice => .either choice later) (sequence level.items.reverse)

def alter? (change : Regex → Regex) (level : Level) : Option Level :=
  match level.items with
  | [] => none
  | item :: rest => some { level with items := change item :: rest }

end Level

/-- Read tokens into the current group; the groups around it are on hold, the innermost first. -/
def parse : List Level → Level → List Token → Option Regex
  | [], level, [] => some level.close
  | _ :: _, _, [] => none
  | held, level, .letter kind :: rest => parse held (level.add (.letter kind)) rest
  | held, level, .opening :: rest => parse (level :: held) {} rest
  | [], _, .closing :: _ => none
  | outer :: held, level, .closing :: rest => parse held (outer.add level.close) rest
  | held, level, .bar :: rest => parse held level.bar rest
  | held, level, .star :: rest => (level.alter? .many).bind fun level => parse held level rest
  | held, level, .mark :: rest => (level.alter? .optional).bind fun level => parse held level rest
  | held, level, .count n :: rest => (level.alter? (.times n)).bind fun level => parse held level rest

def read? (pattern : List Char) : Option Regex := (tokens none pattern).bind (parse [] {})

end Regex

end ItemQuery
