/-! Blank characters and the spacing of a query.

`collapse` drops the blanks at both ends and puts one space in place of every longer
run between two words; a single blank between words stays as it is.
-/

set_option autoImplicit false

namespace ItemQuery.Text

/-- The characters of the property White_Space. -/
def isBlank (c : Char) : Bool :=
  let n := c.toNat
  (decide (0x9 ≤ n) && decide (n ≤ 0xD)) || n == 0x20 || n == 0x85 || n == 0xA0 || n == 0x1680 ||
    (decide (0x2000 ≤ n) && decide (n ≤ 0x200A)) || n == 0x2028 || n == 0x2029 || n == 0x202F || n == 0x205F ||
    n == 0x3000

def gap : List Char → List Char
  | [] => []
  | [blank] => [blank]
  | _ => [' ']

/-- Collapse what follows a run of blanks; a run that no word follows is lost. -/
def collapseFrom (run : List Char) : List Char → List Char
  | [] => []
  | c :: rest => if isBlank c then collapseFrom (c :: run) rest else gap run ++ c :: collapseFrom [] rest

def collapse (text : List Char) : List Char := collapseFrom [] (text.dropWhile isBlank)

theorem collapseFrom_word {c : Char} (word : isBlank c = false) (run rest : List Char) :
    collapseFrom run (c :: rest) = gap run ++ c :: collapseFrom [] rest := by
  simp [collapseFrom, word]

theorem collapseFrom_blank {c : Char} (blank : isBlank c = true) (run rest : List Char) :
    collapseFrom run (c :: rest) = collapseFrom (c :: run) rest := by
  simp [collapseFrom, blank]

end ItemQuery.Text
