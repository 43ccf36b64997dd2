/-! Character data as ranges of code points. -/

set_option autoImplicit false

namespace ItemQuery.Text

def inRanges (ranges : List (Nat × Nat)) (n : Nat) : Bool := ranges.any fun (first, last) => first ≤ n && n ≤ last

end ItemQuery.Text
