/-! Texts joined by a separator, and texts without double quotes. -/

set_option autoImplicit false

namespace ItemQuery.Text

def join (separator : Char) : List (List Char) → List Char
  | [] => []
  | [last] => last
  | first :: second :: rest => first ++ separator :: join separator (second :: rest)

def withoutQuotes (text : List Char) : List Char := text.filter (· ≠ '"')

@[simp] theorem join_nil (separator : Char) : join separator [] = [] := rfl

@[simp] theorem join_singleton (separator : Char) (part : List Char) : join separator [part] = part := rfl

@[simp] theorem join_cons_cons (separator : Char) (first second : List Char) (rest : List (List Char)) :
    join separator (first :: second :: rest) = first ++ separator :: join separator (second :: rest) := rfl

theorem quote_not_mem_withoutQuotes (text : List Char) : '"' ∉ withoutQuotes text := by
  simp [withoutQuotes]

end ItemQuery.Text
