import Mathlib.Algebra.GroupWithZero.Nat
import ItemQuery.Text.Join

/-! Joined texts as a first part and parts that each bring their separator, and texts in quotes. -/

set_option autoImplicit false

namespace ItemQuery.Text

variable {separator : Char}

theorem join_cons (first : List Char) (rest : List (List Char)) :
    join separator (first :: rest) = first ++ rest.flatMap (separator :: ·) := by
  induction rest generalizing first with
  | nil => simp
  | cons second rest ih => rw [join_cons_cons, ih, List.flatMap_cons, List.cons_append]

theorem join_eq_intercalate (parts : List (List Char)) : join separator parts = List.intercalate [separator] parts := by
  induction parts with
  | nil => rfl
  | cons first rest ih =>
    cases rest with
    | nil => exact List.intercalate_singleton.symm
    | cons second rest => rw [join_cons_cons, ih, List.intercalate_cons_cons, List.append_assoc, List.singleton_append]

theorem length_flatMap_separator (parts : List (List Char)) :
    (parts.flatMap (separator :: ·)).length = (parts.map fun part => 1 + part.length).sum := by
  simp [List.length_flatMap, Nat.add_comm]

theorem length_join (parts : List (List Char)) :
    (join separator parts).length = parts.length - 1 + (parts.map List.length).sum := by
  cases parts with
  | nil => rfl
  | cons first rest =>
    have separators : (rest.map fun part => 1 + part.length).sum = rest.length + (rest.map List.length).sum := by
      induction rest with
      | nil => rfl
      | cons part rest ih =>
        simp only [List.map_cons, List.sum_cons, List.length_cons, ih]
        omega
    rw [join_cons, List.length_append, length_flatMap_separator, separators]
    simp only [List.length_cons, List.map_cons, List.sum_cons]
    omega

theorem join_append {first : List (List Char)} (nonempty : first ≠ []) (second : List (List Char)) :
    join separator (first ++ second) = join separator first ++ second.flatMap (separator :: ·) := by
  cases first with
  | nil => exact absurd rfl nonempty
  | cons part rest => rw [List.cons_append, join_cons, join_cons, List.flatMap_append, List.append_assoc]

theorem join_append_separator {first second : List (List Char)} (some : first ≠ []) (more : second ≠ []) :
    join separator (first ++ second) = join separator first ++ separator :: join separator second := by
  obtain ⟨part, rest, rfl⟩ := List.exists_cons_of_ne_nil more
  rw [join_append some, join_cons, List.flatMap_cons, List.cons_append]

theorem join_join {parts : List (List (List Char))} (nonempty : ∀ part ∈ parts, part ≠ []) :
    join separator (parts.map (join separator)) = join separator parts.flatten := by
  induction parts with
  | nil => rfl
  | cons part rest ih =>
    obtain ⟨here, others⟩ := List.forall_mem_cons.mp nonempty
    cases rest with
    | nil => simp
    | cons second rest =>
      have later : (second :: rest).flatten ≠ [] :=
        List.append_ne_nil_of_left_ne_nil (others second List.mem_cons_self) _
      rw [List.flatten_cons, join_append_separator here later, ← ih others]
      rfl

theorem mem_join {c : Char} {parts : List (List Char)} (member : c ∈ join separator parts) :
    c = separator ∨ ∃ part ∈ parts, c ∈ part := by
  cases parts with
  | nil => cases member
  | cons first rest =>
    rw [join_cons, List.mem_append, List.mem_flatMap] at member
    rcases member with member | ⟨part, partMember, member⟩
    · exact Or.inr ⟨first, List.mem_cons_self, member⟩
    · rcases List.mem_cons.mp member with same | member
      · exact Or.inl same
      · exact Or.inr ⟨part, List.mem_cons_of_mem first partMember, member⟩

/-- Quotes may be taken out of the parts before they are joined. -/
theorem withoutQuotes_join (unquoted : separator ≠ '"') (parts : List (List Char)) :
    withoutQuotes (join separator parts) = join separator (parts.map withoutQuotes) := by
  cases parts with
  | nil => rfl
  | cons first rest =>
    have kept (part : List Char) : (separator :: part).filter (· ≠ '"') = separator :: withoutQuotes part :=
      List.filter_cons_of_pos (decide_eq_true unquoted)
    rw [List.map_cons, join_cons, join_cons, withoutQuotes, List.filter_append, List.filter_flatMap, List.flatMap_map]
    simp only [kept]
    rfl

theorem withoutQuotes_eq_self {text : List Char} (clear : '"' ∉ text) : withoutQuotes text = text :=
  List.filter_eq_self.mpr fun _ member => decide_eq_true fun same => clear (same ▸ member)

/-- What stands between the first and the last character of a text. -/
def unquoted (text : List Char) : List Char := (text.drop 1).dropLast

@[simp] theorem unquoted_quotes (content : List Char) : unquoted ('"' :: (content ++ ['"'])) = content := by
  simp [unquoted]

end ItemQuery.Text
