import ItemQuery.Proofs.Text.Spacing
import Mathlib.Data.List.DropRight

/-! The words of a text and what stands between them.

A text that is not all blank is a row: words with gaps between them, and blanks on both
sides. The words and the separators that are read off such a text are those of the row.
-/

set_option autoImplicit false

namespace ItemQuery.Text

/-- The longest stretches of a text without a character of a kind. -/
def stretches (kind : Char → Bool) (text : List Char) : List (List Char) := (text.splitOnP kind).filter (· ≠ [])

/-- A text without the blanks at both ends. -/
def trim (text : List Char) : List Char := (text.dropWhile isBlank).rdropWhile isBlank

def words (text : List Char) : List (List Char) := stretches isBlank text

/-- The runs of blanks between words. -/
def separators (text : List Char) : List (List Char) := stretches (fun c => !isBlank c) (trim text)

/-- Words with a separator between each and the next. -/
def interleave : List (List Char) → List (List Char) → List Char
  | word :: words, separator :: separators => word ++ separator ++ interleave words separators
  | words, _ => words.flatten

section Stretches

variable {kind : Char → Bool}

theorem stretches_skip {front : List Char} (all : ∀ c ∈ front, kind c = true) (rest : List Char) :
    stretches kind (front ++ rest) = stretches kind rest := by
  induction front with
  | nil => rfl
  | cons c front ih =>
    obtain ⟨here, others⟩ := List.forall_mem_cons.mp all
    rw [← ih others]
    unfold stretches
    simp [List.splitOnP_cons_eq_if_modifyHead, here]

theorem stretches_eq_nil {text : List Char} (all : ∀ c ∈ text, kind c = true) : stretches kind text = [] := by
  rw [← List.append_nil text, stretches_skip all]
  rfl

theorem stretches_append {stretch rest : List Char} (nonempty : stretch ≠ []) (free : ∀ c ∈ stretch, kind c = false)
    (ends : ∀ c ∈ rest.head?, kind c = true) :
    stretches kind (stretch ++ rest) = stretch :: stretches kind rest := by
  cases rest with
  | nil =>
    unfold stretches
    simp [List.splitOnP_eq_singleton free, nonempty]
  | cons c rest =>
    have stop : kind c = true := ends c rfl
    have later : stretches kind (c :: rest) = stretches kind rest :=
      stretches_skip (List.forall_mem_singleton.mpr stop) rest
    rw [later]
    unfold stretches
    simp [List.splitOnP_append_cons_of_forall_mem free c stop, nonempty]

end Stretches

section Solid

variable {text lead trail : List Char} (solid : Solid text) (leading : ∀ c ∈ lead, isBlank c = true)
  (trailing : ∀ c ∈ trail, isBlank c = true)

include solid leading

theorem Solid.dropWhile_eq (rest : List Char) : (lead ++ (text ++ rest)).dropWhile isBlank = text ++ rest := by
  obtain ⟨⟨c, others, rfl, plain⟩, -⟩ := solid
  rw [List.dropWhile_append_of_pos leading, List.cons_append, List.dropWhile_cons_of_neg (by simp [plain])]

include trailing

theorem Solid.trim_eq : trim (lead ++ (text ++ trail)) = text := by
  unfold trim List.rdropWhile
  rw [solid.dropWhile_eq leading]
  obtain ⟨-, front, c, rfl, plain⟩ := solid
  rw [List.reverse_append, List.dropWhile_append_of_pos (by simpa using trailing)]
  simp [plain]

end Solid

structure Word where
  chars : List Char
  nonempty : chars ≠ []
  plain : ∀ c ∈ chars, isBlank c = false

@[ext]
structure Gap where
  chars : List Char
  nonempty : chars ≠ []
  blank : ∀ c ∈ chars, isBlank c = true

namespace Word

def letter (c : Char) (plain : isBlank c = false) : Word where
  chars := [c]
  nonempty := List.cons_ne_nil _ _
  plain := List.forall_mem_singleton.mpr plain

variable (word : Word)

def cons {c : Char} (plain : isBlank c = false) : Word where
  chars := c :: word.chars
  nonempty := List.cons_ne_nil _ _
  plain := List.forall_mem_cons.mpr ⟨plain, word.plain⟩

theorem head_plain (rest : List Char) : ∀ c ∈ (word.chars ++ rest).head?, isBlank c = false := by
  obtain ⟨first, others, same⟩ := List.exists_cons_of_ne_nil word.nonempty
  have member : first ∈ word.chars := by simp [same]
  simpa [same] using word.plain first member

theorem last_plain : ∀ c ∈ word.chars.getLast?, isBlank c = false :=
  fun c last => word.plain c (List.mem_of_getLast? last)

end Word

/-- A first word, and later ones that each have a gap before them. -/
structure Row where
  first : Word
  later : List (Gap × Word)

namespace Row

/-- The later words with their gaps. -/
def laterText (later : List (Gap × Word)) : List Char := later.flatMap fun (gap, word) => gap.chars ++ word.chars

def text (row : Row) : List Char := row.first.chars ++ laterText row.later

def words (row : Row) : List (List Char) := row.first.chars :: row.later.map (·.2.chars)

def gaps (row : Row) : List (List Char) := row.later.map (·.1.chars)

/-- The text is the row with blanks around it. -/
def Spans (row : Row) (text : List Char) : Prop :=
  ∃ lead trail, text = lead ++ (row.text ++ trail) ∧ (∀ c ∈ lead, isBlank c = true) ∧ ∀ c ∈ trail, isBlank c = true

variable {text : List Char} {row : Row}

@[simp] theorem laterText_nil : laterText [] = [] := rfl

@[simp] theorem laterText_cons (gap : Gap) (word : Word) (later : List (Gap × Word)) :
    laterText ((gap, word) :: later) = gap.chars ++ (word.chars ++ laterText later) := by
  simp [laterText]

theorem spans_text (row : Row) : row.Spans row.text :=
  ⟨[], [], by simp, List.forall_mem_nil _, List.forall_mem_nil _⟩

theorem exists_spans (text : List Char) : (∀ c ∈ text, isBlank c = true) ∨ ∃ row : Row, row.Spans text := by
  -- A blank in front joins the lead. Another character begins a word, or joins the one right behind it.
  induction text with
  | nil => exact Or.inl (List.forall_mem_nil _)
  | cons c rest ih =>
    cases here : isBlank c with
    | true =>
      refine ih.imp (fun blank => List.forall_mem_cons.mpr ⟨here, blank⟩) ?_
      rintro ⟨row, lead, trail, rfl, leading, trailing⟩
      exact ⟨row, c :: lead, trail, rfl, List.forall_mem_cons.mpr ⟨here, leading⟩, trailing⟩
    | false =>
      right
      rcases ih with blank | ⟨row, lead, trail, rfl, leading, trailing⟩
      · exact ⟨⟨Word.letter c here, []⟩, [], rest, rfl, List.forall_mem_nil _, blank⟩
      · by_cases none : lead = []
        · subst none
          exact ⟨⟨row.first.cons here, row.later⟩, [], trail, rfl, List.forall_mem_nil _, trailing⟩
        · refine ⟨⟨Word.letter c here, (⟨lead, none, leading⟩, row.first) :: row.later⟩, [], trail, ?_,
            List.forall_mem_nil _, trailing⟩
          simp [Row.text, Word.letter]

theorem ends_plain (row : Row) : ∃ front c, row.text = front ++ [c] ∧ isBlank c = false := by
  obtain ⟨first, later⟩ := row
  unfold Row.text
  induction later generalizing first with
  | nil =>
    have last := first.plain _ (List.getLast_mem first.nonempty)
    exact ⟨first.chars.dropLast, _, by simp [List.dropLast_append_getLast], last⟩
  | cons pair later ih =>
    obtain ⟨gap, word⟩ := pair
    obtain ⟨front, c, same, plain⟩ := ih word
    exact ⟨first.chars ++ (gap.chars ++ front), c, by simp [same], plain⟩

theorem solid_text (row : Row) : Solid row.text := by
  obtain ⟨c, rest, same⟩ := List.exists_cons_of_ne_nil row.first.nonempty
  have plain : isBlank c = false := row.first.plain c (by simp [same])
  exact ⟨⟨c, rest ++ laterText row.later, by simp [Row.text, same], plain⟩, row.ends_plain⟩

theorem text_eq_interleave (row : Row) : row.text = interleave row.words row.gaps := by
  obtain ⟨first, later⟩ := row
  unfold Row.text Row.words Row.gaps
  induction later generalizing first with
  | nil => simp [interleave]
  | cons pair later ih =>
    obtain ⟨gap, word⟩ := pair
    simp only [laterText_cons, List.map_cons, interleave, ← ih word, List.append_assoc]

/-! Reading the words and the gaps back. -/

theorem head_blank (later : List (Gap × Word)) {trail : List Char} (trailing : ∀ c ∈ trail, isBlank c = true) :
    ∀ c ∈ (laterText later ++ trail).head?, isBlank c = true := by
  intro c head
  cases later with
  | nil => exact trailing c (List.mem_of_mem_head? head)
  | cons pair later =>
    obtain ⟨⟨chars, nonempty, blank⟩, word⟩ := pair
    obtain ⟨d, rest, rfl⟩ := List.exists_cons_of_ne_nil nonempty
    have same : d = c := by simpa using head
    exact same ▸ blank d List.mem_cons_self

theorem words_laterText (later : List (Gap × Word)) {trail : List Char} (trailing : ∀ c ∈ trail, isBlank c = true) :
    Text.words (laterText later ++ trail) = later.map (·.2.chars) := by
  unfold Text.words
  induction later with
  | nil => exact stretches_eq_nil trailing
  | cons pair later ih =>
    obtain ⟨gap, word⟩ := pair
    rw [laterText_cons, List.append_assoc, List.append_assoc, stretches_skip gap.blank,
      stretches_append word.nonempty word.plain (head_blank later trailing), ih]
    rfl

theorem stretches_laterText (later : List (Gap × Word)) :
    stretches (fun c => !isBlank c) (laterText later) = later.map (·.1.chars) := by
  induction later with
  | nil => rfl
  | cons pair later ih =>
    obtain ⟨gap, word⟩ := pair
    rw [laterText_cons, stretches_append gap.nonempty (by simpa using gap.blank) (by simpa using word.head_plain _),
      stretches_skip (by simpa using word.plain), ih]
    rfl

namespace Spans

variable (spans : row.Spans text)

include spans

theorem words_eq : Text.words text = row.words := by
  obtain ⟨lead, trail, rfl, leading, trailing⟩ := spans
  have first := stretches_append row.first.nonempty row.first.plain (head_blank row.later trailing)
  have later := words_laterText row.later trailing
  unfold Text.words at later ⊢
  rw [stretches_skip leading, Row.text, List.append_assoc, first, later]
  rfl

theorem trim_eq : trim text = row.text := by
  obtain ⟨lead, trail, rfl, leading, trailing⟩ := spans
  exact row.solid_text.trim_eq leading trailing

theorem separators_eq : separators text = row.gaps := by
  unfold separators
  rw [spans.trim_eq, Row.text, stretches_skip (by simpa using row.first.plain), stretches_laterText]
  rfl

end Spans

end Row

section Blank

variable {text : List Char} (blank : ∀ c ∈ text, isBlank c = true)

include blank

theorem words_of_blank : words text = [] := stretches_eq_nil blank

theorem trim_of_blank : trim text = [] := by
  unfold trim
  rw [List.dropWhile_eq_nil_iff.mpr blank]
  rfl

theorem separators_of_blank : separators text = [] := by
  unfold separators
  rw [trim_of_blank blank]
  rfl

end Blank

end ItemQuery.Text
