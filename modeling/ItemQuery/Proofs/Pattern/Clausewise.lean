import ItemQuery.Proofs.Pattern.Brackets
import ItemQuery.Proofs.Text.Collapse

/-! Shortening goes word by word, so it may come before or after the blanks are collapsed.

Blanks are separators, and a shortened word is a word. So a row of words stays a row, with
its gaps as they were. Main statement: `shorten_clausewise`.
-/

set_option autoImplicit false

namespace ItemQuery

namespace Text

open Pattern

theorem separates_of_blank {c : Char} (blank : isBlank c = true) : Separates c := by
  intro member
  have plain : ['[', ']', '-', '8', '9'].all (fun c => !isBlank c) = true := rfl
  simpa [blank] using List.all_eq_true.mp plain c member

theorem shorten_blank_append {front : List Char} (blank : ∀ c ∈ front, isBlank c = true) (rest : List Char) :
    shorten (front ++ rest) = front ++ shorten rest := by
  induction front with
  | nil => rfl
  | cons c front ih =>
    obtain ⟨here, others⟩ := List.forall_mem_cons.mp blank
    have other : c ≠ '[' := by
      rintro rfl
      cases here
    rw [List.cons_append, shorten_cons other, ih others, List.cons_append]

theorem shorten_append {front rest : List Char} (ends : ∀ c ∈ rest.head?, isBlank c = true) :
    shorten (front ++ rest) = shorten front ++ shorten rest := by
  cases rest with
  | nil => simp
  | cons c rest =>
    have blank : isBlank c = true := ends c rfl
    have alone : shorten ([c] ++ rest) = [c] ++ shorten rest :=
      shorten_blank_append (List.forall_mem_singleton.mpr blank) rest
    rw [shorten_append_separator (separates_of_blank blank)]
    exact congrArg (shorten front ++ ·) alone.symm

def Word.shorten (word : Word) : Word where
  chars := Pattern.shorten word.chars
  nonempty := shorten_ne_nil word.nonempty
  plain c found := by
    rcases mem_shorten found with found | found
    · exact word.plain c found
    · have plain : ['[', '8', '9', ']'].all (fun c => !isBlank c) = true := rfl
      simpa using List.all_eq_true.mp plain c found

namespace Row

def shorten (row : Row) : Row := ⟨row.first.shorten, row.later.map (Prod.map id Word.shorten)⟩

theorem shorten_laterText (later : List (Gap × Word)) {trail : List Char} (trailing : ∀ c ∈ trail, isBlank c = true) :
    Pattern.shorten (laterText later ++ trail) = laterText (later.map (Prod.map id Word.shorten)) ++ trail := by
  induction later with
  | nil =>
    have same := shorten_blank_append trailing []
    simpa using same
  | cons pair later ih =>
    obtain ⟨gap, word⟩ := pair
    rw [laterText_cons, List.append_assoc, List.append_assoc, shorten_blank_append gap.blank,
      shorten_append (head_blank later trailing), ih]
    simp [Word.shorten]

theorem shorten_text_append (row : Row) {trail : List Char} (trailing : ∀ c ∈ trail, isBlank c = true) :
    Pattern.shorten (row.text ++ trail) = row.shorten.text ++ trail := by
  rw [Row.text, List.append_assoc, shorten_append (head_blank row.later trailing), shorten_laterText _ trailing,
    ← List.append_assoc]
  rfl

theorem shorten_text (row : Row) : Pattern.shorten row.text = row.shorten.text := by
  simpa using row.shorten_text_append (List.forall_mem_nil _)

theorem Spans.shorten {row : Row} {text : List Char} (spans : row.Spans text) :
    row.shorten.Spans (Pattern.shorten text) := by
  obtain ⟨lead, trail, rfl, leading, trailing⟩ := spans
  exact ⟨lead, trail, by rw [shorten_blank_append leading, row.shorten_text_append trailing], leading, trailing⟩

theorem shrink_shorten (row : Row) : row.shrink.shorten = row.shorten.shrink := by
  simp [shrink, shorten]

end Row

end Text

namespace Pattern

open Text

theorem shorten_collapse (text : List Char) : shorten (collapse text) = collapse (shorten text) := by
  rcases Row.exists_spans text with blank | ⟨row, spans⟩
  · have same : shorten text = text := by simpa using shorten_blank_append blank []
    rw [same, collapse_of_blank blank, shorten_nil]
  · rw [spans.collapse_eq, spans.shorten.collapse_eq, Row.shorten_text, Row.shrink_shorten]

/-- What stands on the two sides of a separator is shortened on its own, and it makes no difference whether blanks
are collapsed before. Where brackets are not nested, no class is left that could be shortened. -/
theorem shorten_clausewise :
    (∀ before after c, Separates c → shorten (before ++ c :: after) = shorten before ++ c :: shorten after) ∧
    (∀ text, shorten (collapse text) = collapse (shorten text)) ∧
    ∀ text, Flat text → ¬['[', '8', '-', '9', ']'] <:+: shorten text ∧ ¬['[', '9', '-', '9', ']'] <:+: shorten text ∧
      shorten (shorten text) = shorten text := by
  refine ⟨fun before after c separates => shorten_append_separator separates before after, shorten_collapse, ?_⟩
  intro text flat
  have noEights := not_infix_shorten (Or.inl rfl) flat
  have noNines := not_infix_shorten (Or.inr rfl) flat
  exact ⟨noEights, noNines, shorten_eq_self noEights noNines⟩

/-- Two classes in a row, then one behind a separator and a bracket that stays open. -/
def tensOrOnes : List Char :=
  ['1', '[', '8', '-', '9', ']', '[', '9', '-', '9', ']'] ++ '|' :: ['[', '9', '-', '9', ']', '.', '[', '8', '-', '9']

theorem shorten_clausewise_classes :
    Separates '|' ∧ Flat tensOrOnes ∧
    shorten tensOrOnes = ['1', '[', '8', '9', ']', '9'] ++ '|' :: ['9', '.', '[', '8', '-', '9'] ∧
    ¬['[', '8', '-', '9', ']'] <:+: shorten tensOrOnes ∧ ¬['[', '9', '-', '9', ']'] <:+: shorten tensOrOnes ∧
    shorten (shorten tensOrOnes) = shorten tensOrOnes := by
  have separates : Separates '|' := by decide
  have flat : Flat tensOrOnes := by decide
  exact ⟨separates, flat, shorten_clausewise.1 _ _ '|' separates, shorten_clausewise.2.2 tensOrOnes flat⟩

/-- With nested brackets, the digit of the inner class makes an outer one. -/
example : shorten ['[', '[', '9', '-', '9', ']', '-', '9', ']'] = ['[', '9', '-', '9', ']'] := by decide

end Pattern

end ItemQuery
