import ItemQuery.Proofs.Text.Words

/-! Collapsing a row of words: the blanks around it go, and each gap shrinks to a single blank.

What remains is a row again, of the same words, which collapsing leaves as it is. Main
statement: `collapse_normal`.
-/

set_option autoImplicit false

namespace ItemQuery.Text

section Collapsing

variable {text lead trail : List Char}

theorem collapse_of_blank (blank : ∀ c ∈ text, isBlank c = true) : collapse text = [] := by
  unfold collapse
  rw [List.dropWhile_eq_nil_iff.mpr blank]
  rfl

theorem collapseFrom_of_blank (trailing : ∀ c ∈ trail, isBlank c = true) (run : List Char) :
    collapseFrom run trail = [] := by
  induction trail generalizing run with
  | nil => rfl
  | cons c trail ih =>
    obtain ⟨here, others⟩ := List.forall_mem_cons.mp trailing
    rw [collapseFrom_blank here, ih others]

theorem Solid.collapse_eq (solid : Solid text) (leading : ∀ c ∈ lead, isBlank c = true)
    (trailing : ∀ c ∈ trail, isBlank c = true) : collapse (lead ++ (text ++ trail)) = squeeze text := by
  unfold collapse
  rw [solid.dropWhile_eq leading, solid.collapseFrom_append (List.forall_mem_nil _), collapseFrom_of_blank trailing]
  simp [gap]

end Collapsing

namespace Word

variable (word : Word) {rest : List Char}

theorem squeeze_append (rest : List Char) : squeeze (word.chars ++ rest) = word.chars ++ squeeze rest := by
  have apart : ∀ a ∈ word.chars.getLast?, ∀ b ∈ rest.head?, (isBlank a && isBlank b) = false := by
    intro a last b _
    simp [word.last_plain a last]
  rw [Text.squeeze_append apart, squeeze_words word.plain]

theorem isChain_append (chain : rest.IsChain fun a b => (isBlank a && isBlank b) = false) :
    (word.chars ++ rest).IsChain fun a b => (isBlank a && isBlank b) = false := by
  have inner : word.chars.IsChain fun a b => (isBlank a && isBlank b) = false :=
    (List.pairwise_of_forall_mem_list fun a inside b _ => by simp [word.plain a inside]).isChain
  refine List.isChain_append.mpr ⟨inner, chain, fun a last b _ => ?_⟩
  simp [word.last_plain a last]

end Word

namespace Gap

/-- The gap itself when it is a single blank, otherwise a space. -/
def shrink (gap : Gap) : Gap where
  chars := if gap.chars.length = 1 then gap.chars else [' ']
  nonempty := by split <;> simp [gap.nonempty]
  blank := by
    split
    · exact gap.blank
    · exact List.forall_mem_singleton.mpr rfl

variable (gap : Gap)

theorem gap_chars : Text.gap gap.chars = gap.shrink.chars := by
  obtain ⟨chars, nonempty, blank⟩ := gap
  match chars, nonempty with
  | [_], _ => rfl
  | _ :: _ :: _, _ => rfl

theorem length_shrink : gap.shrink.chars.length = 1 := by
  unfold shrink
  split
  · assumption
  · rfl

theorem shrink_shrink : gap.shrink.shrink = gap.shrink := Gap.ext (if_pos gap.length_shrink)

end Gap

namespace Row

def shrink (row : Row) : Row := ⟨row.first, row.later.map (Prod.map Gap.shrink id)⟩

variable {text : List Char} {row : Row}

@[simp] theorem words_shrink (row : Row) : row.shrink.words = row.words := by
  simp [words, shrink]

theorem gaps_shrink (row : Row) :
    row.shrink.gaps = row.gaps.map fun run => if run.length = 1 then run else [' '] := by
  simp [gaps, shrink, Gap.shrink]

theorem length_of_mem_gaps_shrink {run : List Char} (member : run ∈ row.shrink.gaps) : run.length = 1 := by
  rw [gaps_shrink] at member
  obtain ⟨other, -, rfl⟩ := List.mem_map.mp member
  split
  · assumption
  · rfl

theorem shrink_shrink (row : Row) : row.shrink.shrink = row.shrink := by
  simp [shrink, Gap.shrink_shrink]

theorem squeeze_laterText (later : List (Gap × Word)) :
    squeeze (laterText later) = laterText (later.map (Prod.map Gap.shrink id)) := by
  induction later with
  | nil => rfl
  | cons pair later ih =>
    obtain ⟨gap, word⟩ := pair
    have apart : ∀ a ∈ gap.chars.getLast?, ∀ b ∈ (word.chars ++ laterText later).head?,
        (isBlank a && isBlank b) = false := by
      intro a _ b head
      simp [word.head_plain _ b head]
    rw [laterText_cons, squeeze_append apart, squeeze_run gap.blank, gap.gap_chars, word.squeeze_append, ih]
    simp

theorem squeeze_text (row : Row) : squeeze row.text = row.shrink.text := by
  rw [Row.text, row.first.squeeze_append, squeeze_laterText]
  rfl

theorem Spans.collapse_eq (spans : row.Spans text) : collapse text = row.shrink.text := by
  obtain ⟨lead, trail, rfl, leading, trailing⟩ := spans
  rw [row.solid_text.collapse_eq leading trailing, squeeze_text]

/-- Where all gaps are single blanks, no two blanks stand side by side. -/
theorem isChain_text (single : ∀ run ∈ row.gaps, run.length = 1) :
    row.text.IsChain fun a b => (isBlank a && isBlank b) = false := by
  obtain ⟨first, later⟩ := row
  unfold Row.text
  unfold Row.gaps at single
  induction later generalizing first with
  | nil => exact first.isChain_append .nil
  | cons pair later ih =>
    obtain ⟨gap, word⟩ := pair
    obtain ⟨here, others⟩ := List.forall_mem_cons.mp single
    obtain ⟨b, alone⟩ : ∃ b, gap.chars = [b] := List.length_eq_one_iff.mp here
    rw [laterText_cons, alone]
    apply first.isChain_append
    refine List.isChain_cons.mpr ⟨fun c head => ?_, ih word others⟩
    simp [word.head_plain _ c head]

end Row

theorem Solid.head_plain {text : List Char} (solid : Solid text) : ∀ c ∈ text.head?, isBlank c = false := by
  obtain ⟨⟨c, rest, rfl, plain⟩, -⟩ := solid
  simpa using plain

theorem Solid.last_plain {text : List Char} (solid : Solid text) : ∀ c ∈ text.getLast?, isBlank c = false := by
  obtain ⟨-, front, c, rfl, plain⟩ := solid
  simpa using plain

/-- Collapsing keeps the words of a text in their order. No blank is left at an end or next to another one, and
between two words stands what stood there if that was a single blank, and a space otherwise. -/
theorem collapse_normal (text : List Char) :
    (∀ c ∈ (collapse text).head?, isBlank c = false) ∧ (∀ c ∈ (collapse text).getLast?, isBlank c = false) ∧
    ((collapse text).IsChain fun a b => (isBlank a && isBlank b) = false) ∧
    words (collapse text) = words text ∧
    separators (collapse text) = (separators text).map (fun run => if run.length = 1 then run else [' ']) ∧
    trim text = interleave (words text) (separators text) ∧
    collapse text = interleave (words text) ((separators text).map fun run => if run.length = 1 then run else [' ']) ∧
    collapse (collapse text) = collapse text := by
  rcases Row.exists_spans text with blank | ⟨row, spans⟩
  · rw [collapse_of_blank blank, words_of_blank blank, separators_of_blank blank, trim_of_blank blank]
    exact ⟨nofun, nofun, .nil, rfl, rfl, rfl, rfl, rfl⟩
  · have again := row.shrink.spans_text
    have solid := row.shrink.solid_text
    have single : ∀ run ∈ row.shrink.gaps, run.length = 1 := fun _ => Row.length_of_mem_gaps_shrink
    rw [spans.collapse_eq, spans.words_eq, spans.separators_eq, spans.trim_eq, again.collapse_eq, again.words_eq,
      again.separators_eq, row.shrink_shrink]
    refine ⟨solid.head_plain, solid.last_plain, Row.isChain_text single, row.words_shrink, row.gaps_shrink,
      row.text_eq_interleave, ?_, rfl⟩
    rw [row.shrink.text_eq_interleave, row.words_shrink, row.gaps_shrink]

/-- A tab alone stays, a tab and a space become a space, and the blanks at the ends go. -/
example : collapse ['\n', 'a', '\t', 'b', '\t', ' ', 'c', ' '] = ['a', '\t', 'b', ' ', 'c'] := by decide

end ItemQuery.Text
