import ItemQuery.Pattern
import ItemQuery.Text.Join

/-! Shortening works between separators.

Both replacements look for a word of five characters. A character that is not in the word
cannot lie inside an occurrence, so the texts on its two sides are shortened on their own.
-/

set_option autoImplicit false

namespace ItemQuery.Pattern

/-- Every occurrence of a word is replaced, from left to right and not overlapping. -/
structure Replaces (word replacement : List Char) (f : List Char → List Char) : Prop where
  nonempty : word ≠ []
  nil : f [] = []
  hit : ∀ rest, f (word ++ rest) = replacement ++ f rest
  skip : ∀ c rest, ¬word <+: c :: rest → f (c :: rest) = c :: f rest

theorem isPrefix_before_separator {word before after : List Char} {separator : Char} (outside : separator ∉ word) :
    word <+: before ++ separator :: after ↔ word <+: before := by
  refine ⟨fun found => ?_, fun front => front.trans (List.prefix_append _ _)⟩
  rcases Nat.lt_or_ge before.length word.length with longer | short
  -- A longer word would go on past the separator and hold it.
  · have reaches : before ++ [separator] <+: before ++ separator :: after := ⟨after, by simp⟩
    have within : before ++ [separator] <+: word :=
      List.prefix_of_prefix_length_le reaches found (by rw [List.length_append]; exact longer)
    exact absurd (within.subset (by simp)) outside
  · exact List.prefix_of_prefix_length_le found (List.prefix_append _ _) short

/-- A text as a search for the word goes through it. -/
theorem scan_induction {word : List Char} (nonempty : word ≠ []) {motive : List Char → Prop} (nil : motive [])
    (hit : ∀ rest, motive rest → motive (word ++ rest))
    (skip : ∀ c rest, ¬word <+: c :: rest → motive rest → motive (c :: rest)) (text : List Char) : motive text := by
  induction length : text.length using Nat.strongRecOn generalizing text with
  | ind n ih =>
    by_cases front : word <+: text
    · obtain ⟨rest, rfl⟩ := front
      have some := List.length_pos_iff.mpr nonempty
      rw [List.length_append] at length
      exact hit rest (ih rest.length (by omega) rest rfl)
    · cases text with
      | nil => exact nil
      | cons c rest =>
        rw [List.length_cons] at length
        exact skip c rest front (ih rest.length (by omega) rest rfl)

section Replacing

variable {word replacement : List Char} {f : List Char → List Char} (replaces : Replaces word replacement f)

include replaces

theorem Replaces.append_separator {separator : Char} (outside : separator ∉ word) (before after : List Char) :
    f (before ++ separator :: after) = f before ++ separator :: f after := by
  -- Before the separator, the replacement scans as it does where the text ends there.
  induction before using scan_induction replaces.nonempty with
  | nil =>
    have alone : ¬word <+: separator :: after := by
      rw [← List.nil_append (separator :: after), isPrefix_before_separator outside, List.prefix_nil]
      exact replaces.nonempty
    rw [List.nil_append, replaces.skip _ _ alone, replaces.nil, List.nil_append]
  | hit rest ih => rw [List.append_assoc, replaces.hit, replaces.hit, ih, List.append_assoc]
  | skip c rest front ih =>
    have apart : ¬word <+: c :: (rest ++ separator :: after) := by
      rwa [← List.cons_append, isPrefix_before_separator outside]
    rw [List.cons_append, replaces.skip _ _ apart, replaces.skip _ _ front, ih, List.cons_append]

theorem Replaces.mem {c : Char} {text : List Char} (found : c ∈ f text) : c ∈ text ∨ c ∈ replacement := by
  induction text using scan_induction replaces.nonempty with
  | nil => exact Or.inl (replaces.nil ▸ found)
  | hit rest ih =>
    rw [replaces.hit, List.mem_append] at found
    rcases found with found | found
    · exact Or.inr found
    · exact (ih found).imp_left (List.mem_append_right word)
  | skip d rest front ih =>
    rw [replaces.skip d rest front] at found
    rcases List.mem_cons.mp found with same | found
    · exact Or.inl (same ▸ List.mem_cons_self)
    · exact (ih found).imp_left (List.mem_cons_of_mem d)

theorem Replaces.eq_self {text : List Char} (absent : ¬word <:+: text) : f text = text := by
  induction text with
  | nil => exact replaces.nil
  | cons c rest ih =>
    have later : ¬word <:+: rest := fun inside => absent (inside.trans (List.suffix_cons c rest).isInfix)
    rw [replaces.skip c rest fun front => absent front.isInfix, ih later]

theorem Replaces.skip_append {first : Char} (begins : word.head? = some first) {front : List Char}
    (free : first ∉ front) (rest : List Char) : f (front ++ rest) = front ++ f rest := by
  induction front with
  | nil => rfl
  | cons c front ih =>
    obtain ⟨here, others⟩ := not_or.mp (mt List.mem_cons.mpr free)
    have absent : ¬word <+: c :: (front ++ rest) := by
      intro found
      obtain ⟨tail, rfl⟩ := List.head?_eq_some_iff.mp begins
      exact here (List.cons_prefix_cons.mp found).1
    rw [List.cons_append, replaces.skip _ _ absent, ih others, List.cons_append]

theorem Replaces.ne_nil (some : replacement ≠ []) {text : List Char} (nonempty : text ≠ []) : f text ≠ [] := by
  cases text using scan_induction replaces.nonempty with
  | nil => exact absurd rfl nonempty
  | hit rest _ =>
    rw [replaces.hit]
    exact List.append_ne_nil_of_left_ne_nil some _
  | skip c rest front _ =>
    rw [replaces.skip c rest front]
    exact List.cons_ne_nil _ _

end Replacing

theorem shortenEights_replaces : Replaces ['[', '8', '-', '9', ']'] ['[', '8', '9', ']'] shortenEights where
  nonempty := List.cons_ne_nil _ _
  nil := rfl
  hit _ := rfl
  skip c rest absent := by
    refine shortenEights.eq_2 c rest fun after first others => absent ?_
    rw [first, others]
    exact ⟨after, rfl⟩

theorem shortenNines_replaces : Replaces ['[', '9', '-', '9', ']'] ['9'] shortenNines where
  nonempty := List.cons_ne_nil _ _
  nil := rfl
  hit _ := rfl
  skip c rest absent := by
    refine shortenNines.eq_2 c rest fun after first others => absent ?_
    rw [first, others]
    exact ⟨after, rfl⟩

/-- No occurrence of a shortened class holds such a character. -/
def Separates (c : Char) : Prop := c ∉ ['[', ']', '-', '8', '9']

instance (c : Char) : Decidable (Separates c) := inferInstanceAs (Decidable (c ∉ _))

variable {separator : Char}

theorem shorten_append_separator (separates : Separates separator) (before after : List Char) :
    shorten (before ++ separator :: after) = shorten before ++ separator :: shorten after := by
  have outsideEights : separator ∉ ['[', '8', '-', '9', ']'] := by simp_all [Separates]
  have outsideNines : separator ∉ ['[', '9', '-', '9', ']'] := by simp_all [Separates]
  rw [shorten, shortenEights_replaces.append_separator outsideEights,
    shortenNines_replaces.append_separator outsideNines]
  rfl

@[simp] theorem shorten_nil : shorten [] = [] := rfl

theorem shorten_cons {c : Char} (other : c ≠ '[') (rest : List Char) : shorten (c :: rest) = c :: shorten rest := by
  rw [shorten, shortenEights_replaces.skip c rest, shortenNines_replaces.skip c]
  · rfl
  all_goals
    rintro ⟨after, same⟩
    exact other (List.cons_eq_cons.mp same).1.symm

theorem shorten_join (separates : Separates separator) (parts : List (List Char)) :
    shorten (Text.join separator parts) = Text.join separator (parts.map shorten) := by
  cases parts with
  | nil => rfl
  | cons part rest =>
    induction rest generalizing part with
    | nil => rfl
    | cons second rest ih =>
      rw [Text.join_cons_cons, shorten_append_separator separates, ih]
      rfl

theorem mem_shorten {c : Char} {text : List Char} (found : c ∈ shorten text) :
    c ∈ text ∨ c ∈ ['[', '8', '9', ']'] := by
  rcases shortenNines_replaces.mem found with found | found
  · exact shortenEights_replaces.mem found
  · exact Or.inr (by rw [List.mem_singleton.mp found]; decide)

theorem shorten_ne_nil {text : List Char} (nonempty : text ≠ []) : shorten text ≠ [] :=
  shortenNines_replaces.ne_nil (List.cons_ne_nil _ _) (shortenEights_replaces.ne_nil (List.cons_ne_nil _ _) nonempty)

end ItemQuery.Pattern
