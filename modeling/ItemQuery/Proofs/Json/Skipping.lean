import Mathlib.Data.List.DropRight
import ItemQuery.Proofs.Json.Reading

/-! Skipping values.

Every value that can be written is skipped, also one without a value of its own. A step
takes at least one character, so the text itself is fuel enough.
-/

set_option autoImplicit false

namespace ItemQuery.Json

variable {container : Container} {stack : List Container} {place : Place} {fuel rest : List Char}

/-- Inside a container space is passed over at every place. -/
theorem skipFrom_skipSpace (fuel : List Char) (place : Place) (stack : List Container) (source : List Char) :
    skipFrom fuel place (container :: stack) (skipSpace source) = skipFrom fuel place (container :: stack) source := by
  have again : skipSpace (skipSpace source) = skipSpace source := List.dropWhile_idempotent ..
  cases fuel with
  | nil => cases place <;> rfl
  | cons x fuel => cases place <;> rw [skipFrom, skipFrom, again]

theorem skipFrom_space (fuel : List Char) (place : Place) (stack : List Container) (space : Space)
    (source : List Char) : skipFrom fuel place (container :: stack) (space.blanks ++ source) =
      skipFrom fuel place (container :: stack) source := by
  rw [← skipFrom_skipSpace, skipSpace_append, skipFrom_skipSpace]

theorem skipFrom_value_space (fuel : List Char) (stack : List Container) (space : Space) (source : List Char) :
    skipFrom fuel .value stack (space.blanks ++ source) = skipFrom fuel .value stack source := by
  cases fuel with
  | nil => rfl
  | cons x fuel => rw [skipFrom, skipFrom, skipSpace_append]

/-- The text is skipped from a place on, in no more steps than it has characters. -/
def SkipsAt (place : Place) (stack : List Container) (text : List Char) : Prop :=
  ∀ fuel rest, Boundary rest → text.length ≤ fuel.length → ∃ left, fuel.length ≤ left.length + text.length ∧
    skipFrom fuel place stack (text ++ rest) = skipFrom left .done stack rest

namespace Container

/-- A part of a container can be skipped, and its first token does not close the container. -/
structure SkipsPart (container : Container) (part : List Char) : Prop where
  skips : ∀ stack, SkipsAt container.part (container :: stack) part
  opens : ∀ rest, ∃ c more, skipSpace (part ++ rest) = c :: more ∧ c ≠ container.closing

def opening : Container → Char
  | list => '['
  | object => '\x7b'

theorem closing_solid (container : Container) : isSpace container.closing = false := by cases container <;> decide

theorem closing_boundary (container : Container) (rest : List Char) : Boundary (container.closing :: rest) := by
  cases container
  · exact .bracket
  · exact .brace

theorem boundary_later (parts : List (List Char)) (close : Space) (rest : List Char) :
    Boundary (parts.flatMap (',' :: ·) ++ (close.blanks ++ container.closing :: rest)) := by
  cases parts with
  | nil => exact .space_append close (container.closing_boundary rest)
  | cons part parts => exact .comma

/-- Behind a part come the other parts, each after its comma, and the end of the container. -/
theorem skips_later {parts : List (List Char)} (skips : ∀ part ∈ parts, container.SkipsPart part)
    (stack : List Container) (close : Space) (fuel rest : List Char)
    (enough : (parts.flatMap (',' :: ·)).length + 1 ≤ fuel.length) :
    ∃ left, fuel.length ≤ left.length + ((parts.flatMap (',' :: ·)).length + 1) ∧
      skipFrom fuel .done (container :: stack)
        (parts.flatMap (',' :: ·) ++ (close.blanks ++ container.closing :: rest)) = skipFrom left .done stack rest := by
  induction parts generalizing fuel with
  | nil =>
    obtain _ | ⟨x, fuel⟩ := fuel
    · cases enough
    have other : container.closing ≠ ',' := by cases container <;> decide
    refine ⟨fuel, by simp, ?_⟩
    rw [List.flatMap_nil, List.nil_append, skipFrom_space, skipFrom, skipSpace_cons container.closing_solid]
    simp only [other, if_false, if_true]
  | cons part parts ih =>
    obtain _ | ⟨x, fuel⟩ := fuel
    · cases enough
    obtain ⟨here, others⟩ := List.forall_mem_cons.mp skips
    simp only [List.flatMap_cons, List.cons_append, List.append_assoc, List.length_cons, List.length_append]
      at enough ⊢
    have boundary : Boundary (parts.flatMap (',' :: ·) ++ (close.blanks ++ container.closing :: rest)) :=
      boundary_later parts close rest
    obtain ⟨between, boundBetween, skipped⟩ := here.skips stack fuel _ boundary (by omega)
    obtain ⟨left, bound, later⟩ := ih others between (by omega)
    refine ⟨left, by omega, ?_⟩
    rw [skipFrom, skipSpace_cons (by decide)]
    simp only [if_true, skipped, later]

theorem skipFrom_opening (container : Container) (x : Char) (fuel : List Char) (stack : List Container)
    (source : List Char) : skipFrom (x :: fuel) .value stack (container.opening :: source) =
    match skipSpace source with
    | [] => .error .truncated
    | c :: rest =>
      if c = container.closing then skipFrom fuel .done stack rest
      else skipFrom fuel container.part (container :: stack) (c :: rest) := by
  have opened : skipHead (container.opening :: source) = .ok (some container, source) := by cases container <;> rfl
  have solid : isSpace container.opening = false := by cases container <;> decide
  rw [skipFrom, skipSpace_cons solid]
  exact Except.bind_eq_of_ok opened

theorem skipsAt_parts {parts : List (List Char)} (skips : ∀ part ∈ parts, container.SkipsPart part)
    (stack : List Container) (close : Space) :
    SkipsAt .value stack (container.opening :: (Text.join ',' parts ++ close.blanks ++ [container.closing])) := by
  intro fuel rest boundary enough
  simp only [List.length_cons, List.length_append, List.length_nil] at enough ⊢
  obtain _ | ⟨x, fuel⟩ := fuel
  · cases enough
  rw [List.length_cons] at enough ⊢
  rw [List.cons_append, skipFrom_opening, List.append_assoc, List.append_assoc, List.singleton_append]
  cases parts with
  | nil =>
    refine ⟨fuel, by omega, ?_⟩
    rw [Text.join_nil, List.nil_append, skipSpace_append, skipSpace_cons container.closing_solid]
    simp only [if_true]
  | cons part parts =>
    obtain ⟨here, others⟩ := List.forall_mem_cons.mp skips
    rw [Text.join_cons, List.length_append] at enough ⊢
    have boundary : Boundary (parts.flatMap (',' :: ·) ++ (close.blanks ++ container.closing :: rest)) :=
      boundary_later parts close rest
    -- What the first part leaves of the fuel is enough for the others.
    obtain ⟨between, boundBetween, skipped⟩ := here.skips stack fuel _ boundary (by omega)
    obtain ⟨left, bound, later⟩ := skips_later others stack close between rest (by omega)
    refine ⟨left, by omega, ?_⟩
    rw [List.append_assoc]
    obtain ⟨c, more, first, opens⟩ := here.opens
      (parts.flatMap (',' :: ·) ++ (close.blanks ++ container.closing :: rest))
    rw [first]
    simp only [opens, if_false]
    rw [← first, skipFrom_skipSpace, skipped, later]

end Container

namespace Spelling

theorem skipsPart_item {item : Padded Spelling} (skips : ∀ stack, SkipsAt .value stack item.inner.chars) :
    Container.list.SkipsPart (item.before.blanks ++ (item.inner.chars ++ item.after.blanks)) where
  skips stack fuel rest boundary enough := by
    simp only [List.length_append] at enough ⊢
    obtain ⟨left, bound, skipped⟩ := skips (.list :: stack) fuel (item.after.blanks ++ rest)
      (.space_append item.after boundary) (by omega)
    refine ⟨left, by omega, ?_⟩
    rw [List.append_assoc, List.append_assoc]
    exact ((skipFrom_space ..).trans skipped).trans (skipFrom_space ..)
  opens rest := by
    obtain ⟨c, more, chars, solid, other⟩ := item.inner.exists_cons
    refine ⟨c, more ++ (item.after.blanks ++ rest), ?_, other⟩
    rw [List.append_assoc, skipSpace_append, chars, List.append_assoc, List.cons_append, skipSpace_cons solid]

theorem skipKey_append (key : Quotation) (space : Space) (rest : List Char) :
    skipKey (key.chars ++ (space.blanks ++ ':' :: rest)) = .ok rest := by
  rw [Quotation.chars, List.cons_append, List.append_assoc, List.singleton_append, skipKey,
    Except.bind_eq_of_ok (key.skipText_append _), skipSpace_append, skipSpace_cons (by decide)]
  rfl

theorem skipsPart_pair {pair : Pair Spelling} (skips : ∀ stack, SkipsAt .value stack pair.value.inner.chars) :
    Container.object.SkipsPart (pair.key.before.blanks ++ (pair.key.inner.chars ++ (pair.key.after.blanks ++
      ':' :: (pair.value.before.blanks ++ (pair.value.inner.chars ++ pair.value.after.blanks))))) where
  skips stack fuel rest boundary enough := by
    obtain _ | ⟨x, fuel⟩ := fuel
    · simp [Quotation.chars] at enough
    simp only [List.length_append, List.length_cons] at enough ⊢
    obtain ⟨left, bound, skipped⟩ := skips (.object :: stack) fuel (pair.value.after.blanks ++ rest)
      (.space_append pair.value.after boundary) (by omega)
    refine ⟨left, by omega, ?_⟩
    have solid (more : List Char) : skipSpace (pair.key.inner.chars ++ more) = pair.key.inner.chars ++ more :=
      skipSpace_cons (by decide) _
    simp only [List.append_assoc, List.cons_append, Container.part]
    rw [skipFrom, skipSpace_append, solid, Except.bind_eq_of_ok (skipKey_append ..), skipFrom_space, skipped,
      skipFrom_space]
  opens rest := by
    have first {more : List Char} : ∃ c rest, skipSpace (pair.key.inner.chars ++ more) = c :: rest ∧ c ≠ '\x7d' :=
      ⟨'"', _, skipSpace_cons (by decide) _, by decide⟩
    rw [List.append_assoc, skipSpace_append, List.append_assoc]
    exact first

theorem skipsAt_value (spelling : Spelling) (stack : List Container) : SkipsAt .value stack spelling.chars := by
  induction spelling using Spelling.induction generalizing stack with
  | scalar token =>
    intro fuel rest boundary enough
    have solid := (scalar token).skipSpace_chars rest
    obtain ⟨c, more, chars, -⟩ := (scalar token).exists_cons
    obtain _ | ⟨x, fuel⟩ := fuel
    · simp [chars] at enough
    refine ⟨fuel, ?_, ?_⟩
    · simp only [chars, List.length_cons]
      omega
    · rw [skipFrom, solid, Spelling.chars, Except.bind_eq_of_ok (token.skipHead_append boundary)]
  | list items close ih =>
    have parts : ∀ part ∈ itemTexts items, Container.list.SkipsPart part := by
      rw [itemTexts_eq, List.forall_mem_map]
      exact fun item listed => skipsPart_item (ih item listed)
    exact Container.skipsAt_parts parts stack close
  | object pairs close ih =>
    have parts : ∀ part ∈ pairTexts pairs, Container.object.SkipsPart part := by
      rw [pairTexts_eq, List.forall_mem_map]
      exact fun pair listed => skipsPart_pair (ih pair listed)
    exact Container.skipsAt_parts parts stack close

/-- Any value that is written is skipped. -/
theorem skip_append (spelling : Spelling) (space : Space) {rest : List Char} (boundary : Boundary rest) :
    skip (space.blanks ++ (spelling.chars ++ rest)) = .ok rest := by
  obtain ⟨left, -, skipped⟩ := spelling.skipsAt_value [] (space.blanks ++ (spelling.chars ++ rest)) rest boundary (by
    simp only [List.length_append]
    omega)
  rw [skip, skipFrom_value_space, skipped]
  cases left <;> rfl

end Spelling

end ItemQuery.Json
