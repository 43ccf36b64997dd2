import ItemQuery.Proofs.Text.Join
import ItemQuery.Text.Blank
import Mathlib.Data.List.SplitBy

/-! Collapsing the blanks of a joined text.

Texts that neither begin nor end with a blank keep their inner blanks apart from the spaces
that they are joined by. So each of them is squeezed on its own, and an empty one is lost
with its space.
-/

set_option autoImplicit false

namespace ItemQuery.Text

/-- One space in place of every run of two or more blanks. -/
def squeeze (text : List Char) : List Char := (text.splitBy fun a b => isBlank a && isBlank b).flatMap gap

@[simp] theorem squeeze_nil : squeeze [] = [] := rfl

theorem squeeze_append {first second : List Char}
    (apart : ∀ a ∈ first.getLast?, ∀ b ∈ second.head?, (isBlank a && isBlank b) = false) :
    squeeze (first ++ second) = squeeze first ++ squeeze second := by
  rw [squeeze, List.splitBy_append apart, List.flatMap_append]
  rfl

theorem squeeze_cons {c : Char} (word : isBlank c = false) (rest : List Char) :
    squeeze (c :: rest) = c :: squeeze rest := by
  have apart : ∀ a ∈ [c].getLast?, ∀ b ∈ rest.head?, (isBlank a && isBlank b) = false := by simp [word]
  exact squeeze_append apart

theorem squeeze_concat {c : Char} (word : isBlank c = false) (text : List Char) :
    squeeze (text ++ [c]) = squeeze text ++ [c] := by
  have apart : ∀ a ∈ text.getLast?, ∀ b ∈ [c].head?, (isBlank a && isBlank b) = false := by simp [word]
  exact squeeze_append apart

theorem squeeze_words {text : List Char} (words : ∀ c ∈ text, isBlank c = false) : squeeze text = text := by
  induction text with
  | nil => rfl
  | cons c rest ih =>
    obtain ⟨word, others⟩ := List.forall_mem_cons.mp words
    rw [squeeze_cons word, ih others]

theorem squeeze_run {run : List Char} (blank : ∀ c ∈ run, isBlank c = true) : squeeze run = gap run := by
  cases run with
  | nil => rfl
  | cons first rest =>
    have chain : (first :: rest).IsChain fun a b => (isBlank a && isBlank b) = true :=
      (List.pairwise_of_forall_mem_list fun a inside b other =>
        Bool.and_eq_true_iff.mpr ⟨blank a inside, blank b other⟩).isChain
    rw [squeeze, List.splitBy_of_isChain (List.cons_ne_nil _ _) chain, List.flatMap_singleton]

theorem gap_of_two_le {run : List Char} (long : 2 ≤ run.length) : gap run = [' '] := by
  match run, long with
  | _ :: _ :: _, _ => rfl

theorem gap_reverse (run : List Char) : gap run.reverse = gap run := by
  match run with
  | [] => rfl
  | [_] => rfl
  | first :: second :: rest => exact gap_of_two_le (by simp)

theorem mem_squeeze {c : Char} {text : List Char} (found : c ∈ squeeze text) : c ∈ text ∨ c = ' ' := by
  obtain ⟨run, listed, inside⟩ := List.mem_flatMap.mp found
  rcases run with _ | ⟨first, _ | ⟨second, rest⟩⟩
  · cases inside
  · rw [← List.flatten_splitBy (fun a b => isBlank a && isBlank b) text]
    exact Or.inl (List.mem_flatten.mpr ⟨_, listed, inside⟩)
  · exact Or.inr (List.mem_singleton.mp inside)

/-- A word ends the run of blanks before it. -/
theorem squeeze_run_cons {c : Char} (word : isBlank c = false) {run : List Char}
    (blank : ∀ c ∈ run, isBlank c = true) (rest : List Char) :
    squeeze (run.reverse ++ c :: rest) = gap run ++ c :: squeeze rest := by
  rw [List.append_cons, squeeze_append (by simp [word]), squeeze_concat word, squeeze_run (by simpa using blank),
    gap_reverse, List.append_assoc, List.singleton_append]

/-! Collapsing a text that others follow. -/

/-- Up to its last word, a text is squeezed on its own, with the run of blanks that it goes on from. -/
theorem collapseFrom_append {c : Char} (word : isBlank c = false) (text rest : List Char) {run : List Char}
    (blank : ∀ c ∈ run, isBlank c = true) :
    collapseFrom run (text ++ c :: rest) = squeeze (run.reverse ++ (text ++ [c])) ++ collapseFrom [] rest := by
  -- On the text: a blank makes the run longer, a word ends it.
  induction text generalizing run with
  | nil =>
    rw [List.nil_append, List.nil_append, collapseFrom_word word, squeeze_run_cons word blank, squeeze_nil,
      List.append_assoc, List.singleton_append]
  | cons d text ih =>
    cases inner : isBlank d with
    | true =>
      rw [List.cons_append, collapseFrom_blank inner, ih (List.forall_mem_cons.mpr ⟨inner, blank⟩)]
      simp
    | false =>
      rw [List.cons_append, collapseFrom_word inner, ih (List.forall_mem_nil _), List.cons_append,
        squeeze_run_cons inner blank]
      simp

/-- A text with words at both ends. -/
def Solid (text : List Char) : Prop :=
  (∃ c rest, text = c :: rest ∧ isBlank c = false) ∧ ∃ rest c, text = rest ++ [c] ∧ isBlank c = false

theorem Solid.collapseFrom_append {text : List Char} (solid : Solid text) {run : List Char}
    (blank : ∀ c ∈ run, isBlank c = true) (rest : List Char) :
    collapseFrom run (text ++ rest) = gap run ++ squeeze text ++ collapseFrom [] rest := by
  obtain ⟨⟨first, others, begins, word⟩, before, last, ends, closing⟩ := solid
  have whole : text ++ rest = before ++ last :: rest := by rw [ends, List.append_assoc, List.singleton_append]
  rw [whole, Text.collapseFrom_append closing before rest blank, ← ends, begins, squeeze_run_cons word blank,
    squeeze_cons word]

theorem Solid.ne_nil {text : List Char} (solid : Solid text) : text ≠ [] := by
  obtain ⟨⟨_, _, rfl, _⟩, _⟩ := solid
  exact List.cons_ne_nil _ _

/-- Each empty part is lost with its separator. -/
theorem collapseFrom_parts {parts : List (List Char)} (solid : ∀ part ∈ parts, part = [] ∨ Solid part) (n : Nat) :
    collapseFrom (List.replicate n ' ') (parts.flatMap (' ' :: ·)) =
      (parts.filter (· ≠ [])).flatMap fun part => ' ' :: squeeze part := by
  induction parts generalizing n with
  | nil => rfl
  | cons part rest ih =>
    obtain ⟨here, others⟩ := List.forall_mem_cons.mp solid
    rw [List.flatMap_cons, List.cons_append, collapseFrom_blank rfl, ← List.replicate_succ]
    rcases here with rfl | here
    -- Without a part in between, the run of spaces goes on; the next part leaves one of them.
    · rw [List.nil_append, ih others]
      rfl
    · have spaces : ∀ c ∈ List.replicate (n + 1) ' ', isBlank c = true := by
        intro c member
        rw [List.eq_of_mem_replicate member]
        rfl
      have space : gap (List.replicate (n + 1) ' ') = [' '] := by
        cases n with
        | zero => rfl
        | succ n => rfl
      have kept : (part :: rest).filter (· ≠ []) = part :: rest.filter (· ≠ []) := by simp [here.ne_nil]
      rw [here.collapseFrom_append spaces, space, kept, List.flatMap_cons, ← ih others 0]
      rfl

theorem collapse_join {parts : List (List Char)} (solid : ∀ part ∈ parts, part = [] ∨ Solid part) :
    collapse (join ' ' parts) = join ' ' ((parts.filter (· ≠ [])).map squeeze) := by
  induction parts with
  | nil => rfl
  | cons part rest ih =>
    obtain ⟨here, others⟩ := List.forall_mem_cons.mp solid
    rcases here with rfl | here
    · have shifted : collapse (join ' ' ([] :: rest)) = collapse (join ' ' rest) := by
        cases rest <;> rfl
      rw [shifted, ih others]
      rfl
    · have kept : (part :: rest).filter (· ≠ []) = part :: rest.filter (· ≠ []) := by simp [here.ne_nil]
      have begun : (join ' ' (part :: rest)).dropWhile isBlank = part ++ rest.flatMap (' ' :: ·) := by
        obtain ⟨⟨c, more, rfl, word⟩, -⟩ := here
        rw [join_cons, List.cons_append, List.dropWhile_cons_of_neg (by simp [word])]
      rw [collapse, begun, here.collapseFrom_append (List.forall_mem_nil _), kept, List.map_cons, join_cons,
        List.flatMap_map]
      exact congrArg (squeeze part ++ ·) (collapseFrom_parts others 0)

end ItemQuery.Text
