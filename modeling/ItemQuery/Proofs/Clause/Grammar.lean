import ItemQuery.Clause
import ItemQuery.Proofs.Text.Join
import Mathlib.Tactic.SplitIfs

/-! Reading a query back into its clauses.

A quoted clause goes on to the next double quote, a bare one to the next space, and just one
space stands between two clauses. The reader goes through the text character by character
and refuses what is not written so.
-/

set_option autoImplicit false

namespace ItemQuery.Clause

/-- A clause that can be told from what is around it. -/
def WellFormed : Clause → Prop
  | quoted content => '"' ∉ content
  | bare content => content ≠ [] ∧ ∀ c ∈ content, Text.isBlank c = false ∧ c ≠ '"'

instance : DecidablePred WellFormed
  | quoted content => inferInstanceAs (Decidable ('"' ∉ content))
  | bare content =>
    decidable_of_iff (content ≠ [] ∧ content.all (fun c => !Text.isBlank c && c != '"') = true) (by simp [WellFormed])

/-- What a reader is in; the characters of a clause under way are held, the last first. -/
inductive Position where
  | opening
  | ended
  | quotes (held : List Char)
  | word (held : List Char)

def splitFrom : Position → List Char → Option (List Clause)
  | .opening, [] => none
  | .opening, c :: rest =>
    if c = '"' then splitFrom (.quotes []) rest
    else if Text.isBlank c then none
    else splitFrom (.word [c]) rest
  | .ended, [] => some []
  | .ended, c :: rest => if c = ' ' then splitFrom .opening rest else none
  | .quotes _, [] => none
  | .quotes held, c :: rest =>
    if c = '"' then (splitFrom .ended rest).map (quoted held.reverse :: ·) else splitFrom (.quotes (c :: held)) rest
  | .word held, [] => some [bare held.reverse]
  | .word held, c :: rest =>
    if c = ' ' then (splitFrom .opening rest).map (bare held.reverse :: ·)
    else if c = '"' ∨ Text.isBlank c then none
    else splitFrom (.word (c :: held)) rest

/-- The clauses of a query, when it is written as a row of clauses. -/
def split (text : List Char) : Option (List Clause) := if text = [] then some [] else splitFrom .opening text

def laterText (clauses : List Clause) : List Char := (clauses.map text).flatMap (' ' :: ·)

theorem groupText_cons (clause : Clause) (rest : List Clause) :
    groupText (clause :: rest) = clause.text ++ laterText rest := Text.join_cons _ _

theorem laterText_eq {clauses : List Clause} (some : clauses ≠ []) : laterText clauses = ' ' :: groupText clauses := by
  cases clauses with
  | nil => exact absurd rfl some
  | cons clause rest => rw [groupText_cons]; rfl

theorem WellFormed.text_ne_nil {clause : Clause} (formed : clause.WellFormed) : clause.text ≠ [] := by
  cases clause with
  | quoted content => exact List.cons_ne_nil _ _
  | bare content => exact formed.1

theorem groupText_eq_nil_iff {clauses : List Clause} (formed : ∀ clause ∈ clauses, clause.WellFormed) :
    groupText clauses = [] ↔ clauses = [] := by
  cases clauses with
  | nil => exact iff_of_true rfl rfl
  | cons clause rest =>
    have here := (formed clause List.mem_cons_self).text_ne_nil
    rw [groupText_cons]
    exact iff_of_false (List.append_ne_nil_of_left_ne_nil here _) (List.cons_ne_nil _ _)

/-! Reading what is written. -/

theorem splitFrom_quotes {content : List Char} (clear : '"' ∉ content) (held rest : List Char) :
    splitFrom (.quotes held) (content ++ '"' :: rest) =
      (splitFrom .ended rest).map (quoted (held.reverse ++ content) :: ·) := by
  induction content generalizing held with
  | nil => simp [splitFrom]
  | cons c content ih =>
    rw [List.mem_cons, not_or] at clear
    obtain ⟨other, clear⟩ := clear
    rw [List.cons_append, splitFrom, if_neg (Ne.symm other), ih clear, List.reverse_cons, List.append_assoc,
      List.singleton_append]

theorem splitFrom_word {content : List Char} (plain : ∀ c ∈ content, Text.isBlank c = false ∧ c ≠ '"')
    (held : List Char) (rest : List Clause) :
    splitFrom (.word held) (content ++ laterText rest) =
      (splitFrom .ended (laterText rest)).map (bare (held.reverse ++ content) :: ·) := by
  induction content generalizing held with
  | nil =>
    cases rest with
    | nil => simp [splitFrom, laterText]
    | cons clause rest =>
      rw [List.nil_append, laterText_eq (List.cons_ne_nil _ _), splitFrom, splitFrom, List.append_nil]
      rfl
  | cons c content ih =>
    obtain ⟨⟨word, other⟩, plain⟩ := List.forall_mem_cons.mp plain
    have noSpace : c ≠ ' ' := fun same => by rw [same] at word; cases word
    rw [List.cons_append, splitFrom, if_neg noSpace, if_neg (by simp [word, other]), ih plain, List.reverse_cons,
      List.append_assoc, List.singleton_append]

theorem splitFrom_text {clause : Clause} (formed : clause.WellFormed) (rest : List Clause) :
    splitFrom .opening (clause.text ++ laterText rest) = (splitFrom .ended (laterText rest)).map (clause :: ·) := by
  cases clause with
  | quoted content =>
    have whole : (quoted content).text ++ laterText rest = '"' :: (content ++ '"' :: laterText rest) := by simp [text]
    rw [whole, splitFrom, if_pos rfl, splitFrom_quotes formed]
    rfl
  | bare content =>
    obtain ⟨nonempty, plain⟩ := formed
    cases content with
    | nil => exact absurd rfl nonempty
    | cons c content =>
      obtain ⟨⟨word, other⟩, plain⟩ := List.forall_mem_cons.mp plain
      rw [text, List.cons_append, splitFrom, if_neg other, if_neg (by simp [word]), splitFrom_word plain]
      rfl

theorem splitFrom_ended {clauses : List Clause} (formed : ∀ clause ∈ clauses, clause.WellFormed) :
    splitFrom .ended (laterText clauses) = some clauses := by
  induction clauses with
  | nil => rfl
  | cons clause rest ih =>
    obtain ⟨here, others⟩ := List.forall_mem_cons.mp formed
    rw [laterText_eq (List.cons_ne_nil _ _), splitFrom, if_pos rfl, groupText_cons, splitFrom_text here, ih others]
    rfl

theorem split_groupText {clauses : List Clause} (formed : ∀ clause ∈ clauses, clause.WellFormed) :
    split (groupText clauses) = some clauses := by
  cases clauses with
  | nil => rfl
  | cons clause rest =>
    obtain ⟨here, others⟩ := List.forall_mem_cons.mp formed
    have some := mt (groupText_eq_nil_iff formed).mp (List.cons_ne_nil _ _)
    rw [split, if_neg some, groupText_cons, splitFrom_text here, splitFrom_ended others]
    rfl

/-! Only what is written is read. -/

/-- What is held can be the beginning of a clause. -/
def Position.Proper : Position → Prop
  | .opening => True
  | .ended => True
  | .quotes held => '"' ∉ held
  | .word held => held ≠ [] ∧ ∀ c ∈ held, Text.isBlank c = false ∧ c ≠ '"'

/-- The text goes on from the position to the end of the clauses. -/
def Position.Completes (clauses : List Clause) (text : List Char) : Position → Prop
  | .opening => clauses ≠ [] ∧ text = groupText clauses
  | .ended => text = laterText clauses
  | .quotes held => '"' :: (held.reverse ++ text) = groupText clauses
  | .word held => clauses ≠ [] ∧ held.reverse ++ text = groupText clauses

theorem completes_of_splitFrom {text : List Char} {position : Position} {clauses : List Clause}
    (proper : position.Proper) (done : splitFrom position text = some clauses) :
    position.Completes clauses text ∧ ∀ clause ∈ clauses, clause.WellFormed := by
  -- On the text, at all positions at once, since each character leads to another one.
  induction text generalizing position clauses with
  | nil =>
    cases position with
    | opening => cases done
    | ended => cases done; exact ⟨rfl, List.forall_mem_nil _⟩
    | quotes held => cases done
    | word held =>
      cases done
      refine ⟨⟨List.cons_ne_nil _ _, by simp [groupText, Clause.text]⟩, List.forall_mem_singleton.mpr ?_⟩
      exact ⟨by simpa using proper.1, fun c inside => proper.2 c (List.mem_reverse.mp inside)⟩
  | cons c rest ih =>
    cases position with
    | opening =>
      rw [splitFrom] at done
      split_ifs at done with quote blank
      · obtain ⟨completes, formed⟩ := @ih (.quotes []) _ List.not_mem_nil done
        refine ⟨⟨?_, quote ▸ completes⟩, formed⟩
        rintro rfl
        cases completes
      · have word : Text.isBlank c = false ∧ c ≠ '"' := ⟨Bool.eq_false_iff.mpr blank, quote⟩
        exact @ih (.word [c]) _ ⟨List.cons_ne_nil _ _, List.forall_mem_singleton.mpr word⟩ done
    | ended =>
      rw [splitFrom] at done
      split_ifs at done with space
      obtain ⟨⟨some, completes⟩, formed⟩ := @ih .opening _ trivial done
      refine ⟨?_, formed⟩
      rw [Position.Completes, laterText_eq some, space, completes]
    | quotes held =>
      rw [splitFrom] at done
      split_ifs at done with quote
      · obtain ⟨others, ended, rfl⟩ := Option.map_eq_some_iff.mp done
        obtain ⟨completes, formed⟩ := @ih .ended _ trivial ended
        refine ⟨?_, List.forall_mem_cons.mpr ⟨fun inside => proper (List.mem_reverse.mp inside), formed⟩⟩
        rw [Position.Completes, groupText_cons, ← completes, quote, Clause.text]
        simp
      · have clear : '"' ∉ c :: held := by
          rw [List.mem_cons, not_or]
          exact ⟨Ne.symm quote, proper⟩
        obtain ⟨completes, formed⟩ := @ih (.quotes (c :: held)) _ clear done
        refine ⟨?_, formed⟩
        rw [Position.Completes, ← completes]
        simp
    | word held =>
      rw [splitFrom] at done
      split_ifs at done with space other
      · obtain ⟨others, opened, rfl⟩ := Option.map_eq_some_iff.mp done
        obtain ⟨⟨some, completes⟩, formed⟩ := @ih .opening _ trivial opened
        refine ⟨⟨List.cons_ne_nil _ _, ?_⟩, List.forall_mem_cons.mpr ⟨⟨?_, fun d inside => ?_⟩, formed⟩⟩
        · rw [groupText_cons, laterText_eq some, ← completes, space]
          rfl
        · simpa using proper.1
        · exact proper.2 d (List.mem_reverse.mp inside)
      · rw [not_or] at other
        have word : Text.isBlank c = false ∧ c ≠ '"' := ⟨Bool.eq_false_iff.mpr other.2, other.1⟩
        obtain ⟨⟨some, completes⟩, formed⟩ :=
          @ih (.word (c :: held)) _ ⟨List.cons_ne_nil _ _, List.forall_mem_cons.mpr ⟨word, proper.2⟩⟩ done
        refine ⟨⟨some, ?_⟩, formed⟩
        rw [← completes]
        simp

/-- A text has at most one reading, and has one exactly when it is written as a row of clauses. -/
theorem split_eq_some_iff {text : List Char} {clauses : List Clause} :
    split text = some clauses ↔ (∀ clause ∈ clauses, clause.WellFormed) ∧ text = groupText clauses := by
  constructor
  · intro done
    rw [split] at done
    split_ifs at done with empty
    · cases done
      exact ⟨List.forall_mem_nil _, empty⟩
    · obtain ⟨⟨-, completes⟩, formed⟩ := @completes_of_splitFrom _ .opening _ trivial done
      exact ⟨formed, completes⟩
  · rintro ⟨formed, rfl⟩
    exact split_groupText formed

end ItemQuery.Clause
