import ItemQuery.Clause
import ItemQuery.Proofs.Pattern.Decimal

/-! What a clause with a least value finds.

The clause looks for its literal, passes any characters over, and wants a number just before
the percent sign. A line that has digits only in that number is found when the literal is
in it and the number is not less than the threshold.
-/

set_option autoImplicit false

open scoped Computability

namespace ItemQuery

namespace Regex

theorem mem_many_any {text : List Char} : text ∈ (Regex.many (.letter .any)).language ↔ '\n' ∉ text := by
  rw [language, Language.mem_kstar]
  constructor
  · rintro ⟨parts, rfl, single⟩ found
    obtain ⟨part, listed, inside⟩ := List.mem_flatten.mp found
    obtain ⟨c, rfl, accepted⟩ := single part listed
    rw [← List.mem_singleton.mp inside] at accepted
    exact absurd accepted (by decide)
  · intro absent
    refine ⟨text.map fun c => [c], by rw [← List.flatMap_def, List.flatMap_singleton'], fun part listed => ?_⟩
    obtain ⟨c, inside, rfl⟩ := List.mem_map.mp listed
    exact ⟨c, rfl, bne_iff_ne.mpr fun same => absent (same ▸ inside)⟩

def literalItems (literal : List Char) : List Regex := literal.map fun c => .letter (.exactly c)

theorem mem_literal {literal text : List Char} :
    text ∈ (sequence (literalItems literal)).language ↔ text = literal := by
  have row : (literalItems literal).map language = (literal.map Letter.exactly).map letters := by
    rw [literalItems, List.map_map, List.map_map]
    rfl
  have same : (fun c d => (Letter.exactly c).accepts d = true) = Eq := by
    funext c d
    exact propext (beq_iff_eq.trans eq_comm)
  rw [language_sequence, row, Pattern.mem_prod_letters, Pattern.Matches, List.forall₂_map_left_iff, same,
    List.forall₂_eq_eq_eq, eq_comm]

/-- A literal, anything, a number and a percent sign. -/
def clauseItems (literal : List Char) (number : List Regex) : List Regex :=
  literalItems literal ++ .many (.letter .any) :: (number ++ [.letter (.exactly '%')])

theorem mem_clause {literal found : List Char} {number : List Regex} :
    found ∈ (sequence (clauseItems literal number)).language ↔ ∃ gap text, '\n' ∉ gap ∧
      text ∈ (sequence number).language ∧ found = literal ++ gap ++ text ++ ['%'] := by
  rw [language_sequence, clauseItems, List.map_append, List.prod_append, List.map_cons, List.prod_cons,
    List.map_append, List.prod_append, ← language_sequence, ← language_sequence]
  constructor
  · rintro ⟨_, isLiteral, _, ⟨gap, passed, _, ⟨text, isNumber, _, ⟨_, ⟨c, rfl, sign⟩, _, rfl, rfl⟩, rfl⟩, rfl⟩, rfl⟩
    refine ⟨gap, text, mem_many_any.mp passed, isNumber, ?_⟩
    rw [mem_literal.mp isLiteral, beq_iff_eq.mp sign]
    simp
  · rintro ⟨gap, text, passed, isNumber, rfl⟩
    rw [List.append_assoc, List.append_assoc]
    exact Language.append_mem_mul (mem_literal.mpr rfl) (Language.append_mem_mul (mem_many_any.mpr passed)
      (Language.append_mem_mul isNumber ⟨_, ⟨'%', rfl, rfl⟩, [], rfl, rfl⟩))

/-! Where a line is found. -/

/-- A character that stands only at the end of a line ends the stretch that it is in. -/
theorem eq_of_append_separator {c : Char} {before first second : List Char} (absent : c ∉ before)
    (same : before ++ [c] = first ++ c :: second) : first = before ∧ second = [] := by
  rcases List.eq_nil_or_concat second with rfl | ⟨rest, last, rfl⟩
  · exact ⟨(List.append_inj_left' same rfl).symm, rfl⟩
  · have longer : before ++ [c] = (first ++ c :: rest) ++ [last] := by simpa using same
    have inside : before = first ++ c :: rest := List.append_inj_left' longer rfl
    exact absurd (by simp [inside]) absent

variable {p : Char → Bool} {before digits : List Char}

theorem exists_digits_before {first text : List Char} {c : Char} (plain : ∀ c ∈ before, p c = false)
    (digit : p c = true) (same : before ++ digits = first ++ c :: text) :
    ∃ front, first = before ++ front ∧ digits = front ++ c :: text := by
  rcases List.append_eq_append_iff.mp same with ⟨front, one, other⟩ | ⟨back, one, other⟩
  · exact ⟨front, one, other⟩
  · cases back with
    | nil => exact ⟨[], by simpa using one.symm, by simpa using other.symm⟩
    | cons d back =>
      obtain ⟨rfl, -⟩ := List.cons_eq_cons.mp other
      have contrary : p c = false := plain c (by simp [one])
      rw [digit] at contrary
      cases contrary

theorem isInfix_before_digits {literal : List Char} (clear : ∀ c ∈ literal, p c = false)
    (all : ∀ c ∈ digits, p c = true) (found : literal <:+: before ++ digits) : literal <:+: before := by
  obtain ⟨first, last, same⟩ := found
  rcases List.append_eq_append_iff.mp same with ⟨rest, one, -⟩ | ⟨back, one, other⟩
  · exact ⟨first, rest, one.symm⟩
  · rcases List.eq_nil_or_concat back with rfl | ⟨more, c, rfl⟩
    · exact ⟨first, [], by simpa using one⟩
    · rcases List.eq_nil_or_concat literal with rfl | ⟨rest, d, rfl⟩
      · exact List.nil_infix
      · have isSame : d = c := by
          have longer : (first ++ rest) ++ [d] = (before ++ more) ++ [c] := by simpa using one
          simpa using List.append_inj_right' longer rfl
        have contrary : p d = false := clear d (by simp)
        rw [isSame, all c (by simp [other])] at contrary
        cases contrary

/-- In a line with digits only before its percent sign, the literal and the number are looked for apart. -/
theorem foundIn_clause_iff {literal : List Char} {number : List Regex}
    (clear : ∀ c ∈ literal, c.isDigit = false)
    (starts : ∀ text ∈ (sequence number).language, ∃ c rest, text = c :: rest ∧ c.isDigit = true)
    (plain : ∀ c ∈ before, c ≠ '\n' ∧ c ≠ '%' ∧ c.isDigit = false) (all : ∀ c ∈ digits, c.isDigit = true) :
    (sequence (clauseItems literal number)).FoundIn (before ++ digits ++ ['%']) ↔
      literal <:+: before ∧ ∃ text ∈ (sequence number).language, text <:+ digits := by
  have only {c : Char} (other : c.isDigit = false) (noted : ∀ d ∈ before, d ≠ c) : c ∉ before ++ digits := by
    rw [List.mem_append]
    rintro (inside | inside)
    · exact noted c inside rfl
    · exact absurd (all c inside) (by simp [other])
  constructor
  · rintro ⟨first, _, last, line, found⟩
    obtain ⟨gap, text, -, isNumber, rfl⟩ := mem_clause.mp found
    obtain ⟨c, rest, rfl, digit⟩ := starts text isNumber
    -- The sign of the pattern is the one that ends the line, and its number begins among the digits.
    have ended : before ++ digits ++ ['%'] = first ++ literal ++ gap ++ c :: rest ++ '%' :: last := by
      simpa using line
    obtain ⟨same, -⟩ := eq_of_append_separator (only rfl fun d inside => (plain d inside).2.1) ended
    obtain ⟨front, apart, rfl⟩ := exists_digits_before (fun c inside => (plain c inside).2.2) digit same.symm
    refine ⟨isInfix_before_digits clear (fun c inside => all c (List.mem_append_left _ inside)) ?_,
      c :: rest, isNumber, List.suffix_append _ _⟩
    exact apart ▸ ⟨first, gap, rfl⟩
  · rintro ⟨⟨first, last, rfl⟩, text, isNumber, ⟨front, rfl⟩⟩
    refine ⟨first, literal ++ (last ++ front) ++ text ++ ['%'], [], by simp, ?_⟩
    -- Digits before the matched end of the number are passed over with the rest.
    refine mem_clause.mpr ⟨last ++ front, text, fun inside => ?_, isNumber, rfl⟩
    refine only rfl (fun d inside => (plain d inside).1) ?_
    rcases List.mem_append.mp inside with inside | inside
    · exact List.mem_append_left _ (List.mem_append_right _ inside)
    · exact List.mem_append_right _ (List.mem_append_left _ inside)

end Regex

open Regex

namespace Clause

variable {lead literal : List Char}

/-- What a clause with a least value begins with, and the part of it that is looked for as it stands. -/
def leads : List (List Char × List Char) := [(quantityLead, ['m', ' ', 'q']), (packSizeLead, ['i', 'z'])]

theorem mem_leads (known : (lead, literal) ∈ leads) :
    (lead = quantityLead ∧ literal = ['m', ' ', 'q']) ∨ (lead = packSizeLead ∧ literal = ['i', 'z']) := by
  simpa [leads] using known

theorem reads_lead (known : (lead, literal) ∈ leads) : Reads lead (literalItems literal ++ [.many (.letter .any)]) := by
  rcases mem_leads known with ⟨rfl, rfl⟩ | ⟨rfl, rfl⟩
  · exact reads_plain rfl (reads_plain rfl (reads_plain rfl (reads_many_any reads_nil)))
  · exact reads_plain rfl (reads_plain rfl (reads_many_any reads_nil))

theorem shorten_lead (known : (lead, literal) ∈ leads) (rest : List Char) :
    Pattern.shorten (lead ++ rest) = lead ++ Pattern.shorten rest := by
  rcases mem_leads known with ⟨rfl, rfl⟩ | ⟨rfl, rfl⟩
  · simp [quantityLead, Pattern.shorten_cons]
  · simp [packSizeLead, Pattern.shorten_cons]

theorem isDigit_of_mem_literal (known : (lead, literal) ∈ leads) : ∀ c ∈ literal, c.isDigit = false := by
  rcases mem_leads known with ⟨-, rfl⟩ | ⟨-, rfl⟩
  · simp
  · simp

theorem shorten_atLeast (known : (lead, literal) ∈ leads) {minimum : Minimum} (asks : 1 ≤ minimum.threshold) :
    Pattern.shorten (groupText (atLeast lead minimum)) =
      '"' :: (lead ++ Pattern.shorten minimum.pattern ++ ['%'] ++ ['"']) := by
  have nonempty : minimum.pattern.isEmpty = false := Pattern.isEmpty_atLeast asks
  have parted : groupText (atLeast lead minimum) = '"' :: (lead ++ (minimum.pattern ++ '%' :: ['"'])) := by
    simp [atLeast, nonempty, groupText, text]
  rw [parted, Pattern.shorten_cons (by decide), shorten_lead known, Pattern.shorten_append_separator (by decide)]
  simp [Pattern.shorten_cons]

/-- On lines with one number up to 199, the clause finds those with its literal and at least its threshold. -/
theorem atLeast_finds_iff (minimum : Minimum) (asks : 1 ≤ minimum.threshold) (lead literal : List Char)
    (known : (lead, literal) ∈ leads) (before : List Char)
    (plain : ∀ c ∈ before, c ≠ '\n' ∧ c ≠ '%' ∧ c.isDigit = false) (value : Nat) (small : value ≤ 199) :
    ∃ content regex, Pattern.shorten (groupText (atLeast lead minimum)) = '"' :: (content ++ ['"']) ∧
      Regex.read? content = some regex ∧
      (regex.FoundIn (before ++ Nat.toDigits 10 value ++ ['%']) ↔
        literal <:+: before ∧ minimum.threshold ≤ value) := by
  obtain ⟨number, readsNumber, stands⟩ := Pattern.standsFor_atLeast asks
  have reads : Reads (lead ++ Pattern.shorten minimum.pattern ++ ['%']) (clauseItems literal number) := by
    have sign : Reads ['%'] [.letter (.exactly '%')] := reads_plain rfl reads_nil
    simpa [clauseItems, Minimum.pattern] using (reads_lead known).append (readsNumber.append sign)
  refine ⟨_, _, shorten_atLeast known asks, read?_of_reads reads, ?_⟩
  have starts : ∀ text ∈ (sequence number).language, ∃ c rest, text = c :: rest ∧ c.isDigit = true := by
    intro text found
    obtain ⟨row, listed, found⟩ := Pattern.mem_rowsLanguage.mp (stands ▸ found)
    obtain ⟨kind, rest, rfl, numeric⟩ := Pattern.exists_numeric_of_mem_rows asks row listed
    obtain ⟨c, others, accepted, -, rfl⟩ := List.forall₂_cons_left_iff.mp found
    exact ⟨c, others, rfl, numeric c accepted⟩
  have ends : (∃ text ∈ (sequence number).language, text <:+ Nat.toDigits 10 value) ↔ minimum.threshold ≤ value := by
    rw [← Pattern.ends_rows_iff asks small, stands]
    simp only [Pattern.mem_rowsLanguage, Pattern.Ends]
    constructor
    · rintro ⟨text, ⟨row, listed, found⟩, last⟩
      exact ⟨row, listed, text, last, found⟩
    · rintro ⟨row, listed, text, last, found⟩
      exact ⟨text, ⟨row, listed, found⟩, last⟩
  rw [foundIn_clause_iff (isDigit_of_mem_literal known) starts plain
    fun c inside => Nat.isDigit_of_mem_toDigits (by decide) (by decide) inside, ends]

/-- A pack size of 145 and more, on a line that says just that. -/
theorem atLeast_finds_145 : ∃ content regex,
    Pattern.shorten (groupText (atLeast packSizeLead ⟨"145", false⟩)) = '"' :: (content ++ ['"']) ∧
      Regex.read? content = some regex ∧ regex.FoundIn ("Pack Size: +".toList ++ Nat.toDigits 10 145 ++ ['%']) := by
  obtain ⟨content, regex, shortened, reads, found⟩ := atLeast_finds_iff ⟨"145", false⟩ (by decide) packSizeLead
    ['i', 'z'] (by decide) "Pack Size: +".toList (by simp) 145 (by decide)
  exact ⟨content, regex, shortened, reads, found.mpr (by decide)⟩

end Clause

end ItemQuery
