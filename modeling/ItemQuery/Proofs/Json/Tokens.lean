import Mathlib.Tactic.IntervalCases
import ItemQuery.Proofs.Except
import ItemQuery.Proofs.Found
import ItemQuery.Proofs.Json.Spelling
import ItemQuery.Json.Skip

/-! Reading and skipping the tokens of a text.

What a token spells is read off the front of any text in which something follows that ends
the token: space, a comma, a closing bracket, or nothing. To skip a token it need not
stand for anything.
-/

set_option autoImplicit false

namespace ItemQuery.Json

/-- What may follow a value. -/
def Boundary (rest : List Char) : Prop := ∀ c ∈ rest.head?, isSpace c = true ∨ c = ',' ∨ c = ']' ∨ c = '\x7d'

section Space

variable {rest : List Char}

theorem Boundary.nil : Boundary [] := nofun

theorem Boundary.space_append (space : Space) (boundary : Boundary rest) : Boundary (space.blanks ++ rest) := by
  obtain ⟨blanks, isSpace⟩ := space
  cases blanks with
  | nil => exact boundary
  | cons blank blanks =>
    rintro c ⟨⟩
    exact Or.inl (isSpace blank List.mem_cons_self)

theorem Boundary.comma : Boundary (',' :: rest) := by simp [Boundary]

theorem Boundary.bracket : Boundary (']' :: rest) := by simp [Boundary]

theorem Boundary.brace : Boundary ('\x7d' :: rest) := by simp [Boundary]

theorem skipSpace_append (space : Space) (rest : List Char) : skipSpace (space.blanks ++ rest) = skipSpace rest :=
  List.dropWhile_append_of_pos space.isSpace

theorem skipSpace_cons {c : Char} (solid : isSpace c = false) (rest : List Char) : skipSpace (c :: rest) = c :: rest :=
  List.dropWhile_cons_of_neg (by simp [solid])

end Space

section Numbers

variable {rest : List Char}

/-- What stands at a boundary does not go on with a number. -/
theorem Boundary.stops (boundary : Boundary rest) {c : Char} (next : c ∈ rest.head?) :
    digit? c = none ∧ c ≠ '.' ∧ c ≠ 'e' ∧ c ≠ 'E' := by
  have ends := boundary c next
  simp only [isSpace, Bool.or_eq_true, beq_iff_eq] at ends
  rcases ends with (((rfl | rfl) | rfl) | rfl) | rfl | rfl | rfl <;> decide

theorem digit?_digitChar {d : Nat} (single : d < 10) : digit? d.digitChar = some d := by
  interval_cases d <;> rfl

theorem digits_append {ds : List Nat} (single : ∀ d ∈ ds, d < 10) (stops : ∀ c ∈ rest.head?, digit? c = none) :
    digits (Numeral.digitChars ds ++ rest) = (ds, rest) := by
  induction ds with
  | nil =>
    cases rest with
    | nil => rfl
    | cons c rest => simp [Numeral.digitChars, digits, stops c rfl]
  | cons d ds ih =>
    obtain ⟨singleHere, singleLater⟩ := List.forall_mem_cons.mp single
    have later := ih singleLater
    rw [Numeral.digitChars] at later
    simp [Numeral.digitChars, digits, digit?_digitChar singleHere, later]

namespace Literal

theorem wholePart_append {literal : Literal} (wellFormed : literal.WellFormed)
    (stops : ∀ c ∈ rest.head?, digit? c = none) :
    wholePart (Numeral.digitChars literal.whole ++ rest) = .ok (literal.whole, rest) := by
  rw [wholePart, digits_append wellFormed.whole stops]
  split
  · next none => exact absurd (Prod.mk.inj none).1 wellFormed.whole_ne_nil
  · next leading => exact absurd (Prod.mk.inj leading).1 (wellFormed.leading _ _)
  · next found =>
    obtain ⟨rfl, rfl⟩ := Prod.mk.inj found
    rfl

theorem fractionPart_of_stop (stops : ∀ c ∈ rest.head?, c ≠ '.') : fractionPart rest = .ok ([], rest) := by
  unfold fractionPart
  split
  · exact absurd rfl (stops '.' rfl)
  · rfl

theorem exponentPart_of_stop (stops : ∀ c ∈ rest.head?, c ≠ 'e' ∧ c ≠ 'E') : exponentPart rest = .ok (none, rest) := by
  cases rest with
  | nil => rfl
  | cons c rest => simp [exponentPart, stops c rfl]

end Literal

namespace Numeral

variable (numeral : Numeral)

theorem fractionPart_append (stops : ∀ c ∈ rest.head?, digit? c = none ∧ c ≠ '.') :
    Literal.fractionPart (numeral.fractionChars ++ rest) = .ok (numeral.literal.fraction, rest) := by
  by_cases none : numeral.literal.fraction = []
  · rw [fractionChars, if_pos none, none]
    exact Literal.fractionPart_of_stop fun c next => (stops c next).2
  · obtain ⟨d, ds, some⟩ := List.exists_cons_of_ne_nil none
    have found := digits_append numeral.wellFormed.fraction fun c next => (stops c next).1
    rw [fractionChars, if_neg none, List.cons_append, Literal.fractionPart, found, some]

theorem exponentPart_append (stops : ∀ c ∈ rest.head?, digit? c = none ∧ c ≠ 'e' ∧ c ≠ 'E') :
    Literal.exponentPart (numeral.exponentChars ++ rest) = .ok (numeral.literal.exponent?, rest) := by
  cases found : numeral.literal.exponent? with
  | none =>
    rw [exponentChars, found]
    exact Literal.exponentPart_of_stop fun c next => (stops c next).2
  | some exponent =>
    obtain ⟨negative, ds⟩ := exponent
    have nonempty : ds ≠ [] := numeral.wellFormed.exponent_ne_nil _ found
    have single : ∀ d ∈ ds, d < 10 := numeral.wellFormed.exponent _ found
    obtain ⟨d, more, rfl⟩ := List.exists_cons_of_ne_nil nonempty
    have read := digits_append single fun c next => (stops c next).1
    -- Without a sign the first digit follows, and it is none.
    have unsigned : d.digitChar ≠ '+' ∧ d.digitChar ≠ '-' := by
      have below := single d List.mem_cons_self
      interval_cases d <;> decide
    have letter : (if numeral.capital then 'E' else 'e') = 'e' ∨ (if numeral.capital then 'E' else 'e') = 'E' := by
      cases numeral.capital <;> simp
    simp only [exponentChars, found, List.cons_append, List.append_assoc, Literal.exponentPart, letter, if_true]
    rw [digitChars, List.map_cons, List.cons_append] at read ⊢
    cases negative with
    | true => simp [read]
    | false =>
      cases numeral.plus with
      | true => simp [read]
      | false => simp [read, unsigned]

theorem exponentChars_stops (boundary : Boundary rest) {c : Char}
    (next : c ∈ (numeral.exponentChars ++ rest).head?) : digit? c = none ∧ c ≠ '.' := by
  unfold exponentChars at next
  split at next
  · exact ⟨(boundary.stops next).1, (boundary.stops next).2.1⟩
  · obtain rfl := Option.some.inj next
    cases numeral.capital <;> decide

theorem fractionChars_stops (boundary : Boundary rest) {c : Char}
    (next : c ∈ (numeral.fractionChars ++ (numeral.exponentChars ++ rest)).head?) : digit? c = none := by
  unfold fractionChars at next
  split at next
  · exact (numeral.exponentChars_stops boundary next).1
  · obtain rfl := Option.some.inj next
    decide

theorem read_append (boundary : Boundary rest) :
    Literal.read (numeral.chars ++ rest) = .ok (numeral.literal, rest) := by
  have whole := Literal.wholePart_append numeral.wellFormed fun c => numeral.fractionChars_stops boundary
  have fraction := numeral.fractionPart_append fun c => numeral.exponentChars_stops boundary
  have exponent := numeral.exponentPart_append fun c next =>
    ⟨(boundary.stops next).1, (boundary.stops next).2.2⟩
  unfold Literal.read chars
  cases sign : numeral.literal.negative with
  | true =>
    simp only [List.append_assoc, if_true, List.cons_append, List.nil_append]
    rw [Except.bind_eq_of_ok whole, Except.bind_eq_of_ok fraction, Except.bind_eq_of_ok exponent, ← sign]
    rfl
  | false =>
    obtain ⟨d, ds, digits⟩ := List.exists_cons_of_ne_nil numeral.wellFormed.whole_ne_nil
    -- The first digit is not taken for a sign.
    have unsigned : d.digitChar ≠ '-' := by
      have below : d < 10 := numeral.wellFormed.whole d (digits ▸ List.mem_cons_self)
      interval_cases d <;> decide
    simp only [List.append_assoc, Bool.false_eq_true, if_false, List.nil_append]
    rw [digits, digitChars, List.map_cons, List.cons_append] at whole ⊢
    simp only [unsigned, List.cons.injEq, false_and, imp_self, implies_true]
    rw [Except.bind_eq_of_ok whole, Except.bind_eq_of_ok fraction, Except.bind_eq_of_ok exponent, ← sign, ← digits]
    rfl

end Numeral

end Numbers

section Quotations

variable {rest : List Char}

theorem HexDigit.hexDigit?_char (digit : HexDigit) : hexDigit? digit.char = some digit.value :=
  (Option.some_get digit.isHex).symm

theorem CodeUnit.hexUnit_append (unit : CodeUnit) (rest : List Char) :
    hexUnit (unit.first.char :: unit.second.char :: unit.third.char :: unit.fourth.char :: rest) =
      .ok (unit.value, rest) := by
  simp only [hexUnit, HexDigit.hexDigit?_char]
  rfl

theorem CodeUnit.trailingUnit_append (unit : CodeUnit) (trails : isTrailing unit.value = true) (rest : List Char) :
    trailingUnit (unit.chars ++ rest) = .ok (unit.value, rest) := by
  simp only [chars, List.cons_append, List.nil_append, trailingUnit]
  rw [Except.bind_eq_of_ok (unit.hexUnit_append rest)]
  exact if_pos trails

theorem not_isTrailing_of_isLeading {unit : Nat} (leads : isLeading unit = true) : isTrailing unit = false := by
  simp only [isLeading, isTrailing, Bool.and_eq_true, decide_eq_true_eq, Bool.and_eq_false_iff,
    decide_eq_false_iff_not] at leads ⊢
  omega

namespace Glyph

variable {glyph : Glyph} {c x : Char} {fuel done : List Char}

theorem textFrom_escape {source rest : List Char} (read : escaped source = .ok (c, rest)) (x : Char)
    (fuel done : List Char) : textFrom (x :: fuel) done ('\\' :: source) = textFrom fuel (c :: done) rest := by
  rw [textFrom, if_neg (by decide), if_pos rfl, Except.bind_eq_of_ok read]

/-- What is behind the backslash of a glyph is read as its character. -/
theorem escaped_unit {digits : CodeUnit} (read : (unit digits).char? = some c) (rest : List Char) :
    escaped (digits.chars.tail ++ rest) = .ok (c, rest) := by
  simp only [char?, Option.ite_none_left_eq_some, Bool.or_eq_true, not_or, Option.some.injEq] at read
  obtain ⟨⟨lone, unpaired⟩, rfl⟩ := read
  simp only [CodeUnit.chars, List.tail_cons, List.cons_append, List.nil_append, escaped]
  rw [Except.bind_eq_of_ok (digits.hexUnit_append rest)]
  simp only [lone, unpaired, if_false, Bool.false_eq_true]

theorem escaped_pair {leading trailing : CodeUnit}
    (fits : isLeading leading.value = true ∧ isTrailing trailing.value = true) (rest : List Char) :
    escaped (leading.chars.tail ++ (trailing.chars ++ rest)) =
      .ok (Char.ofNat (0x10000 + (leading.value - 0xD800) * 0x400 + (trailing.value - 0xDC00)), rest) := by
  have apart := not_isTrailing_of_isLeading fits.1
  rw [CodeUnit.chars, List.tail_cons, List.cons_append, escaped]
  simp only [List.cons_append, List.nil_append]
  rw [Except.bind_eq_of_ok (leading.hexUnit_append _)]
  simp only [apart, fits.1, Bool.false_eq_true, if_false, if_true]
  rw [Except.bind_eq_of_ok (trailing.trailingUnit_append fits.2 rest)]

theorem textFrom_append (read : glyph.char? = some c) (x : Char) (fuel done rest : List Char) :
    textFrom (x :: fuel) done (glyph.chars ++ rest) = textFrom fuel (c :: done) rest := by
  cases glyph with
  | plain c clear =>
    cases read
    simp [chars, textFrom, clear.1, clear.2.1, clear.2.2]
  | short letter meaning known =>
    cases read
    have other : letter ≠ 'u' := by
      rintro rfl
      cases known
    have read : escaped (letter :: rest) = .ok (c, rest) := by
      rw [escaped]
      · simp only [known]
      · exact other
    exact textFrom_escape read x fuel done
  | unit digits => exact textFrom_escape (escaped_unit read rest) x fuel done
  | pair leading trailing fits =>
    have same := Option.some.inj read
    rw [← same, chars, List.append_assoc]
    exact textFrom_escape (escaped_pair fits rest) x fuel done

theorem skipTextFrom_escape {source rest : List Char} (skipped : skipEscaped source = .ok rest) (x : Char)
    (fuel : List Char) : skipTextFrom (x :: fuel) ('\\' :: source) = skipTextFrom fuel rest := by
  rw [skipTextFrom, if_neg (by decide), if_pos rfl, Except.bind_eq_of_ok skipped]

/-- Half of a pair is skipped like any other unit. -/
theorem skipTextFrom_unit (digits : CodeUnit) (x : Char) (fuel rest : List Char) :
    skipTextFrom (x :: fuel) (digits.chars ++ rest) = skipTextFrom fuel rest := by
  refine skipTextFrom_escape ?_ x fuel
  simp only [skipEscaped, List.append_eq, List.cons_append, List.nil_append]
  rw [Except.bind_eq_of_ok (digits.hexUnit_append rest)]

/-- No more steps are taken than there are characters. -/
theorem skipTextFrom_append (glyph : Glyph) {fuel : List Char} (enough : glyph.chars.length ≤ fuel.length)
    (rest : List Char) : ∃ left, fuel.length ≤ left.length + glyph.chars.length ∧
      skipTextFrom fuel (glyph.chars ++ rest) = skipTextFrom left rest := by
  cases glyph with
  | plain c clear =>
    obtain _ | ⟨x, fuel⟩ := fuel
    · exact absurd enough (by simp [chars])
    · exact ⟨fuel, by simp [chars], by simp [chars, skipTextFrom, clear.1, clear.2.1, clear.2.2]⟩
  | short letter meaning known =>
    have skipped : skipEscaped (letter :: rest) = .ok rest := by
      rw [skipEscaped]
      · simp only [known, Option.isSome_some, if_true]
      · rintro rfl
        cases known
    obtain _ | ⟨x, fuel⟩ := fuel
    · exact absurd enough (by simp [chars])
    · exact ⟨fuel, by simp [chars], skipTextFrom_escape skipped x fuel⟩
  | unit digits =>
    obtain _ | ⟨x, fuel⟩ := fuel
    · exact absurd enough (by simp [chars, CodeUnit.chars])
    · exact ⟨fuel, by simp [chars, CodeUnit.chars], skipTextFrom_unit digits x fuel rest⟩
  | pair leading trailing fits =>
    -- Read, a pair is one character. Skipped, it is two units.
    obtain _ | ⟨x, _ | ⟨y, fuel⟩⟩ := fuel
    · exact absurd enough (by simp [chars, CodeUnit.chars])
    · exact absurd enough (by simp [chars, CodeUnit.chars])
    · refine ⟨fuel, by simp [chars, CodeUnit.chars], ?_⟩
      rw [chars, List.append_assoc, skipTextFrom_unit, skipTextFrom_unit]

theorem chars_ne_nil (glyph : Glyph) : glyph.chars ≠ [] := by
  cases glyph <;> simp [chars, CodeUnit.chars]

end Glyph

namespace Quotation

theorem textFrom_glyphs {glyphs : List Glyph} {cs : List Char} (read : glyphs.mapM Glyph.char? = some cs)
    {fuel : List Char} (enough : glyphs.length < fuel.length) (done rest : List Char) :
    textFrom fuel done (glyphs.flatMap Glyph.chars ++ '"' :: rest) =
      .ok (String.ofList (done.reverse ++ cs), rest) := by
  induction mapM_eq_some_iff.mp read generalizing fuel done with
  | nil =>
    obtain _ | ⟨x, fuel⟩ := fuel
    · cases enough
    · simp [textFrom]
  | @cons glyph c glyphs cs here later ih =>
    obtain _ | ⟨x, fuel⟩ := fuel
    · cases enough
    · rw [List.flatMap_cons, List.append_assoc, Glyph.textFrom_append here,
        ih (mapM_eq_some_iff.mpr later) (Nat.lt_of_succ_lt_succ enough), List.reverse_cons, List.append_assoc,
        List.singleton_append]

theorem skipTextFrom_glyphs {glyphs : List Glyph} {fuel : List Char}
    (enough : (glyphs.flatMap Glyph.chars).length < fuel.length) (rest : List Char) :
    skipTextFrom fuel (glyphs.flatMap Glyph.chars ++ '"' :: rest) = .ok rest := by
  induction glyphs generalizing fuel with
  | nil =>
    obtain _ | ⟨x, fuel⟩ := fuel
    · cases enough
    · simp [skipTextFrom]
  | cons glyph glyphs ih =>
    rw [List.flatMap_cons, List.length_append] at enough
    have enoughHere : glyph.chars.length ≤ fuel.length := by omega
    obtain ⟨left, bound, skipped⟩ := glyph.skipTextFrom_append enoughHere (glyphs.flatMap Glyph.chars ++ '"' :: rest)
    rw [List.flatMap_cons, List.append_assoc, skipped]
    exact ih (by omega)

variable (quotation : Quotation) (rest : List Char)

theorem length_glyphs_le : quotation.glyphs.length ≤ quotation.inside.length := by
  rw [inside]
  induction quotation.glyphs with
  | nil => simp
  | cons glyph glyphs ih =>
    have some := List.length_pos_of_ne_nil glyph.chars_ne_nil
    rw [List.flatMap_cons, List.length_append, List.length_cons]
    omega

theorem text_append {string : String} (read : quotation.string? = some string) :
    text (quotation.inside ++ '"' :: rest) = .ok (string, rest) := by
  obtain ⟨cs, found, rfl⟩ := Option.map_eq_some_iff.mp read
  have enough : quotation.glyphs.length < (quotation.inside ++ '"' :: rest).length := by
    have := quotation.length_glyphs_le
    simp only [List.length_append, List.length_cons]
    omega
  exact textFrom_glyphs found enough [] rest

theorem skipText_append : skipText (quotation.inside ++ '"' :: rest) = .ok rest :=
  skipTextFrom_glyphs (by rw [inside, List.length_append]; simp) rest

end Quotation

end Quotations

section Heads

variable {c : Char} {rest : List Char}

/-- A number begins with a sign or with a digit. -/
def numberStarts : List Char := ['-', '0', '1', '2', '3', '4', '5', '6', '7', '8', '9']

theorem Numeral.exists_cons (numeral : Numeral) : ∃ c ∈ numberStarts, ∃ more, numeral.chars = c :: more := by
  unfold chars
  cases numeral.literal.negative with
  | true => exact ⟨'-', by decide, _, rfl⟩
  | false =>
    obtain ⟨d, ds, digits⟩ := List.exists_cons_of_ne_nil numeral.wellFormed.whole_ne_nil
    have below : d < 10 := numeral.wellFormed.whole d (digits ▸ List.mem_cons_self)
    refine ⟨d.digitChar, ?_, _, by rw [digits]; rfl⟩
    interval_cases d <;> decide

theorem head_number (starts : c ∈ numberStarts) (more : List Char) :
    head (c :: more) = (do
      let (literal, rest) ← Literal.read (c :: more)
      match literal.scalar? with
      | some value => .ok (.scalar value, rest)
      | none => .error .malformed) := by
  simp only [numberStarts, List.mem_cons, List.not_mem_nil, or_false] at starts
  rcases starts with rfl | rfl | rfl | rfl | rfl | rfl | rfl | rfl | rfl | rfl | rfl <;> rfl

theorem skipHead_number (starts : c ∈ numberStarts) (more : List Char) :
    skipHead (c :: more) = (skipNumber (c :: more)).map (none, ·) := by
  simp only [numberStarts, List.mem_cons, List.not_mem_nil, or_false] at starts
  rcases starts with rfl | rfl | rfl | rfl | rfl | rfl | rfl | rfl | rfl | rfl | rfl <;> rfl

theorem head_space (space : Space) (source : List Char) : head (space.blanks ++ source) = head source := by
  simp only [head, skipSpace_append]

namespace Token

theorem head_append {token : Token} {scalar : Scalar} (read : token.scalar? = some scalar) (boundary : Boundary rest) :
    head (token.chars ++ rest) = .ok (.scalar scalar, rest) := by
  cases token with
  | null => cases read; rfl
  | flag value => cases read; cases value <;> rfl
  | number numeral =>
    obtain ⟨c, starts, more, chars⟩ := numeral.exists_cons
    have found := numeral.read_append boundary
    rw [Token.chars, chars, List.cons_append] at *
    rw [head_number starts, Except.bind_eq_of_ok found]
    simp only [Token.scalar?] at read
    simp only [read]
  | text quotation =>
    obtain ⟨string, found, rfl⟩ := Option.map_eq_some_iff.mp read
    rw [Token.chars, Quotation.chars, List.cons_append, List.append_assoc, List.singleton_append]
    exact Except.bind_eq_of_ok (quotation.text_append rest found)

/-- A token is skipped whatever it spells. -/
theorem skipHead_append (token : Token) (boundary : Boundary rest) :
    skipHead (token.chars ++ rest) = .ok (none, rest) := by
  cases token with
  | null => rfl
  | flag value => cases value <;> rfl
  | number numeral =>
    obtain ⟨c, starts, more, chars⟩ := numeral.exists_cons
    have found := numeral.read_append boundary
    rw [chars, List.cons_append] at found
    rw [Token.chars, chars, List.cons_append, skipHead_number starts, skipNumber, found]
    rfl
  | text quotation =>
    have opened : skipHead (quotation.chars ++ rest) = (skipText (quotation.inside ++ '"' :: rest)).map (none, ·) := by
      rw [Quotation.chars, List.cons_append, List.append_assoc, List.singleton_append]
      rfl
    rw [Token.chars, opened, quotation.skipText_append]
    rfl

end Token

end Heads

end ItemQuery.Json
