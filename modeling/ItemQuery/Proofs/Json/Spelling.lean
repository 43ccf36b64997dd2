import Mathlib.Data.List.Forall2
import ItemQuery.Json.Reader
import ItemQuery.Text.Join

/-! Values as they can be written.

A spelling is the text of a value together with the choices that the grammar leaves open:
the blanks between tokens, the escapes inside quotes, and the form of numbers. Its
characters are the text. Its value is what it stands for, if it stands for any: a number
may be out of range, half of a surrogate pair is no character, and containers may lie
deeper inside one another than the room for them.
-/

set_option autoImplicit false

namespace ItemQuery.Json

structure Space where
  blanks : List Char := []
  isSpace : ∀ c ∈ blanks, isSpace c = true := by simp

structure Padded (α : Type) where
  before : Space := {}
  inner : α
  after : Space := {}

structure HexDigit where
  char : Char
  isHex : (hexDigit? char).isSome = true

def HexDigit.value (digit : HexDigit) : Nat := (hexDigit? digit.char).get digit.isHex

structure CodeUnit where
  first : HexDigit
  second : HexDigit
  third : HexDigit
  fourth : HexDigit

namespace CodeUnit

def chars (unit : CodeUnit) : List Char :=
  ['\\', 'u', unit.first.char, unit.second.char, unit.third.char, unit.fourth.char]

def value (unit : CodeUnit) : Nat :=
  ((unit.first.value * 16 + unit.second.value) * 16 + unit.third.value) * 16 + unit.fourth.value

end CodeUnit

/-- A character between quotes, or half of one. -/
inductive Glyph where
  | plain (c : Char) (clear : c ≠ '"' ∧ c ≠ '\\' ∧ ¬c < ' ')
  | short (letter meaning : Char) (known : shortEscape? letter = some meaning)
  | unit (digits : CodeUnit)
  | pair (leading trailing : CodeUnit) (fits : isLeading leading.value = true ∧ isTrailing trailing.value = true)

namespace Glyph

def chars : Glyph → List Char
  | plain c _ => [c]
  | short letter _ _ => ['\\', letter]
  | unit digits => digits.chars
  | pair leading trailing _ => leading.chars ++ trailing.chars

/-- A surrogate on its own is no character. -/
def char? : Glyph → Option Char
  | plain c _ => some c
  | short _ meaning _ => some meaning
  | unit digits => if isLeading digits.value || isTrailing digits.value then none else some (Char.ofNat digits.value)
  | pair leading trailing _ =>
    some (Char.ofNat (0x10000 + (leading.value - 0xD800) * 0x400 + (trailing.value - 0xDC00)))

end Glyph

structure Quotation where
  glyphs : List Glyph

namespace Quotation

def inside (quotation : Quotation) : List Char := quotation.glyphs.flatMap Glyph.chars

def chars (quotation : Quotation) : List Char := '"' :: (quotation.inside ++ ['"'])

def string? (quotation : Quotation) : Option String := (quotation.glyphs.mapM Glyph.char?).map String.ofList

end Quotation

structure Pair (α : Type) where
  key : Padded Quotation
  value : Padded α

def Pair.name? {α : Type} (pair : Pair α) : Option String := pair.key.inner.string?

/-- The literal has digits where the grammar asks for them, and no leading zero. -/
structure Literal.WellFormed (literal : Literal) : Prop where
  whole_ne_nil : literal.whole ≠ []
  whole : ∀ d ∈ literal.whole, d < 10
  leading : ∀ d rest, literal.whole ≠ 0 :: d :: rest
  fraction : ∀ d ∈ literal.fraction, d < 10
  exponent_ne_nil : ∀ exponent, literal.exponent? = some exponent → exponent.digits ≠ []
  exponent : ∀ exponent, literal.exponent? = some exponent → ∀ d ∈ exponent.digits, d < 10

/-- A number, with the two choices that its literal leaves open. -/
structure Numeral where
  literal : Literal
  wellFormed : literal.WellFormed
  capital : Bool := false
  plus : Bool := false

namespace Numeral

def digitChars (digits : List Nat) : List Char := digits.map Nat.digitChar

def fractionChars (numeral : Numeral) : List Char :=
  if numeral.literal.fraction = [] then [] else '.' :: digitChars numeral.literal.fraction

def exponentChars (numeral : Numeral) : List Char :=
  match numeral.literal.exponent? with
  | none => []
  | some ⟨negative, digits⟩ =>
    (if numeral.capital then 'E' else 'e') ::
      ((if negative then ['-'] else if numeral.plus then ['+'] else []) ++ digitChars digits)

def chars (numeral : Numeral) : List Char :=
  (if numeral.literal.negative then ['-'] else []) ++
    (digitChars numeral.literal.whole ++ (numeral.fractionChars ++ numeral.exponentChars))

end Numeral

inductive Token where
  | null
  | flag (value : Bool)
  | number (numeral : Numeral)
  | text (quotation : Quotation)

namespace Token

def chars : Token → List Char
  | null => ['n', 'u', 'l', 'l']
  | flag true => ['t', 'r', 'u', 'e']
  | flag false => ['f', 'a', 'l', 's', 'e']
  | number numeral => numeral.chars
  | text quotation => quotation.chars

def scalar? : Token → Option Scalar
  | null => some .null
  | flag value => some (.flag value)
  | number numeral => numeral.literal.scalar?
  | text quotation => quotation.string?.map .text

end Token

/-- A value as it is written; the last space stands before the closing bracket. -/
inductive Spelling where
  | scalar (token : Token)
  | list (items : List (Padded Spelling)) (space : Space)
  | object (pairs : List (Pair Spelling)) (space : Space)

namespace Spelling

mutual

def chars : Spelling → List Char
  | .scalar token => token.chars
  | .list items space => '[' :: (Text.join ',' (itemTexts items) ++ space.blanks ++ [']'])
  | .object pairs space => '\x7b' :: (Text.join ',' (pairTexts pairs) ++ space.blanks ++ ['\x7d'])

def itemTexts : List (Padded Spelling) → List (List Char)
  | [] => []
  | ⟨before, item, after⟩ :: items => (before.blanks ++ (item.chars ++ after.blanks)) :: itemTexts items

def pairTexts : List (Pair Spelling) → List (List Char)
  | [] => []
  | ⟨key, ⟨before, item, after⟩⟩ :: pairs =>
    (key.before.blanks ++ (key.inner.chars ++ (key.after.blanks ++
      ':' :: (before.blanks ++ (item.chars ++ after.blanks))))) :: pairTexts pairs

end

mutual

/-- What is read, with room for so many containers inside one another. -/
def value? : (room : Nat) → Spelling → Option Value
  | _, .scalar token => token.scalar?.map .scalar
  | 0, _ => none
  | room + 1, .list items _ => (itemValues? room items).map .list
  | room + 1, .object pairs _ => (pairValues? room pairs).map fun table => .object (Keyed.ofList Prod.fst table)

def itemValues? (room : Nat) : List (Padded Spelling) → Option (List Value)
  | [] => some []
  | ⟨_, item, _⟩ :: items => do
    let value ← item.value? room
    let values ← itemValues? room items
    return value :: values

def pairValues? (room : Nat) : List (Pair Spelling) → Option (List (String × Value))
  | [] => some []
  | ⟨key, ⟨_, item, _⟩⟩ :: pairs => do
    let name ← key.inner.string?
    let value ← item.value? room
    let table ← pairValues? room pairs
    return (name, value) :: table

end

section Parts

variable {room : Nat} {items : List (Padded Spelling)} {pairs : List (Pair Spelling)}

theorem itemTexts_eq (items : List (Padded Spelling)) : itemTexts items =
    items.map fun item => item.before.blanks ++ (item.inner.chars ++ item.after.blanks) := by
  induction items with
  | nil => rfl
  | cons item items ih => rw [itemTexts, ih, List.map_cons]

theorem pairTexts_eq (pairs : List (Pair Spelling)) : pairTexts pairs =
    pairs.map fun pair => pair.key.before.blanks ++ (pair.key.inner.chars ++ (pair.key.after.blanks ++
      ':' :: (pair.value.before.blanks ++ (pair.value.inner.chars ++ pair.value.after.blanks)))) := by
  induction pairs with
  | nil => rfl
  | cons pair pairs ih => rw [pairTexts, ih, List.map_cons]

theorem length_itemTexts (items : List (Padded Spelling)) : (itemTexts items).length = items.length := by
  rw [itemTexts_eq, List.length_map]

theorem length_pairTexts (pairs : List (Pair Spelling)) : (pairTexts pairs).length = pairs.length := by
  rw [pairTexts_eq, List.length_map]

theorem itemValues?_eq_some_iff {values : List Value} : itemValues? room items = some values ↔
    List.Forall₂ (fun item value => item.inner.value? room = some value) items values := by
  induction items generalizing values with
  | nil => simp [itemValues?]
  | cons item items ih =>
    obtain ⟨before, spelling, after⟩ := item
    simp only [itemValues?, Option.bind_eq_bind, Option.pure_def, Option.bind_eq_some_iff, Option.some.injEq,
      List.forall₂_cons_left_iff, ih]
    constructor
    · rintro ⟨value, here, others, later, rfl⟩
      exact ⟨value, others, here, later, rfl⟩
    · rintro ⟨value, others, here, later, rfl⟩
      exact ⟨value, here, others, later, rfl⟩

theorem pairValues?_eq_some_iff {table : List (String × Value)} : pairValues? room pairs = some table ↔
    List.Forall₂ (fun pair entry => pair.name? = some entry.1 ∧ pair.value.inner.value? room = some entry.2)
      pairs table := by
  induction pairs generalizing table with
  | nil => simp [pairValues?]
  | cons pair pairs ih =>
    obtain ⟨key, before, spelling, after⟩ := pair
    simp only [pairValues?, Option.bind_eq_bind, Option.pure_def, Option.bind_eq_some_iff, Option.some.injEq,
      List.forall₂_cons_left_iff, ih]
    constructor
    · rintro ⟨name, named, value, here, others, later, rfl⟩
      exact ⟨(name, value), others, ⟨named, here⟩, later, rfl⟩
    · rintro ⟨⟨name, value⟩, others, ⟨named, here⟩, later, rfl⟩
      exact ⟨name, named, value, here, others, later, rfl⟩

end Parts

/-- A property of scalars that containers take over from their parts is one of all spellings. -/
theorem induction {motive : Spelling → Prop} (scalar : ∀ token, motive (.scalar token))
    (list : ∀ items space, (∀ item ∈ items, motive item.inner) → motive (.list items space))
    (object : ∀ pairs space, (∀ pair ∈ pairs, motive pair.value.inner) → motive (.object pairs space))
    (spelling : Spelling) : motive spelling :=
  -- Besides spellings the recursor asks about lists of parts and about padded parts: every part has the property.
  @Spelling.rec motive (fun items => ∀ item ∈ items, motive item.inner)
    (fun pairs => ∀ pair ∈ pairs, motive pair.value.inner) (fun item => motive item.inner)
    (fun pair => motive pair.value.inner) scalar list object
    (List.forall_mem_nil _) (fun _ _ here later => List.forall_mem_cons.mpr ⟨here, later⟩)
    (List.forall_mem_nil _) (fun _ _ here later => List.forall_mem_cons.mpr ⟨here, later⟩)
    (fun _ _ _ holds => holds) (fun _ _ holds => holds) spelling

end Spelling

end ItemQuery.Json
