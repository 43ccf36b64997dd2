import Mathlib.Tactic.IntervalCases
import ItemQuery.Json.Printer
import ItemQuery.Proofs.Found
import ItemQuery.Proofs.Json.Members

/-! What is written is a spelling of what it was written from. -/

set_option autoImplicit false

namespace ItemQuery.Json

theorem hexDigit?_digitChar {d : Nat} (small : d < 16) : hexDigit? (Nat.digitChar d) = some d := by
  interval_cases d <;> rfl

def HexDigit.of (d : Nat) (small : d < 16) : HexDigit := ⟨Nat.digitChar d, by rw [hexDigit?_digitChar small]; rfl⟩

theorem HexDigit.value_of {d : Nat} (small : d < 16) : (of d small).value = d := by
  simp only [value, of, hexDigit?_digitChar small, Option.get_some]

def CodeUnit.of (n : Nat) (small : n < 256) : CodeUnit :=
  ⟨.of 0 (by decide), .of 0 (by decide), .of (n / 16) (by omega), .of (n % 16) (by omega)⟩

theorem CodeUnit.value_of {n : Nat} (small : n < 256) : (of n small).value = n := by
  simp only [value, of, HexDigit.value_of]
  omega

namespace Glyph

def of (c : Char) : Glyph :=
  if quote : c = '"' then .short '"' '"' rfl
  else if backslash : c = '\\' then .short '\\' '\\' rfl
  else if control : c < ' ' then
    if c = '\x08' then .short 'b' '\x08' rfl
    else if c = '\x0c' then .short 'f' '\x0c' rfl
    else if c = '\n' then .short 'n' '\n' rfl
    else if c = '\r' then .short 'r' '\r' rfl
    else if c = '\t' then .short 't' '\t' rfl
    else .unit (.of c.toNat (Nat.lt_trans (show c.toNat < 32 from control) (by decide)))
  else .plain c ⟨quote, backslash, control⟩

theorem chars_of (c : Char) : (of c).chars = writtenChar c := by
  unfold writtenChar
  split
  iterate 7 rfl
  next quote backslash _ _ _ _ _ =>
    rw [of, dif_neg quote, dif_neg backslash]
    split <;> rfl

theorem char?_of (c : Char) : (of c).char? = some c := by
  unfold of
  iterate 2 (split; · next same => rw [same]; rfl)
  split
  · next control =>
    -- Five of the controls have letters. The others are too small for halves of a pair.
    iterate 5 (split; · next same => rw [same]; rfl)
    have small : c.toNat < 32 := control
    have whole : (isLeading c.toNat || isTrailing c.toNat) = false := by
      simp only [isLeading, isTrailing, Bool.or_eq_false_iff, Bool.and_eq_false_iff, decide_eq_false_iff_not]
      omega
    rw [char?, CodeUnit.value_of, whole, Char.ofNat_toNat]
    rfl
  · rfl

end Glyph

namespace Quotation

/-- A text as it is written. -/
def of (value : String) : Quotation := ⟨value.toList.map Glyph.of⟩

theorem chars_of (value : String) : (of value).chars = writtenText value := by
  rw [chars, inside, of, List.flatMap_map, writtenText]
  simp only [Glyph.chars_of]

theorem string?_of (value : String) : (of value).string? = some value := by
  have read : (value.toList.map Glyph.of).mapM Glyph.char? = some value.toList :=
    mapM_eq_some_iff.mpr (List.forall₂_map_left_iff.mpr (List.forall₂_same.mpr fun c _ => Glyph.char?_of c))
  rw [string?, of, read, Option.map_some, String.ofList_toList]

end Quotation

def Pair.of (name : String) (value : Spelling) : Pair Spelling := ⟨{ inner := .of name }, { inner := value }⟩

@[simp] theorem Pair.name?_of (name : String) (value : Spelling) : (of name value).name? = some name :=
  Quotation.string?_of name

def Pair.all (members : List (String × Spelling)) : List (Pair Spelling) :=
  members.map fun member => .of member.1 member.2

theorem Pair.isSome_name?_of_mem_all {members : List (String × Spelling)} :
    ∀ pair ∈ all members, pair.name?.isSome := by
  refine List.forall_mem_map.mpr fun member _ => ?_
  rw [name?_of]
  rfl

theorem under_all (names : List String) (members : List (String × Spelling)) :
    under Pair.name? names (Pair.all members) = Pair.all (members.filter fun member => names.contains member.1) := by
  rw [under, Pair.all, List.filter_map]
  simp [Pair.all, Function.comp_def]

section All

variable {names : List String} {members : List (String × Spelling)} {name : String} {spelling : Spelling}

theorem listed_all {Describes : Spelling → Prop} (one : members.filter (fun member => names.contains member.1) =
    [(name, spelling)]) (describes : Describes spelling) : Listed names (Pair.all members) Describes :=
  .inr ⟨.of name spelling, by rw [under_all, one]; rfl, describes⟩

theorem kept_all {α : Type} {value default : α} (one : members.filter (fun member => names.contains member.1) =
    [(name, spelling)]) : kept names (Pair.all members) value default = value := by
  rw [kept, under_all, one]
  rfl

end All

namespace Spelling

theorem flatMap_itemTexts {spellings : List Spelling} {values : List Value}
    (same : List.Forall₂ (fun spelling value => spelling.chars = value.written) spellings values) :
    (itemTexts (spellings.map fun spelling => { inner := spelling })).flatMap (',' :: ·) ++ [']'] =
      Value.writtenItems values := by
  induction same with
  | nil => rfl
  | cons here _ ih =>
    rw [Value.writtenItems, ← here, ← ih]
    simp only [List.map_cons, itemTexts, List.flatMap_cons, List.nil_append, List.append_nil, List.cons_append,
      List.append_assoc]

theorem chars_list_of {spellings : List Spelling} {values : List Value}
    (same : List.Forall₂ (fun spelling value => spelling.chars = value.written) spellings values) :
    (list (spellings.map fun spelling => { inner := spelling }) {}).chars = (Value.list values).written := by
  cases same with
  | nil => rfl
  | cons here later =>
    rw [Value.written, ← here, ← flatMap_itemTexts later]
    simp only [List.map_cons, chars, itemTexts, Text.join_cons, List.nil_append, List.append_nil, List.append_assoc]

theorem flatMap_pairTexts {members : List (String × Spelling)} {table : List (String × Value)}
    (same : List.Forall₂ (fun member entry => member.1 = entry.1 ∧ member.2.chars = entry.2.written) members table) :
    (pairTexts (Pair.all members)).flatMap (',' :: ·) ++ ['\x7d'] =
      Value.writtenMembers table := by
  induction same with
  | nil => rfl
  | @cons member entry _ _ here _ ih =>
    obtain ⟨name, spelling⟩ := member
    obtain ⟨key, value⟩ := entry
    obtain ⟨rfl, written⟩ : name = key ∧ spelling.chars = value.written := here
    rw [Value.writtenMembers, ← written, ← ih]
    simp only [Pair.all, List.map_cons, Pair.of, pairTexts, Quotation.chars_of, List.flatMap_cons, List.nil_append,
      List.append_nil, List.cons_append, List.append_assoc]

/-- The object of the members as it is written. -/
def ofMembers (members : List (String × Spelling)) : Spelling := .object (Pair.all members) {}

/-- An object is written as its members are. -/
theorem chars_ofMembers {members : List (String × Spelling)} {table : List (String × Value)}
    (same : List.Forall₂ (fun member entry => member.1 = entry.1 ∧ member.2.chars = entry.2.written) members table) :
    (ofMembers members).chars = (Value.object table).written := by
  cases same with
  | nil => rfl
  | @cons member entry _ _ here later =>
    obtain ⟨name, spelling⟩ := member
    obtain ⟨key, value⟩ := entry
    obtain ⟨rfl, written⟩ : name = key ∧ spelling.chars = value.written := here
    rw [Value.written, ← written, ← flatMap_pairTexts later]
    simp only [ofMembers, Pair.all, List.map_cons, chars, Pair.of, pairTexts, Quotation.chars_of, Text.join_cons,
      List.nil_append, List.append_nil, List.cons_append, List.append_assoc]

theorem isObject_ofMembers {Lists : List (Pair Spelling) → Prop} {members : List (String × Spelling)}
    (lists : Lists (Pair.all members)) : (ofMembers members).IsObject Lists :=
  ⟨_, _, rfl, Pair.isSome_name?_of_mem_all, lists⟩

theorem within_all {names : List String} {name : String} {members inner : List (String × Spelling)}
    (one : members.filter (fun member => names.contains member.1) = [(name, ofMembers inner)]) :
    within names (Pair.all members) = Pair.all inner := by
  rw [within, under_all, one]
  rfl

def ofText (value : String) : Spelling := .scalar (.text (.of value))

def ofFlag (value : Bool) : Spelling := .scalar (.flag value)

def ofTexts (values : List String) : Spelling :=
  .list ((values.map ofText).map fun spelling => { inner := spelling }) {}

theorem isText_ofText (value : String) : (ofText value).IsText value := ⟨_, rfl, Quotation.string?_of value⟩

theorem isTexts_ofTexts (values : List String) : (ofTexts values).IsTexts values := by
  refine ⟨_, _, rfl, ?_⟩
  rw [List.map_map, List.forall₂_map_left_iff]
  exact List.forall₂_same.mpr fun value _ => isText_ofText value

theorem chars_ofText (value : String) : (ofText value).chars = (Value.text value).written := by
  rw [ofText, chars, Token.chars, Quotation.chars_of]
  rfl

theorem chars_ofFlag (value : Bool) : (ofFlag value).chars = (Value.flag value).written := by
  cases value <;> rfl

theorem chars_ofTexts (values : List String) : (ofTexts values).chars = (Value.list (values.map .text)).written := by
  refine chars_list_of ?_
  rw [List.forall₂_map_left_iff, List.forall₂_map_right_iff]
  exact List.forall₂_same.mpr fun value _ => chars_ofText value

end Spelling

end ItemQuery.Json
