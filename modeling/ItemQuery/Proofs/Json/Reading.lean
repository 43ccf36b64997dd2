import ItemQuery.Proofs.Json.Tokens
import ItemQuery.Proofs.Text.Join

/-! Reading whole values.

A reader takes a text when it reads it off the front of any text that goes on after a
boundary, whatever space comes first. The loops for lists and objects take what they are
made of one part after the other, so a value is read as what its spelling stands for.
-/

set_option autoImplicit false

namespace ItemQuery.Json

/-- The reader reads the text as the result and leaves what follows. -/
def Takes {α : Type} (reader : Reader α) (text : List Char) (result : α) : Prop :=
  ∀ (space : Space) (rest : List Char), Boundary rest → reader (space.blanks ++ (text ++ rest)) = .ok (result, rest)

namespace Spelling

/-- A value does not begin with space or a closing bracket. -/
theorem exists_cons (spelling : Spelling) :
    ∃ c more, spelling.chars = c :: more ∧ isSpace c = false ∧ c ≠ ']' := by
  cases spelling with
  | scalar token =>
    cases token with
    | null => exact ⟨_, _, rfl, by decide, by decide⟩
    | flag value => cases value <;> exact ⟨_, _, rfl, by decide, by decide⟩
    | number numeral =>
      obtain ⟨c, starts, more, chars⟩ := numeral.exists_cons
      have solid : ∀ c ∈ numberStarts, isSpace c = false ∧ c ≠ ']' := by simp [numberStarts, isSpace]
      exact ⟨c, more, by rw [Spelling.chars, Token.chars, chars], solid c starts⟩
    | text quotation => exact ⟨_, _, rfl, by decide, by decide⟩
  | list items space => exact ⟨_, _, by rw [chars], by decide, by decide⟩
  | object pairs space => exact ⟨_, _, by rw [chars], by decide, by decide⟩

theorem skipSpace_chars (spelling : Spelling) (rest : List Char) :
    skipSpace (spelling.chars ++ rest) = spelling.chars ++ rest := by
  obtain ⟨c, more, chars, solid, -⟩ := spelling.exists_cons
  rw [chars, List.cons_append, skipSpace_cons solid]

end Spelling

section Lists

variable {α : Type} {reader : Reader α} {items : List (Padded Spelling)} {results : List α} {rest : List Char}

theorem length_le_length_flatMap_comma (parts : List (List Char)) :
    parts.length ≤ (parts.flatMap (',' :: ·)).length := by
  rw [Text.length_flatMap_separator]
  induction parts with
  | nil => simp
  | cons part parts ih =>
    rw [List.map_cons, List.sum_cons, List.length_cons]
    omega

theorem itemsFrom_append {item : Spelling} {result : α} (here : Takes reader item.chars result)
    (later : List.Forall₂ (fun item result => Takes reader item.inner.chars result) items results)
    {fuel : List Char} (enough : items.length < fuel.length) (done : List α) (lead after close : Space) :
    itemsFrom reader fuel done (lead.blanks ++ (item.chars ++ (after.blanks ++
      ((Spelling.itemTexts items).flatMap (',' :: ·) ++ (close.blanks ++ ']' :: rest))))) =
    .ok (done.reverse ++ result :: results, rest) := by
  -- On the items behind the first one: each comma leads to another round, with the item before it done.
  induction later generalizing item result fuel done lead after with
  | nil =>
    obtain _ | ⟨x, fuel⟩ := fuel
    · cases enough
    have boundary : Boundary (after.blanks ++ (close.blanks ++ ']' :: rest)) :=
      .space_append after (.space_append close .bracket)
    rw [Spelling.itemTexts, List.flatMap_nil, List.nil_append, itemsFrom, Except.bind_eq_of_ok (here lead _ boundary)]
    simp only [skipSpace_append, skipSpace_cons (show isSpace ']' = false by decide), List.reverse_cons]
  | @cons next value items results read later ih =>
    obtain _ | ⟨x, fuel⟩ := fuel
    · cases enough
    obtain ⟨before, next, behind⟩ := next
    have boundary : Boundary (after.blanks ++ (((Spelling.itemTexts (⟨before, next, behind⟩ :: items)).flatMap
        (',' :: ·)) ++ (close.blanks ++ ']' :: rest))) := .space_append after .comma
    rw [itemsFrom, Except.bind_eq_of_ok (here lead _ boundary)]
    simp only [skipSpace_append, Spelling.itemTexts, List.flatMap_cons, List.cons_append,
      skipSpace_cons (show isSpace ',' = false by decide), List.append_assoc]
    rw [ih read (Nat.lt_of_succ_lt_succ enough), List.reverse_cons, List.append_assoc, List.singleton_append]

theorem items_append (read : List.Forall₂ (fun item result => Takes reader item.inner.chars result) items results)
    (close : Space) (rest : List Char) :
    Json.items reader (Text.join ',' (Spelling.itemTexts items) ++ (close.blanks ++ ']' :: rest)) =
      .ok (results, rest) := by
  cases read with
  | nil =>
    simp only [Json.items, Spelling.itemTexts, Text.join_nil, List.nil_append, skipSpace_append,
      skipSpace_cons (show isSpace ']' = false by decide)]
  | @cons item result items results here later =>
    obtain ⟨before, item, after⟩ := item
    have text : Text.join ',' (Spelling.itemTexts (⟨before, item, after⟩ :: items)) ++ (close.blanks ++ ']' :: rest) =
        before.blanks ++ (item.chars ++ (after.blanks ++
          ((Spelling.itemTexts items).flatMap (',' :: ·) ++ (close.blanks ++ ']' :: rest)))) := by
      rw [Spelling.itemTexts, Text.join_cons]
      simp only [List.append_assoc]
    obtain ⟨c, more, chars, -, opens⟩ := item.exists_cons
    have enough : items.length < (item.chars ++ (after.blanks ++
        ((Spelling.itemTexts items).flatMap (',' :: ·) ++ (close.blanks ++ ']' :: rest)))).length := by
      have separators := length_le_length_flatMap_comma (Spelling.itemTexts items)
      rw [Spelling.length_itemTexts] at separators
      simp only [List.length_append, List.length_cons]
      omega
    rw [Json.items, text, skipSpace_append, item.skipSpace_chars]
    split
    -- The list is not empty, since no value begins with its closing bracket.
    · next first =>
      rw [chars] at first
      exact absurd (List.cons.inj first).1 opens
    · exact itemsFrom_append here later enough [] {} after close

end Lists

section Objects

variable {σ : Type} {member : σ → String → Reader σ} {state final : σ} {pairs : List (Pair Spelling)} {rest : List Char}

/-- What stands behind the key of a pair, from the colon to the value. -/
def Pair.tail (pair : Pair Spelling) : List Char := ':' :: (pair.value.before.blanks ++ pair.value.inner.chars)

/-- Reading the pairs one by one leads from one state to another. -/
inductive Steps (member : σ → String → Reader σ) : σ → List (Pair Spelling) → σ → Prop where
  | done {state : σ} : Steps member state [] state
  | next {state between final : σ} {name : String} {pair : Pair Spelling} {pairs : List (Pair Spelling)} :
      pair.name? = some name → Takes (member state name) pair.tail between →
      Steps member between pairs final → Steps member state (pair :: pairs) final

/-- One round of the loop reads one pair. -/
theorem membersFrom_pair {between : σ} {pair : Pair Spelling} {name : String} (named : pair.name? = some name)
    (here : Takes (member state name) pair.tail between) {more : List Char} (boundary : Boundary more)
    (lead : Space) (x : Char) (fuel : List Char) :
    membersFrom member (x :: fuel) state (lead.blanks ++ (pair.key.inner.chars ++ (pair.key.after.blanks ++
      (pair.tail ++ (pair.value.after.blanks ++ more))))) =
    match skipSpace more with
    | [] => .error .truncated
    | '\x7d' :: rest => .ok (between, rest)
    | ',' :: rest => membersFrom member fuel between rest
    | _ => .error .malformed := by
  have after : Boundary (pair.value.after.blanks ++ more) := .space_append _ boundary
  have read := pair.key.inner.text_append
    (pair.key.after.blanks ++ (pair.tail ++ (pair.value.after.blanks ++ more))) named
  rw [membersFrom, skipSpace_append, Quotation.chars, List.cons_append, List.append_assoc, List.singleton_append,
    skipSpace_cons (by decide)]
  have skipped : skipSpace (pair.value.after.blanks ++ more) = skipSpace more := skipSpace_append pair.value.after more
  refine (Except.bind_eq_of_ok read).trans ((Except.bind_eq_of_ok (here pair.key.after _ after)).trans ?_)
  exact skipped ▸ rfl

theorem membersFrom_append {between : σ} {pair : Pair Spelling} {name : String} (named : pair.name? = some name)
    (here : Takes (member state name) pair.tail between) (later : Steps member between pairs final)
    {fuel : List Char} (enough : pairs.length < fuel.length) (lead close : Space) (rest : List Char) :
    membersFrom member fuel state (lead.blanks ++ (pair.key.inner.chars ++ (pair.key.after.blanks ++ (pair.tail ++
      (pair.value.after.blanks ++ ((Spelling.pairTexts pairs).flatMap (',' :: ·) ++
        (close.blanks ++ '\x7d' :: rest))))))) = .ok (final, rest) := by
  induction later generalizing state pair name fuel lead with
  | done =>
    obtain _ | ⟨x, fuel⟩ := fuel
    · cases enough
    rw [Spelling.pairTexts, List.flatMap_nil, List.nil_append,
      membersFrom_pair named here (.space_append close .brace)]
    simp only [skipSpace_append, skipSpace_cons (show isSpace '\x7d' = false by decide)]
  | @next between after final nextName next pairs nextNamed read later ih =>
    obtain _ | ⟨x, fuel⟩ := fuel
    · cases enough
    obtain ⟨⟨keyBefore, key, keyAfter⟩, ⟨before, item, behind⟩⟩ := next
    have round := ih nextNamed read (Nat.lt_of_succ_lt_succ enough) keyBefore
    rw [Spelling.pairTexts, List.flatMap_cons, List.cons_append, List.cons_append,
      membersFrom_pair named here .comma]
    simp only [Pair.tail, skipSpace_cons (show isSpace ',' = false by decide), List.append_assoc,
      List.cons_append] at round ⊢
    exact round

theorem members_quote (space : Space) (more : List Char) :
    members member state (space.blanks ++ '"' :: more) = membersFrom member ('"' :: more) state ('"' :: more) := by
  simp only [members, skipSpace_append, skipSpace_cons (show isSpace '"' = false by decide)]
  rfl

theorem members_append (steps : Steps member state pairs final) (close : Space) (rest : List Char) :
    members member state (Text.join ',' (Spelling.pairTexts pairs) ++ (close.blanks ++ '\x7d' :: rest)) =
      .ok (final, rest) := by
  cases steps with
  | done =>
    simp only [members, Spelling.pairTexts, Text.join_nil, List.nil_append, skipSpace_append,
      skipSpace_cons (show isSpace '\x7d' = false by decide)]
  | @next _ between _ name pair pairs named here later =>
    obtain ⟨⟨keyBefore, key, keyAfter⟩, ⟨before, item, after⟩⟩ := pair
    have read {fuel : List Char} (enough : pairs.length < fuel.length) :=
      membersFrom_append named here later enough {} close rest
    simp only [Pair.tail, Quotation.chars, List.nil_append, List.cons_append, List.append_assoc] at read
    rw [Spelling.pairTexts, Text.join_cons]
    simp only [Quotation.chars, List.append_assoc, List.cons_append]
    rw [members_quote]
    refine read ?_
    have separators := length_le_length_flatMap_comma (Spelling.pairTexts pairs)
    rw [Spelling.length_pairTexts] at separators
    simp only [List.length_append, List.length_cons]
    omega

end Objects

section Values

variable {α : Type} {reader : Reader α} {spelling : Spelling} {room : Nat} {found : Value} {rest : List Char}

theorem afterColon_takes {pair : Pair Spelling} {result : α} (takes : Takes reader pair.value.inner.chars result) :
    Takes (afterColon reader) pair.tail result := by
  intro space rest boundary
  rw [Pair.tail, afterColon, skipSpace_append, List.cons_append, skipSpace_cons (by decide), List.append_assoc]
  exact takes pair.value.before rest boundary

theorem intoTable_takes {pair : Pair Spelling} {result : α} (takes : Takes reader pair.value.inner.chars result)
    (table : List (String × α)) (name : String) :
    Takes (intoTable reader table name) pair.tail (Keyed.put Prod.fst (name, result) table) := by
  intro space rest boundary
  rw [intoTable, Except.bind_eq_of_ok (afterColon_takes takes space rest boundary)]

/-- The pairs of a table are put into it one by one. -/
theorem steps_intoTable {pairs : List (Pair Spelling)} {entries table : List (String × α)}
    (read : List.Forall₂ (fun pair entry => pair.name? = some entry.1 ∧
      Takes reader pair.value.inner.chars entry.2) pairs entries) :
    Steps (intoTable reader) table pairs (entries.foldl (fun table entry => Keyed.put Prod.fst entry table) table) := by
  induction read generalizing table with
  | nil => exact .done
  | @cons pair entry pairs entries here later ih => exact .next here.1 (intoTable_takes here.2 table entry.1) ih

theorem head_list (space : Space) (rest : List Char) : head (space.blanks ++ '[' :: rest) = .ok (.list, rest) :=
  head_space space _

theorem head_object (space : Space) (rest : List Char) : head (space.blanks ++ '\x7b' :: rest) = .ok (.object, rest) :=
  head_space space _

theorem list_chars (items : List (Padded Spelling)) (close : Space) (rest : List Char) :
    (Spelling.list items close).chars ++ rest =
      '[' :: (Text.join ',' (Spelling.itemTexts items) ++ (close.blanks ++ ']' :: rest)) := by
  simp only [Spelling.chars, List.cons_append, List.append_assoc, List.nil_append]

theorem object_chars (pairs : List (Pair Spelling)) (close : Space) (rest : List Char) :
    (Spelling.object pairs close).chars ++ rest =
      '\x7b' :: (Text.join ',' (Spelling.pairTexts pairs) ++ (close.blanks ++ '\x7d' :: rest)) := by
  simp only [Spelling.chars, List.cons_append, List.append_assoc, List.nil_append]

/-- A value is read as what it stands for. -/
theorem value_takes (means : spelling.value? room = some found) : Takes (value room) spelling.chars found := by
  induction spelling using Spelling.induction generalizing room found with
  | scalar token =>
    -- A scalar takes no room.
    obtain ⟨scalar, read, rfl⟩ := Option.map_eq_some_iff.mp (by cases room <;> exact means)
    intro space rest boundary
    have first : head (space.blanks ++ (token.chars ++ rest)) = .ok (.scalar scalar, rest) :=
      (head_space space _).trans (token.head_append read boundary)
    cases room <;> rw [value, Spelling.chars, Except.bind_eq_of_ok first]
  | list items close ih =>
    cases room with
    | zero => cases means
    | succ room =>
      obtain ⟨values, read, rfl⟩ := Option.map_eq_some_iff.mp means
      have parts : List.Forall₂ (fun item result => Takes (value room) item.inner.chars result) items values :=
        ((List.forall₂_and_left _ _).mpr ⟨ih, Spelling.itemValues?_eq_some_iff.mp read⟩).imp
          fun _ _ both => both.1 both.2
      intro space rest boundary
      rw [list_chars, value, Except.bind_eq_of_ok (head_list space _)]
      dsimp only
      rw [Except.bind_eq_of_ok (items_append parts close rest)]
  | object pairs close ih =>
    cases room with
    | zero => cases means
    | succ room =>
      obtain ⟨entries, read, rfl⟩ := Option.map_eq_some_iff.mp means
      have parts : List.Forall₂ (fun pair entry => pair.name? = some entry.1 ∧
          Takes (value room) pair.value.inner.chars entry.2) pairs entries :=
        ((List.forall₂_and_left _ _).mpr ⟨ih, Spelling.pairValues?_eq_some_iff.mp read⟩).imp
          fun _ _ both => ⟨both.2.1, both.1 both.2.2⟩
      intro space rest boundary
      rw [object_chars, value, Except.bind_eq_of_ok (head_object space _)]
      dsimp only
      rw [Except.bind_eq_of_ok (members_append (steps_intoTable parts) close rest)]
      rfl

end Values

end ItemQuery.Json
