import ItemQuery.Proofs.Pattern.Regex
import ItemQuery.Proofs.Text.Join

/-! Patterns read piece by piece, and the language of a row of items.

A piece puts its items into the group that it stands in, wherever that is. So a pattern is
read by reading its pieces, and a text is looked up in a row of items from the first item on.
-/

set_option autoImplicit false

open scoped Computability

namespace ItemQuery.Regex

/-- A choice between one alternative and those after it. -/
def choice (first : Regex) : List Regex → Regex
  | [] => first
  | second :: rest => .either first (choice second rest)

@[simp] theorem language_sequence (items : List Regex) : (sequence items).language = (items.map language).prod := by
  induction items with
  | nil => rfl
  | cons item rest ih => rw [List.map_cons, List.prod_cons, ← ih]; rfl

@[simp] theorem language_choice (first : Regex) (rest : List Regex) :
    (choice first rest).language = first.language + (rest.map language).sum := by
  induction rest generalizing first with
  | nil => exact (add_zero first.language).symm
  | cons second rest ih => rw [List.map_cons, List.sum_cons, ← ih]; rfl

/-- Wherever the pattern stands, it adds the items to the group under way. -/
def Reads (pattern : List Char) (items : List Regex) : Prop :=
  ∀ held level rest, (tokens none (pattern ++ rest)).bind (parse held level) =
    (tokens none rest).bind (parse held (items.foldl Level.add level))

section Pieces

variable {pattern other : List Char} {items others : List Regex}

/-- What one more token does, whatever text it stands for and whatever comes after. -/
theorem bind_parse {text rest : List Char} {token : Token} {held held' : List Level} {level level' : Level}
    (reads : tokens none text = (tokens none rest).map (token :: ·))
    (steps : ∀ others, parse held level (token :: others) = parse held' level' others) :
    (tokens none text).bind (parse held level) = (tokens none rest).bind (parse held' level') := by
  rw [reads, Option.bind_map]
  exact congrArg (tokens none rest).bind (funext steps)

theorem reads_nil : Reads [] [] := fun _ _ _ => rfl

theorem Reads.append (first : Reads pattern items) (second : Reads other others) :
    Reads (pattern ++ other) (items ++ others) := by
  intro held level rest
  rw [List.append_assoc, first, second, List.foldl_append]

theorem reads_letter {text : List Char} {kind : Letter}
    (letter : ∀ rest, tokens none (text ++ rest) = (tokens none rest).map (.letter kind :: ·))
    (tail : Reads pattern items) : Reads (text ++ pattern) (.letter kind :: items) := by
  intro held level rest
  rw [List.append_assoc, List.foldl_cons, ← tail]
  apply bind_parse (letter _)
  intro others
  cases held <;> rfl

theorem reads_plain {c : Char} (letter : plain? c = some (.letter (.exactly c))) (tail : Reads pattern items) :
    Reads (c :: pattern) (.letter (.exactly c) :: items) := by
  have known {other : Char} (refused : plain? other = none) : c ≠ other := fun same => by simp_all
  refine @reads_letter _ _ [c] _ (fun rest => ?_) tail
  -- No construct of the reader starts with such a character.
  rw [List.singleton_append, tokens.eq_9 c rest (known rfl) (fun _ same => absurd same (known rfl))
    (fun _ _ same => absurd same (known rfl)), letter, Option.bind_some]

/-- A sign after a letter changes the item that the letter was. -/
theorem reads_altered {text sign : List Char} {kind : Letter} {token : Token} {change : Regex → Regex}
    (letter : ∀ rest, tokens none (text ++ rest) = (tokens none rest).map (.letter kind :: ·))
    (signed : ∀ rest, tokens none (sign ++ rest) = (tokens none rest).map (token :: ·))
    (alters : ∀ held level others, parse held level (token :: others) =
      (level.alter? change).bind fun level => parse held level others)
    (tail : Reads pattern items) : Reads (text ++ (sign ++ pattern)) (change (.letter kind) :: items) := by
  intro held level rest
  have first : (tokens none (text ++ (sign ++ (pattern ++ rest)))).bind (parse held level) =
      (tokens none (sign ++ (pattern ++ rest))).bind (parse held (level.add (.letter kind))) := by
    apply bind_parse (letter _)
    intro others
    cases held <;> rfl
  have second : (tokens none (sign ++ (pattern ++ rest))).bind (parse held (level.add (.letter kind))) =
      (tokens none (pattern ++ rest)).bind (parse held (level.add (change (.letter kind)))) :=
    bind_parse (signed _) fun others => alters held _ others
  rw [List.append_assoc, List.append_assoc, List.foldl_cons, first, second, tail]

theorem reads_any (tail : Reads pattern items) : Reads ('.' :: pattern) (.letter .any :: items) :=
  @reads_letter _ _ ['.'] _ (fun _ => rfl) tail

theorem reads_digit (tail : Reads pattern items) : Reads ('\\' :: 'd' :: pattern) (.letter .digit :: items) :=
  @reads_letter _ _ ['\\', 'd'] _ (fun _ => rfl) tail

theorem reads_many_any (tail : Reads pattern items) :
    Reads ('.' :: '*' :: pattern) (.many (.letter .any) :: items) := by
  refine @reads_altered _ _ ['.'] ['*'] _ .star _ (fun _ => rfl) (fun _ => rfl) (fun held _ _ => ?_) tail
  cases held <;> rfl

theorem reads_optional_any (tail : Reads pattern items) :
    Reads ('.' :: '?' :: pattern) (.optional (.letter .any) :: items) := by
  refine @reads_altered _ _ ['.'] ['?'] _ .mark _ (fun _ => rfl) (fun _ => rfl) (fun held _ _ => ?_) tail
  cases held <;> rfl

theorem reads_three_digits (tail : Reads pattern items) :
    Reads ('\\' :: 'd' :: '\x7b' :: '3' :: '\x7d' :: pattern) (.times 3 (.letter .digit) :: items) := by
  refine @reads_altered _ _ ['\\', 'd'] ['\x7b', '3', '\x7d'] _ (.count 3) _ (fun _ => rfl) (fun _ => rfl)
    (fun held _ _ => ?_) tail
  cases held <;> rfl

theorem foldl_add_items (items : List Regex) (level : Level) :
    items.foldl Level.add level = ⟨level.choices, items.reverse ++ level.items⟩ := by
  induction items generalizing level with
  | nil => rfl
  | cons item rest ih => rw [List.foldl_cons, ih, List.reverse_cons, List.append_assoc]; rfl

theorem close_foldl_add (items : List Regex) (choices : List Regex) :
    (items.foldl Level.add ⟨choices, []⟩).close =
      choices.foldl (fun later choice => .either choice later) (sequence items) := by
  rw [foldl_add_items, Level.close, List.append_nil, List.reverse_reverse]

theorem read?_of_reads (reads : Reads pattern items) : read? pattern = some (sequence items) := by
  have whole := reads [] {} []
  rw [List.append_nil] at whole
  rw [read?, whole]
  exact congrArg some (close_foldl_add items [])

/-- Alternatives in a group, whatever was chosen from before them. -/
theorem parse_choices {held : List Level} {outer : Level} {rest : List Char} {choices : List Regex}
    {texts : List (List Char)} {rows : List (List Regex)} (first : Reads pattern items)
    (alternatives : List.Forall₂ Reads texts rows) :
    (tokens none (Text.join '|' (pattern :: texts) ++ ')' :: rest)).bind (parse (outer :: held) ⟨choices, []⟩) =
      (tokens none rest).bind (parse held (outer.add
        (choices.foldl (fun later choice => .either choice later) (choice (sequence items) (rows.map sequence))))) := by
  -- On the alternatives that are left; a bar puts the current one to those chosen from before.
  induction alternatives generalizing pattern items choices with
  | nil =>
    have closing (level : Level) : (tokens none (')' :: rest)).bind (parse (outer :: held) level) =
        (tokens none rest).bind (parse held (outer.add level.close)) :=
      @bind_parse _ rest .closing _ _ _ _ rfl fun _ => rfl
    rw [Text.join_singleton, first, closing, close_foldl_add, List.map_nil, choice]
  | cons next _ ih =>
    have bar (level : Level) (text : List Char) : (tokens none ('|' :: text)).bind (parse (outer :: held) level) =
        (tokens none text).bind (parse (outer :: held) level.bar) :=
      @bind_parse _ text .bar _ _ _ _ rfl fun _ => rfl
    have settled : (items.foldl Level.add ⟨choices, []⟩).bar = ⟨sequence items :: choices, []⟩ := by
      rw [foldl_add_items, Level.bar, List.append_nil, List.reverse_reverse]
    rw [Text.join_cons_cons, List.append_assoc, List.cons_append, first, bar, settled, ih next]
    rfl

theorem reads_group {texts : List (List Char)} {rows : List (List Regex)} (first : Reads pattern items)
    (alternatives : List.Forall₂ Reads texts rows) :
    Reads ('(' :: (Text.join '|' (pattern :: texts) ++ [')'])) [choice (sequence items) (rows.map sequence)] := by
  intro held level rest
  have opening (text : List Char) : (tokens none ('(' :: text)).bind (parse held level) =
      (tokens none text).bind (parse (level :: held) {}) := by
    refine @bind_parse _ text .opening _ _ _ _ rfl fun others => ?_
    cases held <;> rfl
  rw [List.cons_append, opening, List.append_assoc]
  exact parse_choices first alternatives

end Pieces

end ItemQuery.Regex
