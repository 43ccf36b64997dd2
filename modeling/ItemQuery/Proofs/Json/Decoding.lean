import ItemQuery.Json.Decoder
import ItemQuery.Proofs.Json.Skipping

/-! What decoders find on a text.

A document is a value with space around it, and decoded to what the decoder finds there.
-/

set_option autoImplicit false

namespace ItemQuery.Json

namespace Decoder

variable {α β : Type} {decoder : Decoder α} {room : Nat}

theorem map_takes (f : α → β) {text : List Char} {result : α} (takes : Takes (decoder.scan room) text result) :
    Takes ((decoder.map f).scan room) text (f result) := by
  intro space rest boundary
  exact Except.bind_eq_of_ok (takes space rest boundary)

theorem ofHead_takes {accept : Head → Except Mismatch α} {token : Token} {scalar : Scalar} {result : α}
    (read : token.scalar? = some scalar) (accepted : accept (.scalar scalar) = .ok result) :
    Takes ((ofHead accept).scan room) (Spelling.scalar token).chars result := by
  intro space rest boundary
  have first : head (space.blanks ++ (token.chars ++ rest)) = .ok (.scalar scalar, rest) :=
    (head_space space _).trans (token.head_append read boundary)
  exact (Except.bind_eq_of_ok first).trans (by simp only [accepted]; rfl)

theorem list_takes {items : List (Padded Spelling)} {results : List α}
    (read : List.Forall₂ (fun item result => Takes (decoder.scan room) item.inner.chars result) items results)
    (close : Space) : Takes ((list decoder).scan (room + 1)) (Spelling.list items close).chars results := by
  intro space rest boundary
  rw [list_chars]
  exact (Except.bind_eq_of_ok (head_list space _)).trans (items_append read close rest)

/-- A list of anything is found as the values that its items spell. -/
theorem any_list_takes {spelling : Spelling} {values : List Value}
    (spelled : spelling.value? (room + 1) = some (.list values)) :
    Takes ((list any).scan (room + 1)) spelling.chars values := by
  cases spelling with
  | scalar token =>
    obtain ⟨scalar, -, same⟩ := Option.map_eq_some_iff.mp spelled
    cases same
  | object pairs close =>
    obtain ⟨table, -, same⟩ := Option.map_eq_some_iff.mp spelled
    cases same
  | list items close =>
    obtain ⟨_, read, same⟩ := Option.map_eq_some_iff.mp spelled
    cases same
    exact list_takes ((Spelling.itemValues?_eq_some_iff.mp read).imp fun _ _ spelled => value_takes spelled) close

theorem table_takes {pairs : List (Pair Spelling)} {entries : List (String × α)}
    (read : List.Forall₂ (fun pair entry => pair.name? = some entry.1 ∧
      Takes (decoder.scan room) pair.value.inner.chars entry.2) pairs entries) (close : Space) :
    Takes ((table decoder).scan (room + 1)) (Spelling.object pairs close).chars (Keyed.ofList Prod.fst entries) := by
  intro space rest boundary
  rw [object_chars]
  exact (Except.bind_eq_of_ok (head_object space _)).trans (members_append (steps_intoTable read) close rest)

end Decoder

namespace Spelling

variable {spelling : Spelling} {room : Nat}

def IsText (value : String) (spelling : Spelling) : Prop :=
  ∃ quotation, spelling = .scalar (.text quotation) ∧ quotation.string? = some value

def IsFlag (value : Bool) (spelling : Spelling) : Prop := spelling = .scalar (.flag value)

def IsTexts (values : List String) (spelling : Spelling) : Prop :=
  ∃ items close, spelling = .list items close ∧ List.Forall₂ (fun item value => item.inner.IsText value) items values

theorem IsText.takes {value : String} (isText : spelling.IsText value) :
    Takes (Decoder.text.scan room) spelling.chars value := by
  obtain ⟨quotation, rfl, read⟩ := isText
  exact Decoder.ofHead_takes (congrArg (Option.map Scalar.text) read) rfl

theorem IsFlag.takes {value : Bool} (isFlag : spelling.IsFlag value) :
    Takes (Decoder.flag.scan room) spelling.chars value := by
  subst isFlag
  exact Decoder.ofHead_takes rfl rfl

theorem IsTexts.takes {values : List String} (isTexts : spelling.IsTexts values) :
    Takes ((Decoder.list .text).scan (room + 1)) spelling.chars values := by
  obtain ⟨items, close, rfl, read⟩ := isTexts
  exact Decoder.list_takes (read.imp fun _ _ isText => isText.takes) close

end Spelling

/-- A document: a value with space around it. -/
def Padded.document (spelling : Padded Spelling) : String :=
  String.ofList (spelling.before.blanks ++ (spelling.inner.chars ++ spelling.after.blanks))

theorem Decoder.decode_document {α : Type} {decoder : Decoder α} {spelling : Padded Spelling} {result : α}
    (takes : Takes (decoder.scan room) spelling.inner.chars result) :
    decoder.decode spelling.document = .ok result := by
  have boundary : Boundary spelling.after.blanks := by
    simpa only [List.append_nil] using Boundary.space_append spelling.after .nil
  -- Nothing but space is left, so the end of the text is reached.
  have space : skipSpace spelling.after.blanks = skipSpace [] := by
    rw [← skipSpace_append spelling.after [], List.append_nil]
  rw [Decoder.decode, Json.document, Padded.document, String.toList_ofList,
    Except.bind_eq_of_ok (takes spelling.before _ boundary)]
  simp only [space]
  rfl

end ItemQuery.Json
