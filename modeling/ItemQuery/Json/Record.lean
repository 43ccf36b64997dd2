import ItemQuery.Json.Decoder

/-! Records: objects with known fields.

A field goes by its name or a second name, once. A field that is left out takes its default;
the first one without a default is reported. Other members are read over. A record may
also be written as the list of its fields in order, defaults left out from the end.
-/

set_option autoImplicit false

namespace ItemQuery.Json

structure Field (α : Type) where
  name : String
  otherName? : Option String
  decoder : Decoder α
  default? : Option α

def Field.required {α : Type} (name : String) (decoder : Decoder α) : Field α := ⟨name, none, decoder, none⟩

def Field.optional {α : Type} (name : String) (decoder : Decoder α) (default : α) : Field α :=
  ⟨name, none, decoder, some default⟩

def Field.orNamed {α : Type} (field : Field α) (other : String) : Field α := { field with otherName? := some other }

def Field.goesBy {α : Type} (field : Field α) (key : String) : Bool := key == field.name || some key == field.otherName?

/-- The fields of a record whose values have the given types. -/
def Fields : List Type → Type
  | [] => Unit
  | α :: αs => Field α × Fields αs

def Row : List Type → Type
  | [] => Unit
  | α :: αs => α × Row αs

/-- The values met so far. -/
def Slots : List Type → Type
  | [] => Unit
  | α :: αs => Option α × Slots αs

def Slots.empty : (αs : List Type) → Slots αs
  | [] => ()
  | _ :: αs => (none, empty αs)

/-- Where the value of a member goes. -/
inductive Route (σ : Type) where
  | unknown
  | taken (field : String)
  | into (decoder : Decoder σ)

def Route.map {σ τ : Type} (f : σ → τ) : Route σ → Route τ
  | .unknown => .unknown
  | .taken field => .taken field
  | .into decoder => .into (decoder.map f)

namespace Fields

def route : {αs : List Type} → Fields αs → Slots αs → String → Route (Slots αs)
  | [], _, _, _ => .unknown
  | _ :: _, (field, fields), (slot, slots), key =>
    if field.goesBy key then
      match slot with
      | some _ => .taken field.name
      | none => .into (field.decoder.map fun value => (some value, slots))
    else (fields.route slots key).map fun slots => (slot, slots)

def close : {αs : List Type} → Fields αs → Slots αs → Except Mismatch (Row αs)
  | [], _, _ => .ok ()
  | _ :: _, (field, fields), (slot, slots) =>
    match slot <|> field.default? with
    | some value => (fields.close slots).map (value, ·)
    | none => .error (.missing field.name)

def scanMember {αs : List Type} (fields : Fields αs) (room : Nat) (slots : Slots αs) (key : String) :
    Reader (Slots αs) :=
  match fields.route slots key with
  | .unknown => afterColon fun source => (skip source).map (slots, ·)
  | .taken field => fun _ => .error (.mismatch (.duplicate field))
  | .into decoder => afterColon (decoder.scan room)

def viewMember {αs : List Type} (fields : Fields αs) (slots : Slots αs) (member : String × Value) :
    Except Mismatch (Slots αs) :=
  match fields.route slots member.1 with
  | .unknown => .ok slots
  | .taken field => .error (.duplicate field)
  | .into decoder => decoder.view member.2

/-- The items of a list that stands for a record, each at its index; the bracket is open. -/
def scanItems (tooFew : Nat → Mismatch) (room : Nat) : {αs : List Type} → Fields αs → Nat → Reader (Row αs)
  | [], _, _, source =>
    match skipSpace source with
    | [] => .error .truncated
    | ']' :: rest => .ok ((), rest)
    | _ => .error .malformed
  | _ :: _, (field, fields), index, source =>
    match skipSpace source with
    | [] => .error .truncated
    | ']' :: rest =>
      match field.default? with
      | some value => do
        let (row, rest) ← fields.scanItems tooFew room (index + 1) (']' :: rest)
        .ok ((value, row), rest)
      | none => .error (.mismatch (tooFew index))
    | c :: rest =>
      if index = 0 ∨ c = ',' then do
        let (value, rest) ← field.decoder.scan room (if index = 0 then c :: rest else rest)
        let (row, rest) ← fields.scanItems tooFew room (index + 1) rest
        .ok ((value, row), rest)
      else .error .malformed

/-- The same for a finished list, with the items that are left over. -/
def viewItems (tooFew : Nat → Mismatch) :
    {αs : List Type} → Fields αs → Nat → List Value → Except Mismatch (Row αs × List Value)
  | [], _, _, found => .ok ((), found)
  | _ :: _, (field, fields), index, [] =>
    match field.default? with
    | some value => do
      let (row, rest) ← fields.viewItems tooFew (index + 1) []
      .ok ((value, row), rest)
    | none => .error (tooFew index)
  | _ :: _, (field, fields), index, first :: found => do
    let value ← field.decoder.view first
    let (row, rest) ← fields.viewItems tooFew (index + 1) found
    .ok ((value, row), rest)

end Fields

def Decoder.record (name : String) {αs : List Type} (fields : Fields αs) : Decoder (Row αs) where
  scan room source := do
    let (first, rest) ← head source
    match first, room with
    | .scalar _, _ => .error (.mismatch (.wrongType first (.record name)))
    | _, 0 => .error .malformed
    | .list, room + 1 => fields.scanItems (.tooFew · name αs.length) room 0 rest
    | .object, room + 1 => do
      let (slots, rest) ← members (fields.scanMember room) (Slots.empty αs) rest
      let row ← checked (fields.close slots)
      .ok (row, rest)
  view
    | .list values => do
      let (row, rest) ← fields.viewItems (.tooFew · name αs.length) 0 values
      if rest.isEmpty then .ok row else .error (.tooMany values.length)
    | .object table => do
      let slots ← table.foldlM fields.viewMember (Slots.empty αs)
      fields.close slots
    | found => .error (.wrongType found.head (.record name))

end ItemQuery.Json
