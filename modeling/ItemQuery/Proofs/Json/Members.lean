import ItemQuery.Json.Record
import ItemQuery.Proofs.Json.Decoding

/-! Records, member by member.

A member that goes by the name of a field fills it, other members fill nothing, and a
field that no member fills takes its default. This is so for members on a text, where
what fills nothing may be any value, and for those of a finished object.
-/

set_option autoImplicit false

namespace ItemQuery.Json

def Field.names {α : Type} (field : Field α) : List String := field.name :: field.otherName?.toList

theorem Field.goesBy_iff {α : Type} {field : Field α} {key : String} : field.goesBy key = true ↔ key ∈ field.names := by
  simp [goesBy, names, eq_comm (a := some key)]

def Fields.names : {αs : List Type} → Fields αs → List String
  | [], _ => []
  | _ :: _, (field, fields) => field.names ++ names fields

/-- The members of an object, on a text or in a table, and what a decoder finds in them. -/
structure Source (μ : Type) where
  name? : μ → Option String
  Finds : {α : Type} → Decoder α → μ → α → Prop
  map : ∀ {α β : Type} {decoder : Decoder α} {member : μ} {result : α} (f : α → β),
    Finds decoder member result → Finds (decoder.map f) member (f result)

section Under

variable {μ : Type} {name? : μ → Option String} {names : List String} {member : μ} {members : List μ} {key : String}

def under (name? : μ → Option String) (names : List String) (members : List μ) : List μ :=
  members.filter fun member => (name? member).any (names.contains ·)

theorem under_cons_of_mem (named : name? member = some key) (known : key ∈ names) :
    under name? names (member :: members) = member :: under name? names members :=
  List.filter_cons_of_pos (by rw [named]; simpa using known)

theorem under_cons_of_not_mem (named : name? member = some key) (unknown : key ∉ names) :
    under name? names (member :: members) = under name? names members :=
  List.filter_cons_of_neg (by rw [named]; simpa using unknown)

end Under

variable {μ : Type} (source : Source μ)

/-- The value of a field: what is found in the one member that goes by it, or the default if there is none. -/
def Field.Gets {α : Type} (field : Field α) (members : List μ) (value : α) : Prop :=
  (under source.name? field.names members = [] ∧ field.default? = some value) ∨
    ∃ member, under source.name? field.names members = [member] ∧ source.Finds field.decoder member value

namespace Fields

def Gets : {αs : List Type} → Fields αs → List μ → Row αs → Prop
  | [], _, _, _ => True
  | _ :: _, (field, fields), members, (value, row) => field.Gets source members value ∧ Gets fields members row

/-- The slots together with the members to come make the row. -/
def Awaits : {αs : List Type} → Fields αs → Slots αs → List μ → Row αs → Prop
  | [], _, _, _, _ => True
  | _ :: _, (field, fields), (none, slots), members, (value, row) =>
    field.Gets source members value ∧ Awaits fields slots members row
  | _ :: _, (field, fields), (some found, slots), members, (value, row) =>
    (found = value ∧ under source.name? field.names members = []) ∧ Awaits fields slots members row

variable {source} {member : μ} {members : List μ} {key : String}

theorem Gets.awaits {αs : List Type} {fields : Fields αs} {row : Row αs} (gets : fields.Gets source members row) :
    fields.Awaits source (.empty αs) members row := by
  induction αs with
  | nil => trivial
  | cons α αs ih => exact ⟨gets.1, ih gets.2⟩

/-- With no member to come, the slots and the defaults are the row. -/
theorem Awaits.close {αs : List Type} {fields : Fields αs} {slots : Slots αs} {row : Row αs}
    (awaits : fields.Awaits source slots [] row) : fields.close slots = .ok row := by
  induction αs with
  | nil => rfl
  | cons α αs ih =>
    obtain ⟨field, fields⟩ := fields
    obtain ⟨slot, slots⟩ := slots
    obtain ⟨value, row⟩ := row
    have filled : (slot <|> field.default?) = some value := by
      cases slot with
      | none =>
        obtain ⟨-, default⟩ | ⟨member, listed, -⟩ := awaits.1
        · exact default
        · cases listed
      | some found => exact congrArg some awaits.1.1
    have later : fields.close slots = .ok row := ih (by cases slot <;> exact awaits.2)
    simp only [Fields.close, filled, later]
    rfl

section Route

variable {α : Type} {αs : List Type} {field : Field α} {fields : Fields αs} {slots : Slots αs}

theorem route_cons_of_empty (known : key ∈ field.names) : @route (α :: αs) (field, fields) (none, slots) key =
    .into (field.decoder.map fun value => (some value, slots)) :=
  if_pos (Field.goesBy_iff.mpr known)

theorem route_cons_of_not_mem (slot : Option α) (unknown : key ∉ field.names) :
    @route (α :: αs) (field, fields) (slot, slots) key = (fields.route slots key).map fun slots => (slot, slots) :=
  if_neg (mt Field.goesBy_iff.mp unknown)

end Route

theorem Awaits.of_unknown {αs : List Type} {fields : Fields αs} {slots : Slots αs} {row : Row αs}
    (awaits : fields.Awaits source slots (member :: members) row) (named : source.name? member = some key)
    (unknown : key ∉ fields.names) : fields.Awaits source slots members row := by
  induction αs with
  | nil => trivial
  | cons α αs ih =>
    obtain ⟨field, fields⟩ := fields
    obtain ⟨slot, slots⟩ := slots
    obtain ⟨value, row⟩ := row
    obtain ⟨here, later⟩ := not_or.mp (mt List.mem_append.mpr unknown)
    cases slot <;> refine ⟨?_, ih awaits.2 later⟩
    · simpa only [Field.Gets, under_cons_of_not_mem named here] using awaits.1
    · simpa only [under_cons_of_not_mem named here] using awaits.1

/-- A member goes by no field, or it fills a slot that is empty. Either way the row is still awaited. -/
theorem Awaits.step {αs : List Type} {fields : Fields αs} {slots : Slots αs} {row : Row αs}
    (awaits : fields.Awaits source slots (member :: members) row) (distinct : fields.names.Nodup)
    (named : source.name? member = some key) :
    (fields.route slots key = .unknown ∧ fields.Awaits source slots members row) ∨
      ∃ decoder next, fields.route slots key = .into decoder ∧ source.Finds decoder member next ∧
        fields.Awaits source next members row := by
  induction αs with
  | nil => exact .inl ⟨rfl, trivial⟩
  | cons α αs ih =>
    obtain ⟨field, fields⟩ := fields
    obtain ⟨slot, slots⟩ := slots
    obtain ⟨value, row⟩ := row
    have others : fields.names.Nodup := (List.nodup_append.mp distinct).2.1
    by_cases here : key ∈ field.names
    -- The name is that of the first field alone, whose slot is empty: a full one awaits no member.
    · have later : key ∉ fields.names := fun later => (List.nodup_append.mp distinct).2.2 key here key later rfl
      cases slot with
      | none =>
        obtain ⟨⟨listed, -⟩ | ⟨_, listed, finds⟩, rest⟩ := awaits
        · rw [under_cons_of_mem named here] at listed
          cases listed
        · rw [under_cons_of_mem named here, List.cons_eq_cons] at listed
          obtain ⟨rfl, alone⟩ := listed
          have fills := source.map (fun value => (some value, slots)) finds
          exact .inr ⟨_, _, route_cons_of_empty here, fills, ⟨rfl, alone⟩, rest.of_unknown named later⟩
      | some found =>
        have listed := awaits.1.2
        rw [under_cons_of_mem named here] at listed
        cases listed
    · have same : under source.name? field.names (member :: members) = under source.name? field.names members :=
        under_cons_of_not_mem named here
      have rest : fields.Awaits source slots (member :: members) row := by cases slot <;> exact awaits.2
      -- Whatever the other fields make of the member, the first one awaits what it did before.
      have keeps {slots : Slots αs} (awaits' : fields.Awaits source slots members row) :
          @Awaits _ source (α :: αs) (field, fields) (slot, slots) members (value, row) := by
        cases slot <;> refine ⟨?_, awaits'⟩
        · simpa only [Field.Gets, same] using awaits.1
        · simpa only [same] using awaits.1
      have passed := @route_cons_of_not_mem _ _ _ field fields slots slot here
      obtain ⟨unknown, rest⟩ | ⟨decoder, next, into, finds, rest⟩ := ih rest others
      · exact .inl ⟨passed.trans (congrArg (Route.map _) unknown), keeps rest⟩
      · exact .inr ⟨_, _, passed.trans (congrArg (Route.map _) into), source.map _ finds, keeps rest⟩

end Fields

section Texts

variable {αs : List Type} {fields : Fields αs} {slots : Slots αs} {row : Row αs} {room : Nat}
  {pairs : List (Pair Spelling)}

def onText (room : Nat) : Source (Pair Spelling) where
  name? := Pair.name?
  Finds decoder pair result := Takes (decoder.scan room) pair.value.inner.chars result
  map f takes := Decoder.map_takes f takes

theorem scanMember_of_unknown {key : String} (pair : Pair Spelling) (unknown : fields.route slots key = .unknown) :
    Takes (fields.scanMember room slots key) pair.tail slots := by
  have takes : Takes (fun source => (skip source).map (slots, ·)) pair.value.inner.chars slots := by
    intro space rest boundary
    exact congrArg (Except.map _) (pair.value.inner.skip_append space boundary)
  intro space rest boundary
  rw [Fields.scanMember, unknown]
  exact afterColon_takes takes space rest boundary

theorem scanMember_of_into {key : String} {pair : Pair Spelling} {decoder : Decoder (Slots αs)} {next : Slots αs}
    (into : fields.route slots key = .into decoder) (takes : Takes (decoder.scan room) pair.value.inner.chars next) :
    Takes (fields.scanMember room slots key) pair.tail next := by
  intro space rest boundary
  rw [Fields.scanMember, into]
  exact afterColon_takes takes space rest boundary

theorem exists_steps_scanMember (distinct : fields.names.Nodup) (named : ∀ pair ∈ pairs, pair.name?.isSome)
    (awaits : fields.Awaits (onText room) slots pairs row) :
    ∃ final, Steps (fields.scanMember room) slots pairs final ∧ fields.close final = .ok row := by
  induction pairs generalizing slots with
  | nil => exact ⟨slots, .done, awaits.close⟩
  | cons pair pairs ih =>
    obtain ⟨hasName, named⟩ := List.forall_mem_cons.mp named
    obtain ⟨key, here⟩ := Option.isSome_iff_exists.mp hasName
    obtain ⟨unknown, rest⟩ | ⟨decoder, next, into, takes, rest⟩ := awaits.step distinct here
    · obtain ⟨final, steps, closed⟩ := ih named rest
      exact ⟨final, .next here (scanMember_of_unknown pair unknown) steps, closed⟩
    · obtain ⟨final, steps, closed⟩ := ih named rest
      exact ⟨final, .next here (scanMember_of_into into takes) steps, closed⟩

theorem Decoder.record_takes (name : String) (distinct : fields.names.Nodup)
    (named : ∀ pair ∈ pairs, pair.name?.isSome) (gets : fields.Gets (onText room) pairs row) (close : Space) :
    Takes ((Decoder.record name fields).scan (room + 1)) (Spelling.object pairs close).chars row := by
  obtain ⟨final, steps, closed⟩ := exists_steps_scanMember distinct named gets.awaits
  intro space rest boundary
  rw [object_chars]
  refine (Except.bind_eq_of_ok (head_object space _)).trans ?_
  exact (Except.bind_eq_of_ok (members_append steps close rest)).trans (by simp only [closed]; rfl)

/-- At most one of the members goes by one of the names, and what is written there is as described. -/
def Listed (names : List String) (pairs : List (Pair Spelling)) (Describes : Spelling → Prop) : Prop :=
  under Pair.name? names pairs = [] ∨
    ∃ pair, under Pair.name? names pairs = [pair] ∧ Describes pair.value.inner

def kept {α : Type} (names : List String) (pairs : List (Pair Spelling)) (value default : α) : α :=
  if (under Pair.name? names pairs).isEmpty then default else value

def Spelling.IsObject (Lists : List (Pair Spelling) → Prop) (spelling : Spelling) : Prop :=
  ∃ pairs close, spelling = .object pairs close ∧ (∀ pair ∈ pairs, pair.name?.isSome) ∧ Lists pairs

def within (names : List String) (pairs : List (Pair Spelling)) : List (Pair Spelling) :=
  match under Pair.name? names pairs with
  | ⟨_, ⟨_, .object inner _, _⟩⟩ :: _ => inner
  | _ => []

section Listed

variable {names : List String} {order : List (Pair Spelling)} {Describes : Spelling → Prop}

theorem Listed.under_eq_of_perm (listed : Listed names pairs Describes) (perm : order.Perm pairs) :
    under Pair.name? names order = under Pair.name? names pairs := by
  have perm : (under Pair.name? names order).Perm (under Pair.name? names pairs) := perm.filter _
  obtain none | ⟨pair, one, -⟩ := listed
  · rw [none] at perm ⊢
    exact perm.eq_nil
  · rw [one] at perm ⊢
    exact List.perm_singleton.mp perm

theorem Listed.of_perm (listed : Listed names pairs Describes) (perm : order.Perm pairs) :
    Listed names order Describes := by
  rwa [Listed, listed.under_eq_of_perm perm]

theorem Listed.gets {α : Type} {field : Field α} {value default : α} (listed : Listed names pairs Describes)
    (takes : ∀ {spelling}, Describes spelling → Takes (field.decoder.scan room) spelling.chars value)
    (same : field.names = names) (left : field.default? = some default) :
    field.Gets (onText room) pairs (kept names pairs value default) := by
  subst same
  obtain none | ⟨pair, one, describes⟩ := listed
  · exact .inl ⟨none, by rw [kept, none]; exact left⟩
  · refine .inr ⟨pair, one, ?_⟩
    rw [kept, one]
    exact takes describes

theorem Listed.gets_within {α : Type} {field : Field α} {value : List (Pair Spelling) → α}
    {Lists : List (Pair Spelling) → Prop} (listed : Listed names pairs (Spelling.IsObject Lists))
    (takes : ∀ {pairs}, Lists pairs → (∀ pair ∈ pairs, pair.name?.isSome) → ∀ close : Space,
      Takes (field.decoder.scan room) (Spelling.object pairs close).chars (value pairs))
    (same : field.names = names) (left : field.default? = some (value [])) :
    field.Gets (onText room) pairs (value (within names pairs)) := by
  subst same
  obtain none | ⟨⟨key, before, spelling, after⟩, one, inner, close, same, named, lists⟩ := listed
  · exact .inl ⟨none, by rw [within, none]; exact left⟩
  · dsimp only at same
    subst same
    refine .inr ⟨_, one, ?_⟩
    rw [within, one]
    exact takes lists named close

end Listed

end Texts

section Tables

variable {αs : List Type} {fields : Fields αs} {slots : Slots αs} {row : Row αs} {table : List (String × Value)}

def inTable : Source (String × Value) where
  name? member := some member.1
  Finds decoder member result := decoder.view member.2 = .ok result
  map _ viewed := Except.map_eq_ok_iff.mpr ⟨_, viewed, rfl⟩

theorem exists_foldlM_viewMember (distinct : fields.names.Nodup) (awaits : fields.Awaits inTable slots table row) :
    ∃ final, table.foldlM fields.viewMember slots = .ok final ∧ fields.close final = .ok row := by
  induction table generalizing slots with
  | nil => exact ⟨slots, rfl, awaits.close⟩
  | cons member table ih =>
    simp only [List.foldlM_cons, Fields.viewMember]
    obtain ⟨unknown, rest⟩ | ⟨decoder, next, into, viewed, rest⟩ := awaits.step distinct rfl
    · rw [unknown]
      exact ih rest
    · rw [into]
      exact (Except.bind_eq_of_ok viewed).symm ▸ ih rest

theorem Decoder.record_view (name : String) (distinct : fields.names.Nodup) (gets : fields.Gets inTable table row) :
    (Decoder.record name fields).view (.object table) = .ok row := by
  obtain ⟨final, read, closed⟩ := exists_foldlM_viewMember distinct gets.awaits
  exact (Except.bind_eq_of_ok read).trans closed

/-- One of the members goes by one of the names, and its value is as described. -/
def Given (names : List String) (table : List (String × Value)) (Describes : Value → Prop) : Prop :=
  ∃ member, under inTable.name? names table = [member] ∧ Describes member.2

def LeftOut (names : List String) (table : List (String × Value)) : Prop := under inTable.name? names table = []

theorem Given.gets {α : Type} {field : Field α} {value : α} {names : List String} {Describes : Value → Prop}
    (given : Given names table Describes) (views : ∀ found, Describes found → field.decoder.view found = .ok value)
    (same : field.names = names) : field.Gets inTable table value := by
  subst same
  obtain ⟨member, one, describes⟩ := given
  exact .inr ⟨member, one, views _ describes⟩

theorem LeftOut.gets {α : Type} {field : Field α} {value : α} {names : List String} (leftOut : LeftOut names table)
    (same : field.names = names) (default : field.default? = some value) : field.Gets inTable table value := by
  subst same
  exact .inl ⟨leftOut, default⟩

/-- An optional field is given, or it is left out and has its default. -/
theorem gets_of_given_or_leftOut {α : Type} {field : Field α} {value default : α} {names : List String}
    {Describes : Value → Prop} (either : Given names table Describes ∨ LeftOut names table ∧ value = default)
    (views : ∀ found, Describes found → field.decoder.view found = .ok value) (same : field.names = names)
    (left : field.default? = some default) : field.Gets inTable table value := by
  obtain given | ⟨leftOut, rfl⟩ := either
  · exact given.gets views same
  · exact leftOut.gets same left

theorem view_text {value : String} : ∀ found, found = Value.text value → Decoder.text.view found = .ok value := by
  rintro _ rfl
  rfl

end Tables

end ItemQuery.Json
