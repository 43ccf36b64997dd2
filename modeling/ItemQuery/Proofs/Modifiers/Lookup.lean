import ItemQuery.Proofs.Json.Writing
import ItemQuery.Proofs.Modifiers

/-! What is found under the keys of modifiers.

Of a repeated key the last fragment counts, without its double quotes. A document of records is
first read into a table that has each key once. The modifiers are made from that table, and in
whatever order it is gone through, the same is found in them as in those that are made from the
members of the document one by one.
-/

set_option autoImplicit false

namespace ItemQuery.Modifiers

open Json

variable {pairs : List (String × String)} {key : String}

section Pairs

theorem table_ofPairs (pairs : List (String × String)) :
    (ofPairs pairs).table = (Keyed.ofList Prod.fst pairs).map fun pair => .of pair.1 pair.2 :=
  Keyed.ofList_map (fun _ => rfl) pairs

theorem keys_ofPairs (pairs : List (String × String)) : (ofPairs pairs).keys = (pairs.map Prod.fst).eraseDups := by
  rw [keys, table_ofPairs, List.map_map, ← Keyed.keys_ofList]
  rfl

theorem size_ofPairs (pairs : List (String × String)) :
    (ofPairs pairs).size = (pairs.map Prod.fst).eraseDups.length := by
  rw [← keys_ofPairs, keys, List.length_map, size]

theorem get?_ofPairs (pairs : List (String × String)) (key : String) :
    (ofPairs pairs).get? key =
      (Keyed.get? Prod.fst key (Keyed.ofList Prod.fst pairs)).map fun pair => .of pair.1 pair.2 := by
  rw [get?, table_ofPairs]
  exact Keyed.get?_map (fun _ => rfl) key _

theorem fragment_eq_ok_iff {modifiers : Modifiers} {fragment : String} :
    modifiers.fragment key = .ok fragment ↔
      ∃ modifier, modifiers.get? key = some modifier ∧ modifier.fragment = fragment := by
  cases found : modifiers.get? key <;> simp [Modifiers.fragment, found]

theorem fragment_eq_error_iff {modifiers : Modifiers} {cause : CatalogError} :
    modifiers.fragment key = .error cause ↔ key ∉ modifiers.keys ∧ cause = .unknownModifier key := by
  rw [← get?_eq_none_iff]
  cases found : modifiers.get? key <;> simp [Modifiers.fragment, found, eq_comm]

theorem fragment_ofPairs_eq_ok_iff {fragment : String} : (ofPairs pairs).fragment key = .ok fragment ↔
    ∃ before text after, pairs = before ++ (key, text) :: after ∧ (∀ pair ∈ after, pair.1 ≠ key) ∧
      fragment = .ofList (text.toList.filter (· ≠ '"')) := by
  simp only [fragment_eq_ok_iff, get?_ofPairs, Option.map_eq_some_iff, Keyed.get?_ofList_eq_some_iff]
  constructor
  · rintro ⟨_, ⟨⟨_, text⟩, ⟨rfl, before, after, split, others⟩, rfl⟩, rfl⟩
    exact ⟨before, text, after, split, others, rfl⟩
  · rintro ⟨before, text, after, split, others, rfl⟩
    exact ⟨_, ⟨(key, text), ⟨rfl, before, after, split, others⟩, rfl⟩, rfl⟩

end Pairs

section Order

variable {order : List (String × String)}

/-- The same is found in both. -/
structure Agree (first second : Modifiers) : Prop where
  get? : ∀ key, first.get? key = second.get? key
  fragment : ∀ key, first.fragment key = second.fragment key
  size : first.size = second.size
  isEmpty : first.isEmpty = second.isEmpty

theorem agree_of_get? {first second : Modifiers} (same : ∀ key, first.get? key = second.get? key)
    (size : first.size = second.size) : Agree first second where
  get? := same
  fragment key := by simp only [Modifiers.fragment, same]
  size := size
  isEmpty := by
    rw [Bool.eq_iff_iff, isEmpty, isEmpty, List.isEmpty_iff_length_eq_zero, List.isEmpty_iff_length_eq_zero]
    exact Eq.congr_left size

theorem agree_of_perm (perm : order.Perm (Keyed.ofList Prod.fst pairs)) : Agree (ofPairs order) (ofPairs pairs) := by
  have distinct : ((Keyed.ofList Prod.fst pairs).map Prod.fst).Nodup := Keyed.nodup_keys_ofList pairs
  have once : Keyed.ofList Prod.fst order = order :=
    Keyed.ofList_eq_self ((perm.map Prod.fst).nodup_iff.mpr distinct)
  apply agree_of_get?
  · intro key
    rw [get?_ofPairs, get?_ofPairs, once, Keyed.get?_eq_of_perm distinct perm]
  · rw [size, size, table_ofPairs, table_ofPairs, once, List.length_map, List.length_map, perm.length_eq]

end Order

section Documents

variable {spelling : Spelling} {fragment : String} {members : List (Pair Spelling)}

/-- The spelling is that of a record. One member has the fragment, under one of the two names that it goes by; members
of other names may hold anything. -/
def IsRecord (fragment : String) (spelling : Spelling) : Prop :=
  spelling.IsObject fun pairs =>
    ∃ pair, under Pair.name? ["safeFragment", "matchSafe"] pairs = [pair] ∧ pair.value.inner.IsText fragment

theorem IsRecord.takes {room : Nat} (record : IsRecord fragment spelling) :
    Takes (recordDecoder.scan (room + 1)) spelling.chars fragment := by
  obtain ⟨pairs, close, rfl, named, pair, one, isText⟩ := record
  have gets : recordFields.Gets (onText room) pairs (fragment, ()) := ⟨.inr ⟨pair, one, isText.takes⟩, trivial⟩
  exact Decoder.map_takes _ (Decoder.record_takes _ (by decide) named gets close)

/-- A document of records is read into a table that has each key once, with the fragment of its last record. -/
theorem decode_records (records : List.Forall₂ (fun member pair => member.name? = some pair.1 ∧
      IsRecord pair.2 member.value.inner) members pairs) (before close after : Space) :
    (Decoder.table recordDecoder).decode (Padded.document ⟨before, .object members close, after⟩) =
      .ok (Keyed.ofList Prod.fst pairs) := by
  have takes : Takes ((Decoder.table recordDecoder).scan room) (Spelling.object members close).chars _ :=
    Decoder.table_takes (records.imp fun _ _ both => ⟨both.1, both.2.takes⟩) close
  exact Decoder.decode_document takes

end Documents

/-- Modifiers have each key once, with the last fragment that is given for it. A document of records comes to the same,
though it is read into a table first: whatever the order in which the table is gone through, the same is found as in
the modifiers made from the members of the document one by one. -/
theorem lookup_last (pairs : List (String × String)) :
    (ofPairs pairs).keys = (pairs.map Prod.fst).eraseDups ∧
    (ofPairs pairs).size = (pairs.map Prod.fst).eraseDups.length ∧
    (∀ key fragment, (ofPairs pairs).fragment key = .ok fragment ↔
      ∃ before text after, pairs = before ++ (key, text) :: after ∧ (∀ pair ∈ after, pair.1 ≠ key) ∧
        fragment = .ofList (text.toList.filter (· ≠ '"'))) ∧
    (∀ key cause, (ofPairs pairs).fragment key = .error cause ↔
      key ∉ pairs.map Prod.fst ∧ cause = .unknownModifier key) ∧
    ∀ members, List.Forall₂ (fun member pair => member.name? = some pair.1 ∧ IsRecord pair.2 member.value.inner)
        members pairs → ∀ before close after : Space,
      ∃ table,
        (Decoder.table recordDecoder).decode (Padded.document ⟨before, .object members close, after⟩) = .ok table ∧
        (table.map Prod.fst).Nodup ∧
        (∀ pair, pair ∈ table ↔
          ∃ earlier later, pairs = earlier ++ pair :: later ∧ ∀ other ∈ later, other.1 ≠ pair.1) ∧
        parse (Padded.document ⟨before, .object members close, after⟩) = .ok (ofPairs table) ∧
        ∀ order, order.Perm table → Agree (ofPairs order) (ofPairs pairs) := by
  refine ⟨keys_ofPairs pairs, size_ofPairs pairs, fun key fragment => fragment_ofPairs_eq_ok_iff, fun key cause => ?_,
    fun members records before close after => ?_⟩
  · rw [fragment_eq_error_iff, keys_ofPairs, List.mem_eraseDups]
  · have read := decode_records records before close after
    exact ⟨_, read, Keyed.nodup_keys_ofList pairs, fun pair => Keyed.mem_ofList_iff,
      by rw [parse, read]; rfl, fun order => agree_of_perm⟩

/-- A document with a key that is repeated, both names of a fragment, and a member that is read over. -/
theorem lookup_last_repeated :
    ∃ modifiers, parse ("\x7b\"reflect\":\x7b\"matchSafe\":\"x\"\x7d," ++
        "\"regen\":\x7b\"safeFragment\":\"\\\"s reg\\\"\"\x7d," ++
        "\"reflect\":\x7b\"note\":[],\"safeFragment\":\"efl\"\x7d\x7d") = .ok modifiers ∧
      modifiers.fragment "reflect" = .ok "efl" ∧ modifiers.fragment "regen" = .ok "s reg" := by
  let pairs : List (String × String) := [("reflect", "x"), ("regen", "\"s reg\""), ("reflect", "efl")]
  let members : List (Pair Spelling) := Pair.all [("reflect", .ofMembers [("matchSafe", .ofText "x")]),
    ("regen", .ofMembers [("safeFragment", .ofText "\"s reg\"")]),
    ("reflect", .ofMembers [("note", .list [] {}), ("safeFragment", .ofText "efl")])]
  have records : List.Forall₂ (fun member pair => member.name? = some pair.1 ∧ IsRecord pair.2 member.value.inner)
      members pairs :=
    .cons ⟨Pair.name?_of .., Spelling.isObject_ofMembers ⟨_, rfl, Spelling.isText_ofText _⟩⟩
      (.cons ⟨Pair.name?_of .., Spelling.isObject_ofMembers ⟨_, rfl, Spelling.isText_ofText _⟩⟩
        (.cons ⟨Pair.name?_of .., Spelling.isObject_ofMembers ⟨_, rfl, Spelling.isText_ofText _⟩⟩ .nil))
  obtain ⟨-, -, fragment, -, document⟩ := lookup_last pairs
  obtain ⟨table, -, -, -, parsed, agree⟩ := document members records {} {} {}
  refine ⟨ofPairs table, parsed, ?_, ?_⟩
  · rw [(agree table (.refl _)).fragment, fragment]
    exact ⟨[("reflect", "x"), ("regen", "\"s reg\"")], "efl", [], rfl, by decide, rfl⟩
  · rw [(agree table (.refl _)).fragment, fragment]
    exact ⟨[("reflect", "x")], "\"s reg\"", [("reflect", "efl")], rfl, by decide, by decide⟩

end ItemQuery.Modifiers
