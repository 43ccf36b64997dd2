import ItemQuery.Proofs.Catalog.Table
import ItemQuery.Proofs.Json.Writing

/-! Catalog documents.

A document gives a description under each key. Keys may be repeated: what is built from
the document is the catalog of the described categories, and only the last description of
a key has to be one.
-/

set_option autoImplicit false

namespace ItemQuery

open Json

/-- The object gives the member, with nothing to be said of what else it holds. -/
structure Member.GivenBy (member : Member) (table : List (String × Value)) : Prop where
  name : Given ["name"] table (· = .text member.name)
  category : Given ["category", "baseType"] table (· = .text member.category)
  icon : Given ["icon"] table (· = .text member.icon) ∨ LeftOut ["icon"] table ∧ member.icon = ""

theorem Member.GivenBy.view {member : Member} {table : List (String × Value)} (given : member.GivenBy table) :
    Member.decoder.view (.object table) = .ok member := by
  have gets : Member.fields.Gets inTable table (member.name, member.category, member.icon, ()) :=
    ⟨given.name.gets view_text rfl, given.category.gets view_text rfl,
      gets_of_given_or_leftOut given.icon view_text rfl rfl, trivial⟩
  exact Except.map_eq_ok_iff.mpr ⟨_, Decoder.record_view _ (by decide) gets, rfl⟩

namespace Category

/-- What a document says about a category, its key apart. -/
structure Description where
  canonicalName : String
  fragment : String
  members : List Member
  deriving DecidableEq, Repr, Inhabited

namespace Description

def category (description : Description) (key : String) : Category :=
  .of key description.canonicalName description.fragment description.members

/-- The object gives the description, in any order and under either name of a part. -/
structure GivenBy (description : Description) (table : List (String × Value)) : Prop where
  canonicalName : Given ["canonicalName"] table (· = .text description.canonicalName)
  fragment : Given ["fragmentPattern", "regex"] table (· = .text description.fragment)
  members : Given ["members", "items"] table (fun found => ∃ tables, found = .list (tables.map .object) ∧
      List.Forall₂ Member.GivenBy description.members tables) ∨
    LeftOut ["members", "items"] table ∧ description.members = []

theorem GivenBy.view {description : Description} {table : List (String × Value)} (given : description.GivenBy table) :
    recordDecoder.view (.object table) = .ok description.category := by
  have list : ∀ found, (∃ tables, found = Value.list (tables.map .object) ∧
      List.Forall₂ Member.GivenBy description.members tables) →
      (Decoder.list Member.decoder).view found = .ok description.members := by
    rintro _ ⟨tables, rfl, listed⟩
    refine Except.mapM_eq_ok_iff.mpr (List.forall₂_map_left_iff.mpr ?_)
    exact listed.flip.imp fun _ _ given => given.view
  have gets : recordFields.Gets inTable table
      (description.canonicalName, description.fragment, description.members, ()) :=
    ⟨given.canonicalName.gets view_text rfl, given.fragment.gets view_text rfl,
      gets_of_given_or_leftOut given.members list rfl rfl, trivial⟩
  exact Except.map_eq_ok_iff.mpr ⟨_, Decoder.record_view _ (by decide) gets, rfl⟩

end Description

end Category

namespace Catalog

open Category

/-- Under each key there is the description beside it, unless the key comes again. -/
inductive Describes : List (String × Value) → List (String × Description) → Prop where
  | nil : Describes [] []
  | given {key : String} {table : List (String × Value)} {description : Description}
      {entries : List (String × Value)} {descriptions : List (String × Description)} :
      description.GivenBy table → Describes entries descriptions →
      Describes ((key, .object table) :: entries) ((key, description) :: descriptions)
  | replaced {key : String} {found : Value} {description : Description}
      {entries : List (String × Value)} {descriptions : List (String × Description)} :
      key ∈ entries.map Prod.fst → Describes entries descriptions →
      Describes ((key, found) :: entries) ((key, description) :: descriptions)

variable {entries : List (String × Value)} {descriptions : List (String × Description)} {key : String}

theorem Describes.keys (describes : Describes entries descriptions) :
    entries.map Prod.fst = descriptions.map Prod.fst := by
  induction describes with
  | nil => rfl
  | given _ _ ih => rw [List.map_cons, List.map_cons, ih]
  | replaced _ _ ih => rw [List.map_cons, List.map_cons, ih]

def last? {α : Type} (key : String) (members : List (String × α)) : Option (String × α) :=
  (members.filter (·.1 = key)).getLast?

theorem last?_cons {α : Type} (member : String × α) (members : List (String × α)) :
    last? key (member :: members) = (last? key members).or (if member.1 = key then some member else none) := by
  rw [last?, ← List.singleton_append, List.filter_append, List.getLast?_append]
  by_cases same : member.1 = key <;> simp [same, last?]

theorem last?_eq_none_iff {α : Type} {members : List (String × α)} :
    last? key members = none ↔ key ∉ members.map Prod.fst := by
  rw [last?, List.getLast?_eq_none_iff, List.filter_eq_nil_iff]
  simp only [decide_eq_true_eq, List.mem_map, not_exists, not_and]

theorem last?_cons_of_mem {α : Type} {member : String × α} {members : List (String × α)}
    (again : member.1 ∈ members.map Prod.fst) : last? key (member :: members) = last? key members := by
  rw [last?_cons]
  split
  · next same =>
    obtain ⟨last, isLast⟩ := Option.ne_none_iff_exists'.mp (mt last?_eq_none_iff.mp (not_not.mpr (same ▸ again)))
    rw [isLast, Option.some_or]
  · rw [Option.or_none]

theorem Describes.exists_last (describes : Describes entries descriptions) {entry : String × Value}
    (found : last? key entries = some entry) : ∃ table description, entry = (key, .object table) ∧
      last? key descriptions = some (key, description) ∧ description.GivenBy table := by
  induction describes with
  | nil => cases found
  | @given first table description entries descriptions given later ih =>
    rw [last?_cons] at found ⊢
    -- The first member counts only if its key does not come again.
    cases last : last? key entries with
    | some other =>
      rw [last, Option.some_or] at found
      obtain ⟨table, description, same, isLast, given⟩ := ih (last.trans found)
      exact ⟨table, description, same, by rw [isLast, Option.some_or], given⟩
    | none =>
      have none : last? key descriptions = none := last?_eq_none_iff.mpr (later.keys ▸ last?_eq_none_iff.mp last)
      rw [last, Option.none_or] at found
      rw [none, Option.none_or]
      split at found
      · next same =>
        cases found
        cases same
        exact ⟨table, description, rfl, if_pos rfl, given⟩
      · cases found
  | @replaced first value description entries descriptions again later ih =>
    rw [last?_cons_of_mem again] at found
    rw [last?_cons_of_mem (later.keys ▸ again)]
    exact ih found

/-- The tables keep what counts: each key once, with its last value and its last description. -/
theorem Describes.tables (describes : Describes entries descriptions) :
    List.Forall₂ (fun entry described => entry.1 = described.1 ∧ ∃ table, entry.2 = Value.object table ∧
        described.2.GivenBy table)
      (Keyed.ofList Prod.fst entries) (Keyed.ofList Prod.fst descriptions) := by
  have distinct : ((Keyed.ofList Prod.fst entries).map Prod.fst).Nodup := Keyed.nodup_keys_ofList entries
  have keys : (Keyed.ofList Prod.fst entries).map Prod.fst = (Keyed.ofList Prod.fst descriptions).map Prod.fst := by
    rw [Keyed.keys_ofList, Keyed.keys_ofList, describes.keys]
  refine Keyed.forall₂_of_get? keys distinct fun entry member => ?_
  have isLast : last? entry.1 entries = some entry :=
    (Keyed.get?_ofList entry.1 entries).symm.trans (Keyed.get?_of_mem distinct member rfl)
  obtain ⟨table, description, same, found, given⟩ := describes.exists_last isLast
  exact ⟨_, (Keyed.get?_ofList entry.1 descriptions).trans found, rfl, table, congrArg Prod.snd same, given⟩

theorem ofCategories_ofList (descriptions : List (String × Description)) :
    ofCategories ((Keyed.ofList Prod.fst descriptions).map fun described => described.2.category described.1) =
      ofCategories (descriptions.map fun described => described.2.category described.1) := by
  have once (items : List (String × Description)) :
      Keyed.ofList Category.key (items.map fun described => described.2.category described.1) =
        (Keyed.ofList Prod.fst items).map fun described => described.2.category described.1 :=
    Keyed.ofList_map (fun _ => rfl) items
  apply eq_of_categories_eq
  rw [categories_ofCategories, categories_ofCategories, once, once,
    Keyed.ofList_eq_self (Keyed.nodup_keys_ofList descriptions)]

theorem mem_ofList_iff {α : Type} {members : List (String × α)} {key : String} {value : α} :
    (key, value) ∈ Keyed.ofList Prod.fst members ↔ last? key members = some (key, value) := by
  rw [last?, ← Keyed.get?_ofList]
  exact ⟨fun member => Keyed.get?_of_mem (Keyed.nodup_keys_ofList members) member rfl, Keyed.mem_of_get?_eq_some⟩

theorem parse_eq {pairs : List (Pair Spelling)} (spelled : Spelling.pairValues? 126 pairs = some entries)
    (before close after : Space) :
    parse (Padded.document ⟨before, .object pairs close, after⟩) =
      ((Keyed.ofList Prod.fst entries).mapM fun entry =>
        (Decoder.checked (recordDecoder.view entry.2)).map (· entry.1)).map ofCategories := by
  have read : Takes ((Decoder.table .any).scan room) (Spelling.object pairs close).chars _ :=
    Decoder.table_takes ((Spelling.pairValues?_eq_some_iff.mp spelled).imp
      fun _ _ both => ⟨both.1, value_takes both.2⟩) close
  rw [parse, Except.bind_eq_of_ok (Decoder.decode_document read)]
  rfl

/-- A document is read as the catalog of the categories that it describes. It is refused exactly
when the last value of some key is no description. -/
theorem parse_described {pairs : List (Pair Spelling)} (spelled : Spelling.pairValues? 126 pairs = some entries)
    (before close after : Space) :
    (∀ descriptions, Describes entries descriptions →
      parse (Padded.document ⟨before, .object pairs close, after⟩) =
        .ok (ofCategories (descriptions.map fun described => described.2.category described.1))) ∧
    ((∃ fault, parse (Padded.document ⟨before, .object pairs close, after⟩) = .error fault) ↔
      ∃ key found, last? key entries = some (key, found) ∧ ∃ cause, recordDecoder.view found = .error cause) := by
  rw [parse_eq spelled]
  constructor
  · intro descriptions describes
    have found : (Keyed.ofList Prod.fst entries).mapM (fun entry =>
        (Decoder.checked (recordDecoder.view entry.2)).map (· entry.1)) =
        .ok ((Keyed.ofList Prod.fst descriptions).map fun described => described.2.category described.1) := by
      refine Except.mapM_eq_ok_iff.mpr (List.forall₂_map_right_iff.mpr (describes.tables.imp ?_))
      rintro ⟨key, _⟩ ⟨_, description⟩ ⟨rfl, table, rfl, given⟩
      rw [given.view]
      rfl
    rw [found, ← ofCategories_ofList]
    rfl
  · simp only [Except.map_eq_error_iff, Except.exists_mapM_eq_error_iff, Prod.exists, mem_ofList_iff]
    refine exists_congr fun key => exists_congr fun found => and_congr_right fun _ => ?_
    cases recordDecoder.view found with
    | error cause => exact ⟨fun _ => ⟨cause, rfl⟩, fun _ => ⟨.mismatch cause, rfl⟩⟩
    | ok describe => exact ⟨nofun, nofun⟩

/-- A document with a key that is repeated, no description the first time. -/
theorem parse_described_repeated :
    parse "\x7b\"a\":null,\"a\":\x7b\"regex\":\"\\\"a\",\"canonicalName\":\"A\",\"items\":[]\x7d\x7d" =
      .ok (ofCategories [⟨"a", "A", "a", []⟩]) := by
  let entries : List (String × Value) := [("a", .null),
    ("a", .object [("regex", .text "\"a"), ("canonicalName", .text "A"), ("items", .list [])])]
  let pairs : List (Pair Spelling) := Pair.all [("a", .scalar .null),
    ("a", .ofMembers [("regex", .ofText "\"a"), ("canonicalName", .ofText "A"), ("items", .list [] {})])]
  have described : Describes entries [("a", ⟨"", "", []⟩), ("a", ⟨"A", "\"a", []⟩)] :=
    .replaced (by decide) (.given ⟨⟨_, rfl, rfl⟩, ⟨_, rfl, rfl⟩, .inl ⟨_, rfl, [], rfl, .nil⟩⟩ .nil)
  exact (@parse_described entries pairs rfl {} {} {}).1 _ described

end Catalog

end ItemQuery
