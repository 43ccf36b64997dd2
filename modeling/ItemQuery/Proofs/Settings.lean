import ItemQuery.Settings
import ItemQuery.Proofs.Json.Members
import ItemQuery.Proofs.Json.Writing

/-! Settings documents.

A document lists some of the choices, each at most once and in any order, and may hold
anything under other keys. It is read as the choices that it lists, with defaults for
those left out. What is written is such a document, with every choice listed.
-/

set_option autoImplicit false

namespace ItemQuery

open Json Spelling

/-- The members list some of the choices of the minimum. -/
structure Minimum.ListedBy (minimum : Minimum) (pairs : List (Pair Spelling)) : Prop where
  digits : Listed ["digits"] pairs (IsText minimum.digits)
  relax : Listed ["relax"] pairs (IsFlag minimum.relax)

structure RarityFilter.ListedBy (filter : RarityFilter) (pairs : List (Pair Spelling)) : Prop where
  normal : Listed ["normal"] pairs (IsFlag filter.normal)
  magic : Listed ["magic"] pairs (IsFlag filter.magic)
  rare : Listed ["rare"] pairs (IsFlag filter.rare)
  allow : Listed ["include"] pairs (IsFlag filter.allow)

structure Settings.ListedBy (settings : Settings) (pairs : List (Pair Spelling)) : Prop where
  badMods : Listed ["badMods"] pairs (IsTexts settings.badMods)
  goodMods : Listed ["goodMods"] pairs (IsTexts settings.goodMods)
  allGoodMods : Listed ["allGoodMods"] pairs (IsFlag settings.allGoodMods)
  quantity : Listed ["quantity"] pairs (IsObject settings.quantity.ListedBy)
  packSize : Listed ["packsize"] pairs (IsObject settings.packSize.ListedBy)
  rarity : Listed ["rarity"] pairs (IsObject settings.rarity.ListedBy)
  bonusMods : Listed ["bonusMods", "kirac"] pairs (IsTexts settings.bonusMods)

/-- The choices that the members list, defaults for the others. -/
def Minimum.kept (minimum : Minimum) (pairs : List (Pair Spelling)) : Minimum where
  digits := Json.kept ["digits"] pairs minimum.digits ""
  relax := Json.kept ["relax"] pairs minimum.relax false

def RarityFilter.kept (filter : RarityFilter) (pairs : List (Pair Spelling)) : RarityFilter where
  normal := Json.kept ["normal"] pairs filter.normal true
  magic := Json.kept ["magic"] pairs filter.magic true
  rare := Json.kept ["rare"] pairs filter.rare true
  allow := Json.kept ["include"] pairs filter.allow true

def Settings.kept (settings : Settings) (pairs : List (Pair Spelling)) : Settings where
  badMods := Json.kept ["badMods"] pairs settings.badMods []
  goodMods := Json.kept ["goodMods"] pairs settings.goodMods []
  allGoodMods := Json.kept ["allGoodMods"] pairs settings.allGoodMods false
  quantity := settings.quantity.kept (within ["quantity"] pairs)
  packSize := settings.packSize.kept (within ["packsize"] pairs)
  rarity := settings.rarity.kept (within ["rarity"] pairs)
  bonusMods := Json.kept ["bonusMods", "kirac"] pairs settings.bonusMods []

section Reading

variable {pairs : List (Pair Spelling)} {room : Nat}

theorem Minimum.ListedBy.takes {minimum : Minimum} (listed : minimum.ListedBy pairs)
    (named : ∀ pair ∈ pairs, pair.name?.isSome) (close : Space) :
    Takes (Minimum.decoder.scan (room + 1)) (Spelling.object pairs close).chars (minimum.kept pairs) := by
  have gets : Minimum.fields.Gets (onText room) pairs
      ((minimum.kept pairs).digits, (minimum.kept pairs).relax, ()) :=
    ⟨listed.digits.gets IsText.takes rfl rfl, listed.relax.gets IsFlag.takes rfl rfl, trivial⟩
  exact Decoder.map_takes _ (Decoder.record_takes _ (by decide) named gets close)

theorem RarityFilter.ListedBy.takes {filter : RarityFilter} (listed : filter.ListedBy pairs)
    (named : ∀ pair ∈ pairs, pair.name?.isSome) (close : Space) :
    Takes (RarityFilter.decoder.scan (room + 1)) (Spelling.object pairs close).chars (filter.kept pairs) := by
  have gets : RarityFilter.fields.Gets (onText room) pairs
      ((filter.kept pairs).normal, (filter.kept pairs).magic, (filter.kept pairs).rare, (filter.kept pairs).allow,
        ()) :=
    ⟨listed.normal.gets IsFlag.takes rfl rfl, listed.magic.gets IsFlag.takes rfl rfl,
      listed.rare.gets IsFlag.takes rfl rfl, listed.allow.gets IsFlag.takes rfl rfl, trivial⟩
  exact Decoder.map_takes _ (Decoder.record_takes _ (by decide) named gets close)

namespace Settings

variable {settings : Settings}

theorem ListedBy.takes (listed : settings.ListedBy pairs) (named : ∀ pair ∈ pairs, pair.name?.isSome) (close : Space) :
    Takes (Settings.decoder.scan (room + 2)) (Spelling.object pairs close).chars (settings.kept pairs) := by
  have gets : Settings.fields.Gets (onText (room + 1)) pairs
      ((settings.kept pairs).badMods, (settings.kept pairs).goodMods, (settings.kept pairs).allGoodMods,
        settings.quantity.kept (within ["quantity"] pairs), settings.packSize.kept (within ["packsize"] pairs),
        settings.rarity.kept (within ["rarity"] pairs), (settings.kept pairs).bonusMods, ()) :=
    ⟨listed.badMods.gets IsTexts.takes rfl rfl, listed.goodMods.gets IsTexts.takes rfl rfl,
      listed.allGoodMods.gets IsFlag.takes rfl rfl, listed.quantity.gets_within Minimum.ListedBy.takes rfl rfl,
      listed.packSize.gets_within Minimum.ListedBy.takes rfl rfl,
      listed.rarity.gets_within RarityFilter.ListedBy.takes rfl rfl, listed.bonusMods.gets IsTexts.takes rfl rfl,
      trivial⟩
  exact Decoder.map_takes _ (Decoder.record_takes _ (by decide) named gets close)

theorem ListedBy.of_perm {order : List (Pair Spelling)} (listed : settings.ListedBy pairs) (perm : order.Perm pairs) :
    settings.ListedBy order where
  badMods := listed.badMods.of_perm perm
  goodMods := listed.goodMods.of_perm perm
  allGoodMods := listed.allGoodMods.of_perm perm
  quantity := listed.quantity.of_perm perm
  packSize := listed.packSize.of_perm perm
  rarity := listed.rarity.of_perm perm
  bonusMods := listed.bonusMods.of_perm perm

theorem ListedBy.kept_of_perm {order : List (Pair Spelling)} (listed : settings.ListedBy pairs)
    (perm : order.Perm pairs) : settings.kept order = settings.kept pairs := by
  simp only [Settings.kept, Json.kept, within, listed.badMods.under_eq_of_perm perm,
    listed.goodMods.under_eq_of_perm perm, listed.allGoodMods.under_eq_of_perm perm,
    listed.quantity.under_eq_of_perm perm, listed.packSize.under_eq_of_perm perm,
    listed.rarity.under_eq_of_perm perm, listed.bonusMods.under_eq_of_perm perm]

end Settings

end Reading

section Writing

def Minimum.members (minimum : Minimum) : List (String × Spelling) :=
  [("digits", ofText minimum.digits), ("relax", ofFlag minimum.relax)]

theorem Minimum.chars_members (minimum : Minimum) : (ofMembers minimum.members).chars = minimum.toJson.written :=
  chars_ofMembers (.cons ⟨rfl, chars_ofText _⟩ (.cons ⟨rfl, chars_ofFlag _⟩ .nil))

theorem Minimum.listedBy_members (minimum : Minimum) : minimum.ListedBy (Pair.all minimum.members) where
  digits := listed_all rfl (isText_ofText _)
  relax := listed_all rfl rfl

theorem Minimum.kept_members (minimum : Minimum) : minimum.kept (Pair.all minimum.members) = minimum := by
  rw [Minimum.kept, kept_all rfl, kept_all rfl]

def RarityFilter.members (filter : RarityFilter) : List (String × Spelling) :=
  [("normal", ofFlag filter.normal), ("magic", ofFlag filter.magic), ("rare", ofFlag filter.rare),
    ("include", ofFlag filter.allow)]

theorem RarityFilter.chars_members (filter : RarityFilter) :
    (ofMembers filter.members).chars = filter.toJson.written :=
  chars_ofMembers (.cons ⟨rfl, chars_ofFlag _⟩ (.cons ⟨rfl, chars_ofFlag _⟩ (.cons ⟨rfl, chars_ofFlag _⟩
    (.cons ⟨rfl, chars_ofFlag _⟩ .nil))))

theorem RarityFilter.listedBy_members (filter : RarityFilter) : filter.ListedBy (Pair.all filter.members) where
  normal := listed_all rfl rfl
  magic := listed_all rfl rfl
  rare := listed_all rfl rfl
  allow := listed_all rfl rfl

theorem RarityFilter.kept_members (filter : RarityFilter) : filter.kept (Pair.all filter.members) = filter := by
  rw [RarityFilter.kept, kept_all rfl, kept_all rfl, kept_all rfl, kept_all rfl]

namespace Settings

variable (settings : Settings)

def members : List (String × Spelling) :=
  [("badMods", ofTexts settings.badMods), ("goodMods", ofTexts settings.goodMods),
    ("allGoodMods", ofFlag settings.allGoodMods), ("quantity", ofMembers settings.quantity.members),
    ("packsize", ofMembers settings.packSize.members), ("rarity", ofMembers settings.rarity.members),
    ("bonusMods", ofTexts settings.bonusMods)]

theorem chars_members : (ofMembers settings.members).chars = settings.toJson.written :=
  chars_ofMembers (.cons ⟨rfl, chars_ofTexts _⟩ (.cons ⟨rfl, chars_ofTexts _⟩ (.cons ⟨rfl, chars_ofFlag _⟩
    (.cons ⟨rfl, settings.quantity.chars_members⟩ (.cons ⟨rfl, settings.packSize.chars_members⟩
      (.cons ⟨rfl, settings.rarity.chars_members⟩ (.cons ⟨rfl, chars_ofTexts _⟩ .nil)))))))

theorem listedBy_members : settings.ListedBy (Pair.all settings.members) where
  badMods := listed_all rfl (isTexts_ofTexts _)
  goodMods := listed_all rfl (isTexts_ofTexts _)
  allGoodMods := listed_all rfl rfl
  quantity := listed_all rfl (isObject_ofMembers settings.quantity.listedBy_members)
  packSize := listed_all rfl (isObject_ofMembers settings.packSize.listedBy_members)
  rarity := listed_all rfl (isObject_ofMembers settings.rarity.listedBy_members)
  bonusMods := listed_all rfl (isTexts_ofTexts _)

theorem kept_members : settings.kept (Pair.all settings.members) = settings := by
  rw [Settings.kept, kept_all rfl, kept_all rfl, kept_all rfl, kept_all rfl, within_all rfl, within_all rfl,
    within_all rfl, settings.quantity.kept_members, settings.packSize.kept_members, settings.rarity.kept_members]

/-- Whatever the order of its members, a document is read as the choices that it lists, and what is
written is read as what it was written from. -/
theorem parse_listing (settings : Settings) :
    (∀ pairs, (∀ pair ∈ pairs, pair.name?.isSome) → settings.ListedBy pairs →
      ∀ order, order.Perm pairs → ∀ before close after : Space,
        parse (Padded.document ⟨before, .object order close, after⟩) = .ok (settings.kept pairs)) ∧
    parse settings.toJson.render = .ok settings := by
  constructor
  · intro pairs named listed order perm before close after
    -- Each choice is listed at most once, so the order has no say in what is kept.
    rw [← listed.kept_of_perm perm]
    have namedOrder : ∀ pair ∈ order, pair.name?.isSome := fun pair listed => named pair (perm.subset listed)
    exact Decoder.decode_document ((listed.of_perm perm).takes namedOrder close)
  · have takes : Takes (decoder.scan room) (ofMembers settings.members).chars _ :=
      settings.listedBy_members.takes Pair.isSome_name?_of_mem_all {}
    have written : Padded.document ⟨{}, ofMembers settings.members, {}⟩ = settings.toJson.render := by
      rw [Value.render, ← settings.chars_members]
      simp only [Padded.document, List.nil_append, List.append_nil]
    rw [kept_members] at takes
    rw [← written]
    exact Decoder.decode_document takes

/-- A document that lists two of the choices, with something else in between. -/
theorem parse_listing_kirac :
    parse "\x7b\"kirac\":[\"b\"],\"note\":\x7b\"deep\":[null]\x7d, \"rarity\":\x7b\"other\":true,\"rare\":false\x7d\x7d " =
      .ok { bonusMods := ["b"], rarity := { rare := false } } := by
  let space : Space := ⟨[' '], by simp [isSpace]⟩
  let settings : Settings := { badMods := ["a"], bonusMods := ["b"], rarity := { magic := false, rare := false } }
  let note : Pair Spelling := .of "note" (ofMembers [("deep", .list [{ inner := .scalar .null }] {})])
  let rarity : Pair Spelling :=
    .of "rarity" (ofMembers [("other", ofFlag true), ("rare", ofFlag false)])
  let pairs : List (Pair Spelling) := [.of "kirac" (ofTexts ["b"]), note,
    { rarity with key := { rarity.key with before := space } }]
  have listed : settings.ListedBy pairs :=
    { badMods := .inl rfl
      goodMods := .inl rfl
      allGoodMods := .inl rfl
      quantity := .inl rfl
      packSize := .inl rfl
      rarity := .inr ⟨_, rfl, _, _, rfl, Pair.isSome_name?_of_mem_all,
        { normal := .inl rfl, magic := .inl rfl, rare := listed_all rfl rfl, allow := .inl rfl }⟩
      bonusMods := .inr ⟨_, rfl, isTexts_ofTexts _⟩ }
  exact (parse_listing settings).1 pairs (by decide) listed pairs (.refl _) {} {} space

end Settings

end Writing

end ItemQuery
