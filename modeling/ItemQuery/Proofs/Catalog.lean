import ItemQuery.Catalog
import ItemQuery.Proofs.Except
import ItemQuery.Proofs.FragmentSource
import ItemQuery.Proofs.Keyed

/-! Catalogs as they are put together, what they know, and the fragments in them. -/

set_option autoImplicit false

namespace ItemQuery

theorem Json.Decoder.checked_eq_ok_iff {α : Type} {viewed : Except Json.Mismatch α} {result : α} :
    checked viewed = .ok result ↔ viewed = .ok result := by
  cases viewed <;> simp [checked]

namespace Category

/-- A category whose fragment was cleared of double quotes when it was made. -/
def Made (category : Category) : Prop :=
  ∃ key canonicalName fragment members, category = .of key canonicalName fragment members

theorem Made.quote_not_mem {category : Category} (made : category.Made) : '"' ∉ category.fragment.toList := by
  obtain ⟨_, _, fragment, _, rfl⟩ := made
  rw [of, String.toList_ofList]
  exact Text.quote_not_mem_withoutQuotes fragment.toList

theorem made_of_record {found : Json.Value} {describe : String → Category}
    (viewed : recordDecoder.view found = .ok describe) (key : String) : (describe key).Made := by
  obtain ⟨⟨canonicalName, fragment, members, _⟩, _, rfl⟩ := Except.map_eq_ok_iff.mp viewed
  exact ⟨key, canonicalName, fragment, members, rfl⟩

theorem hasMember_iff {category : Category} {name : String} :
    category.hasMember name = true ↔ ∃ member ∈ category.members, member.name = name := by
  simp [hasMember]

end Category

namespace Catalog

section Lookup

variable {catalog : Catalog} {key name : String} {category : Category}

/-- A look-up by the index finds what a walk through the categories finds. -/
theorem get?_eq (catalog : Catalog) (key : String) :
    catalog.get? key = Keyed.get? Category.key key catalog.categories := by
  unfold get?
  split
  · next position found =>
    obtain ⟨category, there, same⟩ := catalog.indexes.exists_of_lookup found
    obtain ⟨inside, rfl⟩ := List.getElem?_eq_some_iff.mp there
    exact (Keyed.get?_of_mem catalog.indexes.nodup (List.getElem_mem inside) same).symm
  · next missing => exact (Keyed.get?_eq_none_iff.mpr (catalog.indexes.lookup_eq_none_iff.mp missing)).symm

theorem mem_of_get?_eq_some (found : catalog.get? key = some category) : category ∈ catalog.categories :=
  Keyed.mem_of_get?_eq_some (catalog.get?_eq key ▸ found)

theorem key_of_get?_eq_some (found : catalog.get? key = some category) : category.key = key :=
  Keyed.key_of_get?_eq_some (catalog.get?_eq key ▸ found)

theorem category_eq_ok_iff : catalog.category key = .ok category ↔ catalog.get? key = some category := by
  cases found : catalog.get? key <;> simp [Catalog.category, found]

theorem category_eq_error_iff {cause : CatalogError} :
    catalog.category key = .error cause ↔ catalog.get? key = none ∧ cause = .unknownCategory key := by
  cases found : catalog.get? key <;> simp [Catalog.category, found, eq_comm]

theorem mapM_category_eq_error_iff {keys : List String} {cause : CatalogError} :
    keys.mapM catalog.category = .error cause ↔
      ∃ key, keys.find? (catalog.get? · = none) = some key ∧ cause = .unknownCategory key := by
  rw [Except.mapM_eq_error_iff fun key => ?_]
  · refine exists_congr fun key => and_congr_right fun first => ?_
    have missing : catalog.get? key = none := by simpa using List.find?_some first
    rw [category_eq_error_iff, and_iff_right missing]
  · simp only [category_eq_ok_iff, decide_eq_false_iff_not, Option.ne_none_iff_exists']

theorem fragment_of_missing (missing : catalog.get? key = none) :
    catalog.fragment key = .error (.unknownCategory key) := by
  simp [fragment, Catalog.category, missing, Except.map]

theorem knows_fragment_iff : catalog.fragment.Knows key ↔ ∃ category, catalog.get? key = some category := by
  cases found : catalog.get? key with
  | none => simp [FragmentSource.Knows, fragment_of_missing found]
  | some category => simp [FragmentSource.Knows, fragment, Catalog.category, found, Except.map]

theorem not_knows_fragment_iff : ¬catalog.fragment.Knows key ↔ catalog.get? key = none := by
  rw [knows_fragment_iff, Option.eq_none_iff_forall_ne_some, not_exists]

theorem containsMember_iff : catalog.containsMember key name = true ↔
    ∃ category, catalog.get? key = some category ∧ ∃ member ∈ category.members, member.name = name := by
  cases found : catalog.get? key with
  | none => simp [containsMember, found]
  | some category => simp [containsMember, found, Category.hasMember]

theorem knows_of_containsMember (listed : catalog.containsMember key name = true) : catalog.fragment.Knows key := by
  obtain ⟨category, found, _⟩ := containsMember_iff.mp listed
  exact knows_fragment_iff.mpr ⟨category, found⟩

end Lookup

def SingleListing (catalog : Catalog) : Prop :=
  ∀ first ∈ catalog.categories, ∀ second ∈ catalog.categories, ∀ member ∈ first.members,
    second.hasMember member.name = true → first.key = second.key

instance (catalog : Catalog) : Decidable catalog.SingleListing :=
  inferInstanceAs (Decidable (∀ first ∈ catalog.categories, ∀ second ∈ catalog.categories, ∀ member ∈ first.members,
    second.hasMember member.name = true → first.key = second.key))

/-- Of all categories only the one of the key lists the name. -/
def ListsUnder (catalog : Catalog) (key name : String) : Prop :=
  ∀ category ∈ catalog.categories, category.hasMember name = true → category.key = key

theorem ListsUnder.key_eq {catalog : Catalog} {key other name : String} (sole : catalog.ListsUnder key name)
    (listed : catalog.containsMember other name = true) : other = key := by
  obtain ⟨category, found, member⟩ := containsMember_iff.mp listed
  rw [← key_of_get?_eq_some found]
  exact sole category (mem_of_get?_eq_some found) (Category.hasMember_iff.mpr member)

theorem SingleListing.listsUnder {catalog : Catalog} (single : catalog.SingleListing) {key name : String}
    (listed : catalog.containsMember key name = true) : catalog.ListsUnder key name := by
  obtain ⟨category, found, member, memberListed, rfl⟩ := containsMember_iff.mp listed
  intro other otherMember shared
  rw [← key_of_get?_eq_some found]
  exact (single category (mem_of_get?_eq_some found) other otherMember member memberListed shared).symm

theorem SingleListing.key_eq {catalog : Catalog} (single : catalog.SingleListing) {first second name : String}
    (listed : catalog.containsMember first name = true) (again : catalog.containsMember second name = true) :
    first = second :=
  (single.listsUnder again).key_eq listed

theorem categories_put (catalog : Catalog) (category : Category) :
    (catalog.put category).categories = Keyed.put Category.key category catalog.categories := by
  unfold put
  split
  · next position found =>
    obtain ⟨replaced, there, same⟩ := catalog.indexes.exists_of_lookup found
    exact (Keyed.put_eq_set catalog.indexes.nodup there same).symm
  · next missing => exact (Keyed.put_of_not_mem (catalog.indexes.lookup_eq_none_iff.mp missing)).symm

theorem ofCategories_concat (categories : List Category) (category : Category) :
    ofCategories (categories ++ [category]) = (ofCategories categories).put category := by
  rw [ofCategories, List.foldl_append]
  rfl

theorem categories_ofCategories (categories : List Category) :
    (ofCategories categories).categories = Keyed.ofList Category.key categories := by
  induction categories using List.reverseRecOn with
  | nil => rfl
  | append_singleton categories category ih => rw [ofCategories_concat, categories_put, ih, Keyed.ofList_concat]

/-- A catalog is made from categories, or read from a document. -/
inductive Built : Catalog → Prop where
  | ofCategories {categories : List Category} : (∀ category ∈ categories, category.Made) →
      Built (.ofCategories categories)
  | parsed {document : String} {catalog : Catalog} : parse document = .ok catalog → Built catalog

variable {catalog : Catalog} {document : String}

theorem made_of_parse (parsed : parse document = .ok catalog) :
    ∃ categories : List Category, (∀ category ∈ categories, category.Made) ∧ catalog = .ofCategories categories := by
  obtain ⟨table, _, rest⟩ := Except.bind_eq_ok_iff.mp parsed
  obtain ⟨categories, described, same⟩ := Except.bind_eq_ok_iff.mp rest
  refine ⟨categories, fun category member => ?_, (Except.ok.inj same).symm⟩
  obtain ⟨⟨key, found⟩, _, made⟩ := Except.exists_of_mapM_eq_ok described member
  obtain ⟨describe, viewed, same⟩ := Except.bind_eq_ok_iff.mp made
  cases same
  exact Category.made_of_record (Json.Decoder.checked_eq_ok_iff.mp viewed) key

theorem Built.made (built : catalog.Built) :
    ∃ categories : List Category, (∀ category ∈ categories, category.Made) ∧ catalog = .ofCategories categories := by
  cases built with
  | ofCategories made => exact ⟨_, made, rfl⟩
  | parsed parsed => exact made_of_parse parsed

theorem Built.quote_not_mem (built : catalog.Built) (key : String) : '"' ∉ (catalog.fragment.textOf key).toList := by
  obtain ⟨categories, made, rfl⟩ := built.made
  cases found : (Catalog.ofCategories categories).get? key with
  | none =>
    have missing : (Catalog.ofCategories categories).fragment.textOf key = "" := by
      simp [FragmentSource.textOf, Catalog.fragment, Catalog.category, found, Except.map]
    simp [missing]
  | some category =>
    have text : (Catalog.ofCategories categories).fragment.textOf key = category.fragment := by
      simp [FragmentSource.textOf, Catalog.fragment, Catalog.category, found, Except.map]
    rw [text]
    have listed := mem_of_get?_eq_some found
    rw [categories_ofCategories] at listed
    exact (made category (Keyed.mem_of_mem_ofList listed)).quote_not_mem

end Catalog

end ItemQuery
