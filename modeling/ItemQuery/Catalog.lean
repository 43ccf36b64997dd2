import ItemQuery.Failure
import ItemQuery.Json.Record
import ItemQuery.Keyed.Index
import ItemQuery.Text.Join

/-! The catalog of categories: groups of members that share one pattern.

Categories keep the order of the table they come from. A repeated key keeps its first
place and takes the last category.
-/

set_option autoImplicit false

namespace ItemQuery

open Json

structure Member where
  name : String
  category : String
  icon : String := ""
  deriving DecidableEq, Repr, Inhabited

def Member.fields : Fields [String, String, String] :=
  (.required "name" .text, (Field.required "category" .text).orNamed "baseType", .optional "icon" .text "", ())

def Member.decoder : Decoder Member :=
  (Decoder.record "CatalogMember" fields).map fun (name, category, icon, ()) => ⟨name, category, icon⟩

def Member.parse (document : String) : Except Fault Member := decoder.decode document

structure Category where
  key : String
  canonicalName : String
  fragment : String
  members : List Member
  deriving DecidableEq, Repr, Inhabited

namespace Category

/-- A category whose fragment can stand between double quotes. -/
def of (key canonicalName fragment : String) (members : List Member) : Category :=
  ⟨key, canonicalName, .ofList (Text.withoutQuotes fragment.toList), members⟩

def hasMember (category : Category) (name : String) : Bool := category.members.any (·.name == name)

def recordFields : Fields [String, String, List Member] :=
  (.required "canonicalName" .text, (Field.required "fragmentPattern" .text).orNamed "regex",
    (Field.optional "members" (.list Member.decoder) []).orNamed "items", ())

def recordDecoder : Decoder (String → Category) :=
  (Decoder.record "CategoryRecord" recordFields).map fun (canonicalName, fragment, members, ()) key =>
    .of key canonicalName fragment members

end Category

/-- Categories in table order, and the position of each key. -/
structure Catalog where
  categories : List Category := []
  index : List (String × Nat) := []
  indexes : Keyed.Indexes Category.key categories index := by exact .nil
  deriving DecidableEq, Repr

namespace Catalog

instance : Inhabited Catalog := ⟨{}⟩

/-- Put a category at the position of its key, or behind all others if the key is new. -/
def put (catalog : Catalog) (category : Category) : Catalog :=
  match found : catalog.index.lookup category.key with
  | some position => ⟨catalog.categories.set position category, catalog.index, catalog.indexes.set found⟩
  | none =>
    ⟨catalog.categories ++ [category], catalog.index ++ [(category.key, catalog.categories.length)],
      catalog.indexes.append found⟩

def ofCategories (categories : List Category) : Catalog := categories.foldl put {}

/-- A document is read as a whole before its categories are looked at. -/
def parse (document : String) : Except Fault Catalog := do
  let table ← (Decoder.table .any).decode document
  let categories ← table.mapM fun (key, found) => do
    let described ← Decoder.checked (Category.recordDecoder.view found)
    return described key
  return ofCategories categories

def get? (catalog : Catalog) (key : String) : Option Category :=
  match found : catalog.index.lookup key with
  | some position => some (catalog.categories.get ⟨position, catalog.indexes.lt found⟩)
  | none => none

def category (catalog : Catalog) (key : String) : Except CatalogError Category :=
  match catalog.get? key with
  | some category => .ok category
  | none => .error (.unknownCategory key)

def fragment (catalog : Catalog) : FragmentSource := fun key => (catalog.category key).map (·.fragment)

def containsMember (catalog : Catalog) (key name : String) : Bool :=
  match catalog.get? key with
  | some category => category.hasMember name
  | none => false

def size (catalog : Catalog) : Nat := catalog.categories.length

def isEmpty (catalog : Catalog) : Bool := catalog.categories.isEmpty

end Catalog

end ItemQuery
