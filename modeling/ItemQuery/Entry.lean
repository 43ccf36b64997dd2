import ItemQuery.Json.Record
import ItemQuery.Sorting

/-! Priced entries, one for each line of a price feed. -/

set_option autoImplicit false

namespace ItemQuery

open Json

/-- Linked variants of an item are listed on their own, with the number of links. -/
structure Entry where
  name : String
  category : String
  value : Binary64
  icon : String := ""
  linkCount? : Option UInt32 := none
  deriving DecidableEq, Repr, Inhabited

namespace Entry

def isLinked (entry : Entry) : Bool := entry.linkCount?.isSome

/-- The most valuable first. -/
def byValue (first second : Entry) : Ordering := second.value.totalCompare first.value

def sort (entries : List Entry) : List Entry := Sorting.sort byValue entries

def fields : Fields [String, String, Binary64, String, Option UInt32] :=
  (.required "name" .text, (Field.required "category" .text).orNamed "baseType",
    (Field.required "value" .real).orNamed "chaosValue", .optional "icon" .text "",
    (Field.optional "linkCount" .count? none).orNamed "links", ())

def decoder : Decoder Entry :=
  (Decoder.record "PricedEntry" fields).map fun (name, category, value, icon, linkCount?, ()) =>
    ⟨name, category, value, icon, linkCount?⟩

def parse (document : String) : Except Fault Entry := decoder.decode document

def named? (name : String) (entries : List Entry) : Option Entry := entries.find? (·.name == name)

def lastNamed? (name : String) (entries : List Entry) : Option Entry := named? name entries.reverse

def categories : List Entry → List String
  | [] => []
  | entry :: rest => entry.category :: (categories rest).filter (· ≠ entry.category)

end Entry

end ItemQuery
