import ItemQuery.Catalog
import ItemQuery.Entry
import ItemQuery.Text.Casing

/-! The worth of each category of a catalog at given prices.

A category whose members all have a price is worth as much as its best member. One that
lacks a price, or has no members, is not valued and comes after all that are.
-/

set_option autoImplicit false

namespace ItemQuery

inductive Pricing where
  | resolved (value : Binary64)
  | unresolved
  deriving DecidableEq, Repr

namespace Pricing

def value? : Pricing → Option Binary64
  | resolved value => some value
  | unresolved => none

def isResolved (pricing : Pricing) : Bool := pricing.value?.isSome

/-- The highest value first, what has none last. -/
def compareDesc : Pricing → Pricing → Ordering
  | resolved first, resolved second => second.totalCompare first
  | resolved _, unresolved => .lt
  | unresolved, resolved _ => .gt
  | unresolved, unresolved => .eq

end Pricing

inductive PricedMember where
  | priced (entry : Entry)
  | unpriced (member : Member)
  deriving DecidableEq, Repr

namespace PricedMember

def name : PricedMember → String
  | priced entry => entry.name
  | unpriced member => member.name

def pricing : PricedMember → Pricing
  | priced entry => .resolved entry.value
  | unpriced _ => .unresolved

def missing? : PricedMember → Option Member
  | priced _ => none
  | unpriced member => some member

/-- The last entry of the member's name prices it. -/
def ofMember (prices : List Entry) (member : Member) : PricedMember :=
  match Entry.lastNamed? member.name prices with
  | some entry => priced entry
  | none => unpriced member

end PricedMember

/-- The best entry of a category and the others by value, or its members in table order. -/
inductive Standing where
  | resolved (best : Entry) (others : List Entry)
  | unresolved (members : List PricedMember)
  deriving DecidableEq, Repr

structure Valuation where
  category : Category
  standing : Standing
  deriving DecidableEq, Repr

namespace Standing

def ofEntries (entries : List Entry) : Standing :=
  match Entry.sort entries with
  | best :: others => resolved best others
  | [] => unresolved []

def ofMembers (prices : List Entry) (members : List Member) : Standing :=
  match members.mapM (fun member => Entry.lastNamed? member.name prices) with
  | some entries => ofEntries entries
  | none => unresolved (members.map (PricedMember.ofMember prices))

end Standing

namespace Valuation

def ofCategory (prices : List Entry) (category : Category) : Valuation :=
  ⟨category, .ofMembers prices category.members⟩

def best? (valuation : Valuation) : Option Entry :=
  match valuation.standing with
  | .resolved best _ => some best
  | .unresolved _ => none

def pricing (valuation : Valuation) : Pricing :=
  match valuation.standing with
  | .resolved best _ => .resolved best.value
  | .unresolved _ => .unresolved

def remainder (valuation : Valuation) : List PricedMember :=
  match valuation.standing with
  | .resolved _ others => others.map .priced
  | .unresolved members => members

def compareDesc (first second : Valuation) : Ordering := first.pricing.compareDesc second.pricing

def names (valuation : Valuation) : List String :=
  valuation.category.canonicalName :: ((valuation.best?.toList.map (·.name)) ++ valuation.remainder.map (·.name))

/-- The needle is lower-cased already. -/
def mentions (needle : List Char) (valuation : Valuation) : Bool :=
  valuation.names.any fun name => Text.contains needle (Text.lower name.toList)

/-- Shorter needles are not searched for. -/
def shortestNeedle : Nat := 3

def search (valuations : List Valuation) (query : String) (limit : Nat) : List Valuation :=
  let needle := Text.lower query.toList
  (valuations.filter fun valuation => needle.length < shortestNeedle || valuation.mentions needle).take limit

def missing (valuations : List Valuation) : List Member :=
  valuations.flatMap fun valuation => valuation.remainder.filterMap PricedMember.missing?

end Valuation

/-- Every category with its worth, the most valuable first. -/
def Catalog.valuate (catalog : Catalog) (prices : List Entry) : List Valuation :=
  Sorting.sort Valuation.compareDesc (catalog.categories.map (Valuation.ofCategory prices))

end ItemQuery
