import ItemQuery.CategoryQuery
import ItemQuery.Feed
import ItemQuery.Selection
import ItemQuery.Supplement
import ItemQuery.Valuation

/-! Plans: all that follows from a catalog, a pool of priced entries and a selection. -/

set_option autoImplicit false

namespace ItemQuery

structure Plan where
  valuations : List Valuation
  selected : List Entry
  /-- Found whether or not it is applied. -/
  supplement : Supplement.Outcome
  applied : List Entry
  alsoMatching : List Entry
  query : String
  deriving DecidableEq, Repr

namespace Plan

def supplementary (plan : Plan) : List Entry := plan.supplement.entries

/-- `fill` decides whether the supplementary entries become part of the query. -/
def make (catalog : Catalog) (pool : List Entry) (selection : Selection) (fill : Bool) : Except CatalogError Plan := do
  let supplement ← Supplement.fill catalog.fragment selection.entries pool
  let applied := if fill then supplement.entries else []
  let query ← CategoryQuery.compile catalog.fragment selection.entries applied
  let alsoMatching ← CategoryQuery.alsoMatching catalog selection.entries applied pool
  return ⟨catalog.valuate pool, selection.entries, supplement, applied, alsoMatching, query⟩

def missingLog (valuations : List Valuation) : List LogLine :=
  match Valuation.missing valuations with
  | [] => []
  | members => [.warn ("Missing economy items on: " ++ ", ".intercalate (members.map (·.name)))]

def log (plan : Plan) : List LogLine :=
  missingLog plan.valuations ++ plan.supplement.log ++
    [.info (toString plan.selected.length ++ " selected, " ++ toString plan.applied.length ++ " added, " ++
      toString plan.alsoMatching.length ++ " also matching")]

end Plan

end ItemQuery
