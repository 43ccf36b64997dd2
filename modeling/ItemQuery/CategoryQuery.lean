import ItemQuery.Catalog
import ItemQuery.Entry

/-! Category queries: one quoted alternation of the patterns of all categories that the given entries have. -/

set_option autoImplicit false

namespace ItemQuery.CategoryQuery

def content (fragments : List String) : List Char :=
  Text.withoutQuotes (Text.join '|' (fragments.map String.toList))

def compile (fragment : FragmentSource) (mandatory supplementary : List Entry) : Except CatalogError String :=
  match Entry.categories (mandatory ++ supplementary) with
  | [] => .ok ""
  | categories => (categories.mapM fragment).map fun fragments => .ofList ('"' :: (content fragments ++ ['"']))

def unseen (seen : List String) : List Member → List Member
  | [] => []
  | member :: rest =>
    if seen.contains member.name then unseen seen rest else member :: unseen (member.name :: seen) rest

/-- The pool entries that the query finds besides the given ones, the most valuable first. -/
def alsoMatching (catalog : Catalog) (mandatory supplementary pool : List Entry) : Except CatalogError (List Entry) := do
  let given := mandatory ++ supplementary
  let categories ← (Entry.categories given).mapM catalog.category
  let members := unseen (given.map (·.name)) (categories.flatMap (·.members))
  return Entry.sort (members.filterMap fun member => Entry.lastNamed? member.name pool)

end ItemQuery.CategoryQuery
