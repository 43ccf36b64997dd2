import ItemQuery.Modifiers
import ItemQuery.Settings
import ItemQuery.Text.Blank

/-! Map queries.

A query is a row of clauses: modifiers to avoid, modifiers to look for, least quantity
and pack size, rarities, bonus modifiers. Each part of the settings gives a group of
clauses, an empty one when it asks for nothing.
-/

set_option autoImplicit false

namespace ItemQuery

/-- A quoted clause is searched for as it stands, a bare one is a single word. -/
inductive Clause where
  | quoted (content : List Char)
  | bare (content : List Char)
  deriving DecidableEq, Repr

namespace Clause

def content : Clause → List Char
  | quoted content => content
  | bare content => content

def text : Clause → List Char
  | quoted content => '"' :: (content ++ ['"'])
  | bare content => content

def groupText (group : List Clause) : List Char := Text.join ' ' (group.map text)

def alternatives (fragments : List String) : List Char := Text.join '|' (fragments.map String.toList)

def exclusion (fragments : List String) : List Clause :=
  if fragments.isEmpty then [] else [quoted ('!' :: alternatives fragments)]

/-- A fragment as a clause of its own, quoted only when it holds a blank. -/
def ofFragment (fragment : String) : Clause :=
  if fragment.toList.any Text.isBlank then quoted fragment.toList else bare fragment.toList

def inclusion (all : Bool) (fragments : List String) : List Clause :=
  if fragments.isEmpty then []
  else if all then fragments.map ofFragment
  else [quoted (alternatives fragments)]

def bonus (fragments : List String) : List Clause :=
  if fragments.isEmpty then [] else [quoted ('(' :: (alternatives fragments ++ [')', '.', '*', 'i', 'c', 'i']))]

/-- What stands before the number of the quantity on an item. -/
def quantityLead : List Char := ['m', ' ', 'q', '.', '*']

def packSizeLead : List Char := ['i', 'z', '.', '*']

def atLeast (lead : List Char) (minimum : Minimum) : List Clause :=
  if minimum.pattern.isEmpty then [] else [quoted (lead ++ minimum.pattern ++ ['%'])]

def rarityCodes (filter : RarityFilter) : List (List Char) :=
  (if filter.normal then [['n']] else []) ++ (if filter.magic then [['m']] else []) ++
    (if filter.rare then [['r']] else [])

/-- Nothing is asked for when all rarities are allowed, nor when none is listed. -/
def rarity (filter : RarityFilter) : List Clause :=
  let sign := if filter.allow then ['y', ':', ' '] else ['!', 'y', ':', ' ']
  if filter.normal && filter.magic && filter.rare && filter.allow then []
  else
    match rarityCodes filter with
    | [] => []
    | [code] => [quoted (sign ++ code)]
    | codes => [quoted (sign ++ '(' :: (Text.join '|' codes ++ [')']))]

end Clause

structure MapModifiers where
  map : Modifiers := {}
  bonus : Modifiers := {}
  deriving DecidableEq, Repr, Inhabited

namespace MapModifiers

def fragments (source : FragmentSource) (keys : List String) : Except CatalogError (List String) := keys.mapM source

def exclusion (modifiers : MapModifiers) (keys : List String) : Except CatalogError (List Clause) :=
  (fragments modifiers.map.fragment keys).map Clause.exclusion

def inclusion (modifiers : MapModifiers) (keys : List String) (all : Bool) : Except CatalogError (List Clause) :=
  (fragments modifiers.map.fragment keys).map (Clause.inclusion all)

def bonusClause (modifiers : MapModifiers) (keys : List String) : Except CatalogError (List Clause) :=
  (fragments modifiers.bonus.fragment keys).map Clause.bonus

def groups (modifiers : MapModifiers) (settings : Settings) : Except CatalogError (List (List Clause)) := do
  let avoided ← modifiers.exclusion settings.badMods
  let wanted ← modifiers.inclusion settings.goodMods settings.allGoodMods
  let bonus ← modifiers.bonusClause settings.bonusMods
  return [avoided, wanted, Clause.atLeast Clause.quantityLead settings.quantity,
    Clause.atLeast Clause.packSizeLead settings.packSize, Clause.rarity settings.rarity, bonus]

def assemble (groups : List (List Clause)) : List Char :=
  Pattern.shorten (Text.collapse (Text.join ' ' (groups.map Clause.groupText)))

def query (modifiers : MapModifiers) (settings : Settings) : Except CatalogError String :=
  (modifiers.groups settings).map fun groups => .ofList (assemble groups)

end MapModifiers

end ItemQuery
