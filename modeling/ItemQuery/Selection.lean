import ItemQuery.Entry
import ItemQuery.Failure

/-! The entries that the user picks, in order, each name once. -/

set_option autoImplicit false

namespace ItemQuery

structure Selection where
  entries : List Entry := []
  deriving DecidableEq, Repr, Inhabited

namespace Selection

def names (selection : Selection) : List String := selection.entries.map (·.name)

def contains (selection : Selection) (name : String) : Bool := selection.entries.any (·.name == name)

/-- Append an entry unless its name is selected already, and tell whether it was new. -/
def insert (selection : Selection) (entry : Entry) : Bool × Selection :=
  if selection.contains entry.name then (false, selection) else (true, ⟨selection.entries ++ [entry]⟩)

def remove (selection : Selection) (name : String) : Option Entry × Selection :=
  (Entry.named? name selection.entries, ⟨selection.entries.eraseP (·.name == name)⟩)

/-- Take the entry's name out, or append the entry, and tell whether it is selected now. -/
def toggle (selection : Selection) (entry : Entry) : Bool × Selection :=
  match selection.remove entry.name with
  | (some _, rest) => (false, rest)
  | (none, _) => (true, ⟨selection.entries ++ [entry]⟩)

def clear (_ : Selection) : Selection := {}

def size (selection : Selection) : Nat := selection.entries.length

def isEmpty (selection : Selection) : Bool := selection.entries.isEmpty

def ofEntries (entries : List Entry) : Selection := entries.foldl (fun selection entry => (selection.insert entry).2) {}

def ofNames (pool : List Entry) (names : List String) : Except QueryError Selection :=
  names.foldlM (fun selection name =>
    match Entry.named? name pool with
    | some entry => .ok (selection.insert entry).2
    | none => .error (.unknownEntry name)) {}

end Selection

end ItemQuery
