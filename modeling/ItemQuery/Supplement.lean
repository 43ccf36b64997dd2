import ItemQuery.Entry
import ItemQuery.Failure
import ItemQuery.Log
import ItemQuery.Text.Join

/-! Filling a category query with valuable entries.

Candidates are the pool entries of other names than the mandatory ones, the most
valuable first. A candidate of a represented category rides along for nothing; another
one pays for its fragment and a separator, and is admitted while the budget lasts.
-/

set_option autoImplicit false

namespace ItemQuery.Supplement

/-- Most characters between the quotes of a filled query. -/
def budget : Nat := 50

/-- Characters that count as used before anything is selected. -/
def leastUsed : Nat := 2

/-- Entries must be worth more than two hundred. -/
def floor : Binary64 := ⟨0x4069000000000000⟩

def joinedLength (fragment : FragmentSource) (categories : List String) : Except CatalogError Nat := do
  let fragments ← categories.mapM fragment
  return categories.length - 1 + fragments.foldr (fun fragment length => fragment.length + length) 0

inductive Verdict where
  | belowFloor
  | ridesAlong
  | admitted
  | overBudget (used addition : Nat)
  deriving DecidableEq, Repr

def Verdict.isAccepted : Verdict → Bool
  | .ridesAlong | .admitted => true
  | _ => false

/-- Characters used so far, and the categories they are used for. -/
structure State where
  used : Nat
  represented : List String
  deriving DecidableEq, Repr

def judge (fragment : FragmentSource) (state : State) (entry : Entry) : Except CatalogError (Verdict × State) :=
  if !entry.value.exceeds floor then .ok (.belowFloor, state)
  else if state.represented.contains entry.category then .ok (.ridesAlong, state)
  else do
    let addition := 1 + (← fragment entry.category).length
    if state.used + addition ≤ budget then
      return (.admitted, ⟨state.used + addition, entry.category :: state.represented⟩)
    else return (.overBudget state.used addition, state)

def scan (fragment : FragmentSource) : State → List Entry → Except CatalogError (List (Entry × Verdict) × State)
  | state, [] => .ok ([], state)
  | state, entry :: rest => do
    let (verdict, state) ← judge fragment state entry
    let (verdicts, state) ← scan fragment state rest
    return ((entry, verdict) :: verdicts, state)

def start (fragment : FragmentSource) (mandatory : List Entry) : Except CatalogError State := do
  let represented := Entry.categories mandatory
  let used ← joinedLength fragment represented
  return ⟨max used leastUsed, represented⟩

def candidates (mandatory pool : List Entry) : List Entry :=
  Entry.sort (pool.filter fun entry => !mandatory.any (·.name == entry.name))

structure Outcome where
  verdicts : List (Entry × Verdict)
  used : Nat
  deriving DecidableEq, Repr

namespace Outcome

def entries (outcome : Outcome) : List Entry :=
  outcome.verdicts.filterMap fun (entry, verdict) => if verdict.isAccepted then some entry else none

def line? : Entry × Verdict → Option LogLine
  | (entry, .ridesAlong) => some (.trace (entry.name ++ " rides along with " ++ entry.category))
  | (entry, .overBudget used addition) =>
    some (.trace (entry.name ++ " skipped: " ++ toString used ++ " + " ++ toString addition ++ " exceeds budget"))
  | _ => none

def log (outcome : Outcome) : List LogLine :=
  outcome.verdicts.filterMap line? ++
    [.debug ("Selected " ++ toString outcome.entries.length ++ " supplementary entries (" ++ toString outcome.used ++
      "/" ++ toString budget ++ " chars)")]

end Outcome

def fill (fragment : FragmentSource) (mandatory pool : List Entry) : Except CatalogError Outcome := do
  let state ← start fragment mandatory
  let (verdicts, state) ← scan fragment state (candidates mandatory pool)
  return ⟨verdicts, state.used⟩

def select (fragment : FragmentSource) (mandatory pool : List Entry) : Except CatalogError (List Entry) :=
  (fill fragment mandatory pool).map (·.entries)

end ItemQuery.Supplement
