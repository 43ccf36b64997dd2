import ItemQuery.Plan

/-! Planning sessions: a catalog, the prices read so far, a selection, and whether queries are filled.

Steps name entries of the pool that the session's prices give. A step that fails leaves
the session as it was.
-/

set_option autoImplicit false

namespace ItemQuery

structure Session where
  catalog : Catalog
  feed : Feed
  selection : Selection := {}
  fill : Bool := true
  deriving DecidableEq, Repr

namespace Session

inductive Step where
  | toggle (name : String)
  | insert (name : String)
  | remove (name : String)
  | select (names : List String)
  | accept
  | clear
  | fill (on : Bool)
  | prices (document : String)
  deriving DecidableEq, Repr

/-- What a step tells: whether something holds, how many there are, or nothing. -/
inductive Reply where
  | flag (value : Bool)
  | count (value : Nat)
  | done
  deriving DecidableEq, Repr

def pool (session : Session) : List Entry := session.feed.obtainable session.catalog

def plan (session : Session) : Except QueryError Plan :=
  match Plan.make session.catalog session.pool session.selection session.fill with
  | .ok plan => .ok plan
  | .error cause => .error (.catalog cause)

def pick (session : Session) (name : String) : Except QueryError Entry :=
  match Entry.named? name session.pool with
  | some entry => .ok entry
  | none => .error (.unknownEntry name)

/-- Insert entries one after another, and count the new ones. -/
def insertAll (selection : Selection) : List Entry → Nat × Selection
  | [] => (0, selection)
  | entry :: rest =>
    let (new, selection) := selection.insert entry
    let (count, selection) := insertAll selection rest
    (count + new.toNat, selection)

def perform (session : Session) : Step → Except QueryError (Reply × Session)
  | .toggle name => do
    let (selected, selection) := session.selection.toggle (← session.pick name)
    return (.flag selected, { session with selection })
  | .insert name => do
    let (new, selection) := session.selection.insert (← session.pick name)
    return (.flag new, { session with selection })
  | .remove name =>
    let (removed, selection) := session.selection.remove name
    .ok (.flag removed.isSome, { session with selection })
  | .select names => do
    let selection ← Selection.ofNames session.pool names
    return (.count selection.size, { session with selection })
  | .accept => do
    let (count, selection) := insertAll session.selection (← session.plan).supplementary
    return (.count count, { session with selection })
  | .clear => .ok (.done, { session with selection := session.selection.clear })
  | .fill on => .ok (.done, { session with fill := on })
  | .prices document =>
    match Feed.parse document with
    | .ok more =>
      let feed := session.feed.append more
      .ok (.count feed.size, { session with feed })
    | .error fault => .error (.document fault)

end Session

end ItemQuery
