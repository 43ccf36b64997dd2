import ItemQuery.Catalog
import ItemQuery.Entry
import ItemQuery.Log

/-! Price feeds.

The prices of a league come as one document for each kind of item. A line that is no
entry is dropped, the others are kept in order.
-/

set_option autoImplicit false

namespace ItemQuery

open Json

structure Feed where
  entries : List Entry := []
  deriving DecidableEq, Repr, Inhabited

namespace Feed

/-- The kinds of items that have a feed of their own, in reading order. -/
def kinds : List String := ["Accessory", "Armour", "Jewel", "Weapon"]

def defaultLeague : String := "Sanctum"

def fileName (league kind : String) : String := "eco_" ++ league ++ "_Unique" ++ kind ++ ".json"

def append (feed more : Feed) : Feed := ⟨feed.entries ++ more.entries⟩

def size (feed : Feed) : Nat := feed.entries.length

def isEmpty (feed : Feed) : Bool := feed.entries.isEmpty

def documentFields : Fields [List Value] := (.optional "lines" (.list .any) [], ())

def documentDecoder : Decoder (List Value) := (Decoder.record "FeedFile" documentFields).map fun (lines, ()) => lines

/-- A document line by line: entries, and why the other lines are none. -/
structure Reading where
  lines : List (Except Mismatch Entry)

namespace Reading

def feed (reading : Reading) : Feed := ⟨reading.lines.filterMap fun line => line.toOption⟩

def dropped (reading : Reading) : List Mismatch :=
  reading.lines.filterMap fun
    | .ok _ => none
    | .error cause => some cause

def log (reading : Reading) : List LogLine :=
  (reading.dropped.map fun cause => .debug ("Skipping malformed feed line: " ++ cause.message)) ++
    if reading.dropped.isEmpty then []
    else [.warn ("Dropped " ++ toString reading.dropped.length ++ " malformed feed lines")]

end Reading

def read (document : String) : Except Fault Reading :=
  (documentDecoder.decode document).map fun lines => ⟨lines.map Entry.decoder.view⟩

def parse (document : String) : Except Fault Feed := (read document).map (·.feed)

/-- An entry counts when it is unlinked and its category lists it. -/
def isObtainable (catalog : Catalog) (entry : Entry) : Bool :=
  !entry.isLinked && catalog.containsMember entry.category entry.name

def obtainable (feed : Feed) (catalog : Catalog) : List Entry :=
  Entry.sort (feed.entries.filter (isObtainable catalog))

def obtainableLog (feed : Feed) (pool : List Entry) : LogLine :=
  .info (toString pool.length ++ " of " ++ toString feed.size ++ " feed entries are obtainable")

end Feed

end ItemQuery
