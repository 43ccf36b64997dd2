import ItemQuery.Failure
import ItemQuery.Json.Record
import ItemQuery.Text.Join

/-! Modifiers by key, each with the pattern that finds it. The last pattern given for a key counts. -/

set_option autoImplicit false

namespace ItemQuery

open Json

structure Modifier where
  key : String
  fragment : String
  deriving DecidableEq, Repr

/-- A double quote would end the clause that a fragment is put into. -/
def Modifier.of (key fragment : String) : Modifier := ⟨key, .ofList (Text.withoutQuotes fragment.toList)⟩

structure Modifiers where
  table : List Modifier := []
  deriving DecidableEq, Repr, Inhabited

namespace Modifiers

def ofPairs (pairs : List (String × String)) : Modifiers :=
  ⟨Keyed.ofList Modifier.key (pairs.map fun (key, fragment) => .of key fragment)⟩

def recordFields : Fields [String] := ((Field.required "safeFragment" .text).orNamed "matchSafe", ())

def recordDecoder : Decoder String := (Decoder.record "ModifierRecord" recordFields).map fun (fragment, ()) => fragment

def parse (document : String) : Except Fault Modifiers := ((Decoder.table recordDecoder).decode document).map ofPairs

def get? (modifiers : Modifiers) (key : String) : Option Modifier := Keyed.get? Modifier.key key modifiers.table

def size (modifiers : Modifiers) : Nat := modifiers.table.length

def isEmpty (modifiers : Modifiers) : Bool := modifiers.table.isEmpty

def fragment (modifiers : Modifiers) : FragmentSource := fun key =>
  match modifiers.get? key with
  | some modifier => .ok modifier.fragment
  | none => .error (.unknownModifier key)

end Modifiers

end ItemQuery
