import ItemQuery.Binary64.Shortest
import ItemQuery.Json.Value
import ItemQuery.Text.Quoted

/-! Why a document is refused.

A document may end too early, break the grammar, or have a shape that differs from the
one asked for. A mismatch of shape says what was found and what was wanted.
-/

set_option autoImplicit false

namespace ItemQuery.Json

inductive Wanted where
  | text
  | flag
  | list
  | object
  | count
  | real
  | record (name : String)
  deriving DecidableEq, Repr

inductive Mismatch where
  | wrongType (found : Head) (wanted : Wanted)
  | outOfRange (value : Int) (wanted : Wanted)
  | tooFew (count : Nat) (record : String) (size : Nat)
  | tooMany (count : Nat)
  | missing (field : String)
  | duplicate (field : String)
  deriving DecidableEq, Repr

inductive Fault where
  | mismatch (cause : Mismatch)
  | malformed
  | truncated
  deriving DecidableEq, Repr

def Head.description : Head → String
  | .scalar .null => "null"
  | .scalar (.flag value) => "boolean \x60" ++ (if value then "true" else "false") ++ "\x60"
  | .scalar (.integer value) => "integer \x60" ++ toString value ++ "\x60"
  | .scalar (.real value) => "floating point \x60" ++ value.shortestText ++ "\x60"
  | .scalar (.text value) => "string " ++ Text.quoted value
  | .list => "sequence"
  | .object => "map"

def Wanted.description : Wanted → String
  | .text => "a string"
  | .flag => "a boolean"
  | .list => "a sequence"
  | .object => "a map"
  | .count => "u32"
  | .real => "f64"
  | .record name => "struct " ++ name

def Mismatch.message : Mismatch → String
  | .wrongType found wanted => "invalid type: " ++ found.description ++ ", expected " ++ wanted.description
  | .outOfRange value wanted =>
    "invalid value: " ++ Head.description (.scalar (.integer value)) ++ ", expected " ++ wanted.description
  | .tooFew count record size =>
    "invalid length " ++ toString count ++ ", expected " ++ (Wanted.record record).description ++ " with " ++
      toString size ++ (if size = 1 then " element" else " elements")
  | .tooMany count => "invalid length " ++ toString count ++ ", expected fewer elements in array"
  | .missing field => "missing field \x60" ++ field ++ "\x60"
  | .duplicate field => "duplicate field \x60" ++ field ++ "\x60"

def Fault.message : Fault → String
  | .mismatch cause => cause.message
  | .malformed => "malformed document"
  | .truncated => "document ends too early"

end ItemQuery.Json
