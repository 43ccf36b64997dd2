import ItemQuery.Binary64.Basic

/-! JSON values.

A value is a scalar, a list or an object. Objects keep their members in order; a
repeated key stays where it came first and holds what came last.
-/

set_option autoImplicit false

namespace ItemQuery.Json

/-- Whole numbers stay exact, other numbers are rounded. -/
inductive Scalar where
  | null
  | flag (value : Bool)
  | integer (value : Int)
  | real (value : Binary64)
  | text (value : String)
  deriving DecidableEq, Repr, Inhabited

inductive Head where
  | scalar (value : Scalar)
  | list
  | object
  deriving DecidableEq, Repr, Inhabited

inductive Value where
  | scalar (value : Scalar)
  | list (items : List Value)
  | object (members : List (String × Value))
  deriving Repr

instance : Inhabited Value := ⟨.scalar .null⟩

namespace Value

def head : Value → Head
  | .scalar value => .scalar value
  | .list _ => .list
  | .object _ => .object

def text (value : String) : Value := .scalar (.text value)

def flag (value : Bool) : Value := .scalar (.flag value)

def integer (value : Int) : Value := .scalar (.integer value)

def null : Value := .scalar .null

end Value

end ItemQuery.Json
