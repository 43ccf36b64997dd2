import ItemQuery.Failure
import ItemQuery.Log

/-! What the program asks of the machine it runs on.

A host reads files and fetches addresses in some monad. It decodes text before handing
it over, and says why a file has none. The program's loaders are written over any host.
-/

set_option autoImplicit false

namespace ItemQuery

structure Request where
  address : String
  userAgent : String
  deriving DecidableEq, Repr

structure Response where
  status : Nat
  body : String
  deriving DecidableEq, Repr

structure Host (m : Type → Type) where
  readText : (path : String) → m (Except FileError String)
  isPresent : (path : String) → m Bool
  /-- No response when the request cannot be sent. -/
  send : Request → m (Option Response)
  environment? : (name : String) → m (Option String)
  log : LogLine → m Unit

namespace Host

variable {m : Type → Type} [Monad m]

def logAll (host : Host m) : List LogLine → m Unit
  | [] => pure ()
  | line :: lines => do
    host.log line
    host.logAll lines

/-- A path seen from a directory; an absolute one stands for itself. -/
def join (directory name : String) : String :=
  if name.toList.head? == some '/' then name
  else if directory.isEmpty || directory.toList.getLast? == some '/' then directory ++ name else directory ++ "/" ++ name

end Host

end ItemQuery
