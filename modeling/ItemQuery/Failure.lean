import ItemQuery.Json.Fault
import ItemQuery.Web.Status

/-! What can go wrong between the input files and a query, and how it is reported. -/

set_option autoImplicit false

namespace ItemQuery

inductive FileError where
  | notFound
  | notDirectory
  | isDirectory
  | nameTooLong
  /-- The path holds the character that ends paths. -/
  | nulInPath
  | notText
  | other (description : String)
  deriving DecidableEq, Repr

def FileError.message : FileError → String
  | .notFound => "No such file or directory (os error 2)"
  | .notDirectory => "Not a directory (os error 20)"
  | .isDirectory => "Is a directory (os error 21)"
  | .nameTooLong => "File name too long (os error 36)"
  | .nulInPath => "file name contained an unexpected NUL byte"
  | .notText => "stream did not contain valid UTF-8"
  | .other description => description

inductive CatalogError where
  | unknownCategory (key : String)
  | unknownModifier (key : String)
  | file (cause : FileError)
  | document (fault : Json.Fault)
  deriving DecidableEq, Repr

def CatalogError.message : CatalogError → String
  | .unknownCategory key => "Unknown category: " ++ key
  | .unknownModifier key => "Unknown modifier: " ++ key
  | .file cause => "I/O error: " ++ cause.message
  | .document fault => "Parse error: " ++ fault.message

inductive QueryError where
  | catalog (cause : CatalogError)
  | network
  | status (code : Nat)
  | document (fault : Json.Fault)
  | file (cause : FileError)
  | unknownEntry (name : String)
  deriving DecidableEq, Repr

def QueryError.message : QueryError → String
  | .catalog cause => "Catalog error: " ++ cause.message
  | .network => "Network error: the request could not be sent"
  | .status code => "HTTP error: " ++ Web.statusLine code
  | .document fault => "Parse error: " ++ fault.message
  | .file cause => "I/O error: " ++ cause.message
  | .unknownEntry name => "Unknown entry: " ++ name

/-- Where the pattern for a key comes from. -/
abbrev FragmentSource := String → Except CatalogError String

end ItemQuery
