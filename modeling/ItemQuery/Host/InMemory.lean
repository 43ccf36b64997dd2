import ItemQuery.Host
import ItemQuery.Text.Utf8
import ItemQuery.Web.Url

/-! A host whose files and responses are given beforehand, and which records what it is asked.

Files lie in directories named by the parts of their paths; a path and each of its parts
have limits in bytes. One server answers requests,
by the first response for the path; it has nothing at any other path.
-/

set_option autoImplicit false

namespace ItemQuery.InMemory

inductive Node where
  | directory
  | file (bytes : List UInt8)
  deriving DecidableEq, Repr

structure Canned where
  path : String
  status : Nat
  body : List UInt8
  deriving DecidableEq, Repr

structure World where
  /-- Files and directories by the parts of their absolute paths; what lies above them is a directory. -/
  nodes : List (List String × Node) := []
  workingDirectory : List String := []
  server : String := ""
  responses : List Canned := []
  environment : List (String × String) := []

structure Received where
  path : String
  userAgent : String
  deriving DecidableEq, Repr

structure Record where
  log : List LogLine := []
  requests : List Received := []
  deriving DecidableEq, Repr

namespace World

def node? (world : World) (place : List String) : Option Node :=
  match world.nodes.lookup place with
  | some node => some node
  | none => if place.isEmpty || world.nodes.any (fun (known, _) => place.isPrefixOf known) then some .directory else none

def partLimit : Nat := 255

def pathLimit : Nat := 4095

/-- Follow the parts of a path from a place; only directories lead on. -/
def walk (world : World) : List String → List String → Except FileError (List String)
  | place, [] => .ok place
  | place, part :: rest =>
    match world.node? place with
    | some .directory =>
      if part = "" ∨ part = "." then world.walk place rest
      else if part = ".." then world.walk place.dropLast rest
      else if partLimit < part.utf8ByteSize then .error .nameTooLong
      else if (world.node? (place ++ [part])).isSome then world.walk (place ++ [part]) rest
      else .error .notFound
    | some (.file _) => .error .notDirectory
    | none => .error .notFound

def parts : List Char → List (List Char)
  | [] => [[]]
  | c :: rest =>
    match parts rest with
    | first :: others => if c = '/' then [] :: first :: others else (c :: first) :: others
    | [] => [[c]]

def locate (world : World) (path : String) : Except FileError (List String) :=
  if path.toList.contains '\x00' then .error .nulInPath
  else if pathLimit < path.utf8ByteSize then .error .nameTooLong
  else
    match path.toList with
    | [] => .error .notFound
    | '/' :: rest => world.walk [] ((parts rest).map String.ofList)
    | text => world.walk world.workingDirectory ((parts text).map String.ofList)

def readText (world : World) (path : String) : Except FileError String := do
  let place ← world.locate path
  match world.node? place with
  | some (.file bytes) =>
    match Text.Utf8.decode? bytes with
    | some text => .ok text
    | none => .error .notText
  | some .directory => .error .isDirectory
  | none => .error .notFound

def isPresent (world : World) (path : String) : Bool := (world.locate path).toOption.isSome

/-- The path asked for, when the address is one of the server. -/
def path? (world : World) (address : String) : Option String := do
  let server ← Web.Url.parse? world.server
  let url ← Web.Url.parse? address
  if url.sameServer server then some (.ofList url.path) else none

def answer (world : World) (path : String) : Response :=
  match world.responses.find? (·.path == path) with
  | some canned => ⟨canned.status, .ofList (Text.Utf8.withoutMark (Text.Utf8.decodeLossy canned.body))⟩
  | none => ⟨404, ""⟩

def host (world : World) : Host (StateM Record) where
  readText path := pure (world.readText path)
  isPresent path := pure (world.isPresent path)
  send request :=
    match world.path? request.address with
    | none => pure none
    | some path => do
      modify fun record => { record with requests := record.requests ++ [⟨path, request.userAgent⟩] }
      return some (world.answer path)
  environment? name := pure (world.environment.lookup name)
  log line := modify fun record => { record with log := record.log ++ [line] }

end World

end ItemQuery.InMemory
