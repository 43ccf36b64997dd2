import ItemQuery.Catalog
import ItemQuery.Feed
import ItemQuery.Host
import ItemQuery.Modifiers
import ItemQuery.Settings

/-! Loading documents from a host.

Each loader says what it reads and how much it found. The feeds of a league are read kind
by kind: a directory may lack some of them, a server may not.
-/

set_option autoImplicit false

namespace ItemQuery

variable {m : Type → Type} [Monad m]

namespace Host

def info {ε : Type} (host : Host m) (text : String) : ExceptT ε m Unit := host.log (.info text)

def document {ε α : Type} (host : Host m) (ofFile : FileError → ε) (ofFault : Json.Fault → ε)
    (parse : String → Except Json.Fault α) (path : String) : ExceptT ε m α := do
  match ← host.readText path with
  | .error cause => throw (ofFile cause)
  | .ok text =>
    match parse text with
    | .error fault => throw (ofFault fault)
    | .ok result => return result

end Host

def Catalog.load (host : Host m) (path : String) : ExceptT CatalogError m Catalog := do
  host.info ("Loading category catalog from: " ++ path)
  let catalog ← host.document .file .document Catalog.parse path
  host.info ("Loaded " ++ toString catalog.size ++ " categories")
  return catalog

def Modifiers.load (host : Host m) (path : String) : ExceptT CatalogError m Modifiers := do
  host.info ("Loading modifier catalog from: " ++ path)
  let modifiers ← host.document .file .document Modifiers.parse path
  host.info ("Loaded " ++ toString modifiers.size ++ " modifiers")
  return modifiers

namespace Settings

def load (host : Host m) (path : String) : ExceptT QueryError m Settings := do
  host.info ("Loading settings from: " ++ path)
  host.document .file .document Settings.parse path

/-- Defaults stand in for a file that is not there. -/
def loadOrDefault (host : Host m) (path : String) : ExceptT QueryError m Settings := do
  if ← host.isPresent path then load host path
  else
    host.info ("No settings file at " ++ path ++ ", using defaults")
    return {}

/-- Directory of the user's configuration: an absolute one that the user names, or the customary
one below the home directory; the working directory for a user without a home. -/
def configDirectory (host : Host m) : m String := do
  match ← host.environment? "XDG_CONFIG_HOME" with
  | some named => if named.toList.head? = some '/' then return named else customary
  | none => customary
where
  customary : m String := do
    let home := (← host.environment? "HOME").getD ""
    return if home.isEmpty then "." else Host.join home ".config"

def defaultPath (host : Host m) : m String := do
  return Host.join (Host.join (← configDirectory host) "query_compiler") "map_settings.json"

def loadSaved (host : Host m) : ExceptT QueryError m Settings := do
  let path ← ExceptT.lift (defaultPath host)
  loadOrDefault host path

end Settings

namespace Feed

/-- A document's entries, with a word about the lines that are none. -/
def readLogged (host : Host m) (text : String) : ExceptT QueryError m Feed := do
  match read text with
  | .error fault => throw (.document fault)
  | .ok reading =>
    host.logAll reading.log
    return reading.feed

def load (host : Host m) (path : String) : ExceptT QueryError m Feed := do
  host.info ("Loading price feed from: " ++ path)
  match ← host.readText path with
  | .error cause => throw (.file cause)
  | .ok text =>
    let feed ← readLogged host text
    host.info ("Loaded " ++ toString feed.size ++ " price entries")
    return feed

/-- Append the feeds of the given kinds that a directory has. -/
def loadKinds (host : Host m) (directory league : String) (feed : Feed) : List String → ExceptT QueryError m Feed
  | [] => return feed
  | kind :: kinds => do
    let path := Host.join directory (fileName league kind)
    if ← host.isPresent path then
      let part ← load host path
      loadKinds host directory league (feed.append part) kinds
    else
      host.log (.warn ("No " ++ kind ++ " feed at " ++ path ++ ", skipping"))
      loadKinds host directory league feed kinds

def loadDirectory (host : Host m) (directory league : String) : ExceptT QueryError m Feed :=
  loadKinds host directory league {} kinds

def userAgent : String := "query_compiler/1.0"

def address (base league kind : String) : String :=
  .ofList ((base.toList.reverse.dropWhile (· == '/')).reverse) ++ "/" ++ fileName league kind

def fetchKind (host : Host m) (base league kind : String) : ExceptT QueryError m Feed := do
  let url := address base league kind
  host.info ("Fetching " ++ kind ++ " prices from " ++ url ++ "...")
  match ← host.send ⟨url, userAgent⟩ with
  | none => throw .network
  | some response =>
    if Web.isSuccess response.status then
      let feed ← readLogged host response.body
      host.info ("Fetched " ++ toString feed.size ++ " " ++ kind ++ " entries")
      return feed
    else throw (.status response.status)

/-- Append the feeds of all the given kinds from a server. -/
def fetchKinds (host : Host m) (base league : String) (feed : Feed) : List String → ExceptT QueryError m Feed
  | [] => return feed
  | kind :: kinds => do
    let part ← fetchKind host base league kind
    fetchKinds host base league (feed.append part) kinds

def fetch (host : Host m) (base league : String) : ExceptT QueryError m Feed := fetchKinds host base league {} kinds

end Feed

end ItemQuery
