import ItemQuery.Clause
import ItemQuery.Command.Arguments
import ItemQuery.Load
import ItemQuery.Plan

/-! Running the commands on a host. Each prints one query, or reports why there is none. -/

set_option autoImplicit false

namespace ItemQuery.Command

variable {m : Type → Type} [Monad m]

def runMap (host : Host m) (choices : MapChoices) : ExceptT QueryError m String := do
  let settings ← match choices.settings? with
    | some path => Settings.load host path
    | none => Settings.loadSaved host
  let map ← (Modifiers.load host choices.mods).adapt QueryError.catalog
  let bonus ← match choices.bonusMods? with
    | some path => (Modifiers.load host path).adapt QueryError.catalog
    | none => pure {}
  match MapModifiers.query ⟨map, bonus⟩ settings with
  | .error cause => throw (.catalog cause)
  | .ok query =>
    host.log (.debug ("Compiled query (" ++ toString query.length ++ " chars): " ++ query))
    host.info ("Query length: " ++ toString query.length ++ " chars")
    return query

def loadPrices (host : Host m) (league : String) : PriceSource → ExceptT QueryError m Feed
  | .directory path => Feed.loadDirectory host path league
  | .server base => Feed.fetch host base league

def padLeft (width : Nat) (text : String) : String :=
  .ofList (List.replicate (width - text.length) ' ') ++ text

def padRight (width : Nat) (text : String) : String :=
  text ++ .ofList (List.replicate (width - text.length) ' ')

/-- One line on the worth of a category: value, name, best member. -/
def valuationLine (valuation : Valuation) : LogLine :=
  let worth := match valuation.pricing.value? with
    | some value => value.wholeText
    | none => "?"
  let best := match valuation.best? with
    | some entry => entry.name
    | none => "-"
  .info (padLeft 8 worth ++ "  " ++ padRight 24 valuation.category.canonicalName ++ " " ++ best)

def supplementLine (fill : Bool) (entry : Entry) : LogLine :=
  .info ((if fill then "added: " else "would add: ") ++ entry.name ++ " (" ++ entry.value.wholeText ++ ")")

def runExpedition (host : Host m) (choices : ExpeditionChoices) : ExceptT QueryError m String := do
  let catalog ← (Catalog.load host choices.catalog).adapt QueryError.catalog
  let feed ← loadPrices host choices.league choices.prices
  let pool := feed.obtainable catalog
  host.log (feed.obtainableLog pool)
  match Selection.ofNames pool choices.selected with
  | .error cause => throw cause
  | .ok selection =>
    match Plan.make catalog pool selection choices.fill with
    | .error cause => throw (.catalog cause)
    | .ok plan =>
      host.logAll plan.log
      host.logAll ((Valuation.search plan.valuations choices.search choices.limit).map valuationLine)
      host.logAll (plan.supplementary.map (supplementLine choices.fill))
      return plan.query

def run (host : Host m) : Command → ExceptT QueryError m String
  | .map choices => runMap host choices
  | .expedition choices => runExpedition host choices

/-- How a run ended: the exit code and what is printed. -/
structure Exit where
  code : Nat
  output : String
  deriving DecidableEq, Repr

def Refusal.exitCode : Refusal → Nat
  | .help => 0
  | .usage => 2

def execute (host : Host m) (arguments : List String) : m Exit := do
  match parse arguments with
  | .error refusal => return ⟨refusal.exitCode, ""⟩
  | .ok command =>
    match ← (run host command).run with
    | .ok query => return ⟨0, query ++ "\n"⟩
    | .error cause => do
      host.log (.error cause.message)
      return ⟨1, ""⟩

end ItemQuery.Command
