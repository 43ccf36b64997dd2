import ItemQuery.Feed

/-! Command lines.

Arguments are read from left to right, and the first thing that is wrong, or a request
for help, decides. A value follows its switch as the next argument, unless that looks
like a switch itself, or is attached to it.
-/

set_option autoImplicit false

namespace ItemQuery.Command

inductive Refusal where
  | help
  | usage
  deriving DecidableEq, Repr

inductive Operand where
  | nothing
  | path
  | text
  | number
  deriving DecidableEq, Repr

structure Switch where
  long : List Char
  short? : Option Char := none
  operand : Operand
  repeatable : Bool := false
  deriving DecidableEq, Repr

/-- A switch by its long name, and the value given for it. -/
abbrev Given := List Char × String

/-- A natural of 64 bits, with or without a plus sign. -/
def number? (text : String) : Option Nat :=
  let digits := match text.toList with
    | '+' :: digits => digits
    | digits => digits
  if digits.isEmpty || !digits.all Char.isDigit then none
  else
    let n := digits.foldl (fun n c => 10 * n + (c.toNat - '0'.toNat)) 0
    if n < 0x10000000000000000 then some n else none

def Operand.admits (value : String) : Operand → Bool
  | nothing => true
  | path => !value.isEmpty
  | text => true
  | number => (number? value).isSome

/-- Note a switch, unless it was given before or its value is not admitted. -/
def note (switch : Switch) (value : String) (given : List Given) : Except Refusal (List Given) :=
  if !switch.repeatable && given.any (·.1 == switch.long) || !switch.operand.admits value then .error .usage
  else .ok (given ++ [(switch.long, value)])

/-- An argument that begins like a switch is no value. -/
def isValue (argument : String) : Bool :=
  match argument.toList with
  | '-' :: _ :: _ => false
  | _ => true

/-- A run of short switches, the last of which may take a value: what it still needs, if anything. -/
def readShort (switches : List Switch) (given : List Given) : List Char → Except Refusal (List Given × Option Switch)
  | [] => .ok (given, none)
  | c :: rest =>
    if c = 'h' then .error .help
    else
      match switches.find? (·.short? == some c) with
      | none => .error .usage
      | some switch =>
        if switch.operand = .nothing then do readShort switches (← note switch "" given) rest
        else
          match rest with
          | [] => .ok (given, some switch)
          | '=' :: value => (note switch (.ofList value) given).map (·, none)
          | value => (note switch (.ofList value) given).map (·, none)

/-- The same for a long switch, without its dashes. -/
def readLong (switches : List Switch) (given : List Given) (argument : List Char) :
    Except Refusal (List Given × Option Switch) :=
  let name := argument.takeWhile (· != '=')
  let value? := match argument.dropWhile (· != '=') with
    | _ :: value => some (String.ofList value)
    | [] => none
  if name = ['h', 'e', 'l', 'p'] then .error (if value?.isSome then .usage else .help)
  else
    match switches.find? (·.long == name) with
    | none => .error .usage
    | some switch =>
      match switch.operand, value? with
      | .nothing, some _ => .error .usage
      | .nothing, none => (note switch "" given).map (·, none)
      | _, some value => (note switch value given).map (·, none)
      | _, none => .ok (given, some switch)

/-- Read the arguments; `due` is a switch whose value comes next. -/
def readGiven (switches : List Switch) (given : List Given) (due : Option Switch) :
    List String → Except Refusal (List Given)
  | [] => if due.isSome then .error .usage else .ok given
  | argument :: rest =>
    match due with
    | some switch =>
      if isValue argument then do readGiven switches (← note switch argument given) none rest else .error .usage
    | none =>
      match argument.toList with
      | ['-', '-'] => if rest.isEmpty then .ok given else .error .usage
      | '-' :: '-' :: long => do
        let (given, due) ← readLong switches given long
        readGiven switches given due rest
      | '-' :: c :: short => do
        let (given, due) ← readShort switches given (c :: short)
        readGiven switches given due rest
      | _ => .error .usage

structure MapChoices where
  settings? : Option String
  mods : String
  bonusMods? : Option String
  deriving DecidableEq, Repr

inductive PriceSource where
  | directory (path : String)
  | server (base : String)
  deriving DecidableEq, Repr

structure ExpeditionChoices where
  catalog : String
  prices : PriceSource
  league : String
  selected : List String
  fill : Bool
  search : String
  limit : Nat
  deriving DecidableEq, Repr

def settingsSwitch : Switch := ⟨"settings".toList, some 's', .path, false⟩
def modsSwitch : Switch := ⟨"mods".toList, some 'm', .path, false⟩
def bonusModsSwitch : Switch := ⟨"bonus-mods".toList, some 'b', .path, false⟩
def catalogSwitch : Switch := ⟨"catalog".toList, some 'c', .path, false⟩
def feedDirSwitch : Switch := ⟨"feed-dir".toList, none, .path, false⟩
def feedUrlSwitch : Switch := ⟨"feed-url".toList, none, .text, false⟩
def leagueSwitch : Switch := ⟨"league".toList, some 'l', .text, false⟩
def selectSwitch : Switch := ⟨"select".toList, some 'S', .text, true⟩
def noFillerSwitch : Switch := ⟨"no-filler".toList, none, .nothing, false⟩
def searchSwitch : Switch := ⟨"search".toList, none, .text, false⟩
def showSwitch : Switch := ⟨"show".toList, none, .number, false⟩

def mapSwitches : List Switch := [settingsSwitch, modsSwitch, bonusModsSwitch]

def expeditionSwitches : List Switch :=
  [catalogSwitch, feedDirSwitch, feedUrlSwitch, leagueSwitch, selectSwitch, noFillerSwitch, searchSwitch, showSwitch]

def valueOf (given : List Given) (switch : Switch) : Option String := given.lookup switch.long

def valuesOf (given : List Given) (switch : Switch) : List String :=
  given.filterMap fun (long, value) => if long = switch.long then some value else none

def defaultLimit : Nat := 10

def MapChoices.ofGiven (given : List Given) : Except Refusal MapChoices :=
  match valueOf given modsSwitch with
  | none => .error .usage
  | some mods => .ok ⟨valueOf given settingsSwitch, mods, valueOf given bonusModsSwitch⟩

/-- Prices come from exactly one place. -/
def PriceSource.ofGiven (given : List Given) : Except Refusal PriceSource :=
  match valueOf given feedDirSwitch, valueOf given feedUrlSwitch with
  | some path, none => .ok (.directory path)
  | none, some base => .ok (.server base)
  | _, _ => .error .usage

def ExpeditionChoices.ofGiven (given : List Given) : Except Refusal ExpeditionChoices := do
  let some catalog := valueOf given catalogSwitch | .error .usage
  let prices ← PriceSource.ofGiven given
  let limit := ((valueOf given showSwitch).bind number?).getD defaultLimit
  return ⟨catalog, prices, (valueOf given leagueSwitch).getD Feed.defaultLeague, valuesOf given selectSwitch,
    (valueOf given noFillerSwitch).isNone, (valueOf given searchSwitch).getD "", limit⟩

end Command

inductive Command where
  | map (choices : Command.MapChoices)
  | expedition (choices : Command.ExpeditionChoices)
  deriving DecidableEq, Repr

namespace Command

def helpOn : List String → Refusal
  | [] => .help
  | [name] => if ["map", "expedition", "help"].contains name then .help else .usage
  | _ => .usage

def ofLeading (argument : String) : Refusal :=
  match argument.toList with
  | '-' :: c :: rest =>
    if c = 'h' ∨ c = 'V' ∨ c :: rest = "-help".toList ∨ c :: rest = "-version".toList then .help else .usage
  | _ => .usage

def parse : List String → Except Refusal Command
  | [] => .error .usage
  | "map" :: rest => do return .map (← MapChoices.ofGiven (← readGiven mapSwitches [] none rest))
  | "expedition" :: rest => do
    return .expedition (← ExpeditionChoices.ofGiven (← readGiven expeditionSwitches [] none rest))
  | "help" :: rest => .error (helpOn rest)
  | argument :: _ => .error (ofLeading argument)

end Command

end ItemQuery
