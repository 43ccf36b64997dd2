import ItemQuery.Json.Record
import ItemQuery.Json.Printer
import ItemQuery.Minimum

/-! Saved choices for a map query: modifiers to avoid and to look for, least values, and rarities.

Every field of a settings document may be left out. What is written names every field.
-/

set_option autoImplicit false

namespace ItemQuery

/-- The listed rarities are the allowed ones, or the denied ones when `allow` is off. -/
structure RarityFilter where
  normal : Bool := true
  magic : Bool := true
  rare : Bool := true
  allow : Bool := true
  deriving DecidableEq, Repr, Inhabited

structure Settings where
  badMods : List String := []
  goodMods : List String := []
  allGoodMods : Bool := false
  quantity : Minimum := {}
  packSize : Minimum := {}
  rarity : RarityFilter := {}
  bonusMods : List String := []
  deriving DecidableEq, Repr, Inhabited

open Json

def Minimum.fields : Fields [String, Bool] :=
  (.optional "digits" .text "", .optional "relax" .flag false, ())

def Minimum.decoder : Decoder Minimum :=
  (Decoder.record "NumericSetting" fields).map fun (digits, relax, ()) => ⟨digits, relax⟩

def Minimum.toJson (minimum : Minimum) : Value :=
  .object [("digits", .text minimum.digits), ("relax", .flag minimum.relax)]

def RarityFilter.fields : Fields [Bool, Bool, Bool, Bool] :=
  (.optional "normal" .flag true, .optional "magic" .flag true, .optional "rare" .flag true,
    .optional "include" .flag true, ())

def RarityFilter.decoder : Decoder RarityFilter :=
  (Decoder.record "RaritySettings" fields).map fun (normal, magic, rare, allow, ()) => ⟨normal, magic, rare, allow⟩

def RarityFilter.toJson (filter : RarityFilter) : Value :=
  .object [("normal", .flag filter.normal), ("magic", .flag filter.magic), ("rare", .flag filter.rare),
    ("include", .flag filter.allow)]

namespace Settings

def fields : Fields [List String, List String, Bool, Minimum, Minimum, RarityFilter, List String] :=
  (.optional "badMods" (.list .text) [], .optional "goodMods" (.list .text) [], .optional "allGoodMods" .flag false,
    .optional "quantity" Minimum.decoder {}, .optional "packsize" Minimum.decoder {},
    .optional "rarity" RarityFilter.decoder {}, (Field.optional "bonusMods" (.list .text) []).orNamed "kirac", ())

def decoder : Decoder Settings :=
  (Decoder.record "MapSettings" fields).map fun (bad, good, all, quantity, packSize, rarity, bonus, ()) =>
    ⟨bad, good, all, quantity, packSize, rarity, bonus⟩

def parse (document : String) : Except Fault Settings := decoder.decode document

def toJson (settings : Settings) : Value :=
  .object [("badMods", .list (settings.badMods.map .text)), ("goodMods", .list (settings.goodMods.map .text)),
    ("allGoodMods", .flag settings.allGoodMods), ("quantity", settings.quantity.toJson),
    ("packsize", settings.packSize.toJson), ("rarity", settings.rarity.toJson),
    ("bonusMods", .list (settings.bonusMods.map .text))]

end Settings

end ItemQuery
