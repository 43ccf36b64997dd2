import ItemQuery.Feed
import ItemQuery.Binary64.Shortest
import ItemQuery.Proofs.Json.Number
import ItemQuery.Proofs.Json.Writing

/-! Feed documents, line by line.

Each line is an entry or nothing by itself, so a document of more lines holds the entries
of its parts in order. What a line says of an entry is kept as it is, and its price is the
number that is nearest to the literal, unless the literal has so many digits or so large
an exponent that the reader rounds more than once.
-/

set_option autoImplicit false

namespace ItemQuery

open Json

namespace Entry

def linkValue : Option UInt32 → Value
  | none => .null
  | some count => .integer count.toNat

/-- The object gives the entry, with nothing to be said of what else it holds. -/
structure GivenBy (entry : Entry) (table : List (String × Value)) : Prop where
  name : Given ["name"] table (· = .text entry.name)
  category : Given ["category", "baseType"] table (· = .text entry.category)
  value : Given ["value", "chaosValue"] table fun found => Decoder.real.view found = .ok entry.value
  icon : Given ["icon"] table (· = .text entry.icon) ∨ LeftOut ["icon"] table ∧ entry.icon = ""
  linkCount? : Given ["linkCount", "links"] table (· = linkValue entry.linkCount?) ∨
    LeftOut ["linkCount", "links"] table ∧ entry.linkCount? = none

theorem view_linkValue (linkCount? : Option UInt32) : Decoder.count?.view (linkValue linkCount?) = .ok linkCount? := by
  cases linkCount? with
  | none => rfl
  | some count =>
    have fits : (0 : Int) ≤ count.toNat ∧ (count.toNat : Int) < 0x100000000 := by
      have := count.toNat_lt
      omega
    simp only [Decoder.count?, Decoder.ofHead, linkValue, Value.integer, Value.head, if_pos fits, Int.toNat_natCast,
      UInt32.ofNat_toNat]

theorem GivenBy.view {entry : Entry} {table : List (String × Value)} (given : entry.GivenBy table) :
    Entry.decoder.view (.object table) = .ok entry := by
  have links : ∀ found, found = linkValue entry.linkCount? → Decoder.count?.view found = .ok entry.linkCount? := by
    rintro _ rfl
    exact view_linkValue entry.linkCount?
  have gets : Entry.fields.Gets inTable table
      (entry.name, entry.category, entry.value, entry.icon, entry.linkCount?, ()) :=
    ⟨given.name.gets view_text rfl, given.category.gets view_text rfl, given.value.gets (fun _ viewed => viewed) rfl,
      gets_of_given_or_leftOut given.icon view_text rfl rfl, gets_of_given_or_leftOut given.linkCount? links rfl rfl,
      trivial⟩
  exact Except.map_eq_ok_iff.mpr ⟨_, Decoder.record_view _ (by decide) gets, rfl⟩

end Entry

namespace Feed

/-- The document holds the lines and nothing else. -/
def Lists (document : String) (lines : List Value) : Prop :=
  ∃ (before : Space) (pair : Pair Spelling) (close after : Space),
    document = Padded.document ⟨before, .object [pair] close, after⟩ ∧ pair.name? = some "lines" ∧
      pair.value.inner.value? 126 = some (.list lines)

def ofLines (lines : List Value) : Feed := ⟨lines.filterMap fun line => (Entry.decoder.view line).toOption⟩

theorem ofLines_append (lines more : List Value) : ofLines (lines ++ more) = (ofLines lines).append (ofLines more) := by
  rw [ofLines, List.filterMap_append]
  rfl

theorem parse_of_lists {document : String} {lines : List Value} (lists : Lists document lines) :
    parse document = .ok (ofLines lines) := by
  obtain ⟨before, pair, close, after, rfl, named, spelled⟩ := lists
  have one : under Pair.name? ["lines"] [pair] = [pair] := under_cons_of_mem named (by simp)
  have gets : documentFields.Gets (onText 126) [pair] (lines, ()) :=
    ⟨.inr ⟨pair, one, Decoder.any_list_takes spelled⟩, trivial⟩
  have takes : Takes (documentDecoder.scan room) (Spelling.object [pair] close).chars lines :=
    Decoder.map_takes _ (Decoder.record_takes "FeedFile" (by decide)
      (List.forall_mem_singleton.mpr (Option.isSome_of_eq_some named)) gets close)
  have read : documentDecoder.decode (Padded.document ⟨before, .object [pair] close, after⟩) = .ok lines :=
    Decoder.decode_document takes
  rw [parse, Feed.read, read]
  simp only [Except.map, Reading.feed, List.filterMap_map]
  rfl

/-- The entries in order, with lines among them that are none. -/
inductive Interleaves : List Entry → List Value → Prop where
  | nil : Interleaves [] []
  | entry {entry : Entry} {table : List (String × Value)} {entries : List Entry} {lines : List Value} :
      entry.GivenBy table → Interleaves entries lines → Interleaves (entry :: entries) (.object table :: lines)
  | other {line : Value} {cause : Mismatch} {entries : List Entry} {lines : List Value} :
      Entry.decoder.view line = .error cause → Interleaves entries lines → Interleaves entries (line :: lines)

theorem Interleaves.ofLines_eq {entries : List Entry} {lines : List Value} (interleaves : Interleaves entries lines) :
    ofLines lines = ⟨entries⟩ := by
  induction interleaves with
  | nil => rfl
  | entry given _ ih =>
    have later := congrArg Feed.entries ih
    rw [ofLines, List.filterMap_cons_some (by rw [given.view]; rfl)]
    exact congrArg (fun entries => (⟨_ :: entries⟩ : Feed)) later
  | other failed _ ih => rwa [ofLines, List.filterMap_cons_none (by rw [failed]; rfl)]

/-- The lines of two documents together make the feed of the first with the second behind it.
Entries come back as they were given, whatever is among them, and so do their prices, if
the literals have not too many digits and no large exponents. -/
theorem parse_lines :
    (∀ first second both lines more, Lists first lines → Lists second more → Lists both (lines ++ more) →
      ∃ feed next, parse first = .ok feed ∧ parse second = .ok next ∧ parse both = .ok (feed.append next)) ∧
    (∀ document entries lines, Lists document lines → Interleaves entries lines → parse document = .ok ⟨entries⟩) ∧
    ∀ (literal : Literal) (price : Binary64), literal.Shows price →
      ∃ scalar, literal.scalar? = some scalar ∧ Decoder.real.view (.scalar scalar) = .ok price := by
  refine ⟨fun first second both lines more isFirst isSecond isBoth => ?_, fun document entries lines lists mixed => ?_,
    fun literal price shows => shows.exists_scalar⟩
  · refine ⟨_, _, parse_of_lists isFirst, parse_of_lists isSecond, ?_⟩
    rw [parse_of_lists isBoth, ofLines_append]
  · rw [parse_of_lists lists, mixed.ofLines_eq]

def withExponent : Numeral where
  literal := ⟨false, [1], [5], some ⟨false, [2]⟩⟩
  wellFormed := ⟨by decide, by decide, nofun, by decide, by rintro _ ⟨⟩; decide, by rintro _ ⟨⟩; decide⟩

def pricedLine : Spelling := .ofMembers
  [("name", .ofText "a"), ("baseType", .ofText "b"), ("chaosValue", .scalar (.number withExponent))]

/-- A price with an exponent, and two documents and the one with the lines of both. -/
theorem parse_lines_priced :
    parse "\x7b\"lines\":[\x7b\"name\":\"a\",\"baseType\":\"b\",\"chaosValue\":1.5e2\x7d,null]\x7d" =
        .ok ⟨[{ name := "a", category := "b", value := ⟨0x4062c00000000000⟩ }]⟩ ∧
      ∃ feed more, parse "\x7b\"lines\":[null]\x7d" = .ok feed ∧ parse "\x7b\"lines\":[]\x7d" = .ok more ∧
        parse "\x7b\"lines\":[null]\x7d" = .ok (feed.append more) := by
  have shows : withExponent.literal.Shows ⟨0x4062c00000000000⟩ :=
    ⟨⟨by decide, by decide, by decide⟩, by decide, by decide, by decide +kernel, by decide +kernel, by decide +kernel⟩
  obtain ⟨scalar, read, viewed⟩ := parse_lines.2.2 _ _ shows
  let table : List (String × Value) := [("name", .text "a"), ("baseType", .text "b"), ("chaosValue", .scalar scalar)]
  have given : Entry.GivenBy { name := "a", category := "b", value := ⟨0x4062c00000000000⟩ } table :=
    ⟨⟨_, rfl, rfl⟩, ⟨_, rfl, rfl⟩, ⟨_, rfl, viewed⟩, .inr ⟨rfl, rfl⟩, .inr ⟨rfl, rfl⟩⟩
  have spelled : pricedLine.value? 125 = some (.object table) := by
    simp only [pricedLine, Spelling.ofMembers, Pair.all, List.map, Pair.of, Spelling.value?, Spelling.pairValues?,
      Token.scalar?, read]
    rfl
  have both : (Spelling.list [{ inner := pricedLine }, { inner := .scalar .null }] {}).value? 126 =
      some (.list [.object table, .null]) := by
    simp only [Spelling.value?, Spelling.itemValues?, spelled]
    rfl
  have lists : Lists "\x7b\"lines\":[\x7b\"name\":\"a\",\"baseType\":\"b\",\"chaosValue\":1.5e2\x7d,null]\x7d"
      [.object table, .null] :=
    ⟨{}, .of "lines" (.list [{ inner := pricedLine }, { inner := .scalar .null }] {}), {}, {}, by decide +kernel, rfl, both⟩
  have single : Lists _ [.null] := ⟨{}, .of "lines" (.list [{ inner := .scalar .null }] {}), {}, {}, rfl, rfl, rfl⟩
  have empty : Lists _ [] := ⟨{}, .of "lines" (.list [] {}), {}, {}, rfl, rfl, rfl⟩
  exact ⟨parse_lines.2.1 _ _ _ lists (.entry given (.other rfl .nil)), parse_lines.1 _ _ _ _ _ single empty single⟩

def nested (depth : Nat) : List Char := List.replicate depth '[' ++ List.replicate depth ']'

/-- Not everything that can be read can be read as a line, and not every price that is written is read
as it was: the literal is nearest to the price, and read as the number below. -/
theorem parse_lines_limits :
    (Decoder.any.decode (.ofList (nested 126))).isOk = true ∧
    (parse (.ofList ("\x7b\"lines\":[".toList ++ nested 126 ++ "]\x7d".toList))).isOk = false ∧
    Binary64.ofRatio 277 3 = ⟨0x4057155555555555⟩ ∧
    Binary64.ofRatio 9233333333333333 (10 ^ 14) = .ofRatio 277 3 ∧
    (Binary64.ofRatio 277 3).shortestText = "92.33333333333333" ∧
    (parse ("\x7b\"lines\":[\x7b\"name\":\"a\",\"category\":\"b\",\"value\":" ++
      (Binary64.ofRatio 277 3).shortestText ++ "\x7d]\x7d")).toOption =
        some ⟨[{ name := "a", category := "b", value := ⟨0x4057155555555554⟩ }]⟩ := by
  have written : (Binary64.ofRatio 277 3).shortestText = "92.33333333333333" := by decide +kernel
  rw [written]
  refine ⟨?_, ?_, by decide +kernel, by decide +kernel, rfl, by decide +kernel⟩
  · rw [Decoder.decode, document, String.toList_ofList]
    decide +kernel
  · rw [parse, Feed.read, Decoder.decode, document, String.toList_ofList]
    decide +kernel

end Feed

end ItemQuery
