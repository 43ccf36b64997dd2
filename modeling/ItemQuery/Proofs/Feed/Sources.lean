import ItemQuery.Host.InMemory
import ItemQuery.Load
import ItemQuery.Proofs.Host

/-! The two sources of a league's feeds.

A directory and a server that have the same documents give the same feed, and fail over the same
document. They differ where a document is not there: the directory goes on without it, the server
refuses, and all that was read before is lost.
-/

set_option autoImplicit false

namespace ItemQuery.Feed

section Documents

def ofDocument (document : String) : Except QueryError Feed := (parse document).mapError .document

/-- The feed of several documents. The first that cannot be read decides how the whole fails. -/
def ofDocuments (documents : List String) : Except QueryError Feed :=
  (documents.mapM ofDocument).map fun feeds => ⟨feeds.flatMap (·.entries)⟩

variable {documents : List String} {feed : Feed} {cause : QueryError}

theorem ofDocuments_eq_ok_iff : ofDocuments documents = .ok feed ↔
    ∃ feeds, List.Forall₂ (fun document part => parse document = .ok part) documents feeds ∧
      feed = ⟨feeds.flatMap (·.entries)⟩ := by
  simp only [ofDocuments, Except.map_eq_ok_iff, Except.mapM_eq_ok_iff, ofDocument, Except.mapError_eq_ok_iff,
    @eq_comm Feed feed]

theorem ofDocuments_eq_error_iff : ofDocuments documents = .error cause ↔
    ∃ before document after fault, documents = before ++ document :: after ∧
      (∀ earlier ∈ before, ∃ part, parse earlier = .ok part) ∧ parse document = .error fault ∧
        .document fault = cause := by
  simp only [ofDocuments, Except.map_eq_error_iff, Except.mapM_eq_error_iff_append, ofDocument,
    Except.mapError_eq_ok_iff, Except.mapError_eq_error_iff, exists_and_left]

theorem map_append_ofDocuments_nil (feed : Feed) : (ofDocuments []).map feed.append = .ok feed :=
  congrArg (fun entries => Except.ok (Feed.mk entries)) (List.append_nil _)

theorem map_append_empty (outcome : Except QueryError Feed) : outcome.map (append {}) = outcome := by
  cases outcome <;> rfl

/-- A feed goes in front of what the documents add to it one by one. -/
theorem map_append_ofDocuments_cons (feed : Feed) (document : String) (rest : List String) :
    (ofDocuments (document :: rest)).map feed.append =
      ofDocument document >>= fun part => (ofDocuments rest).map (feed.append part).append := by
  rw [ofDocuments, ofDocuments, List.mapM_cons]
  cases ofDocument document with
  | error fault => rfl
  | ok part =>
    rw [Except.bind_eq_of_ok rfl, Except.bind_eq_of_ok rfl]
    cases rest.mapM ofDocument with
    | error fault => rfl
    | ok parts => exact congrArg (fun entries => Except.ok (Feed.mk entries)) (List.append_assoc ..).symm

end Documents

/-- The address does not depend on how many slashes end the base. -/
theorem address_slashes {site : String} (bare : site.toList.getLast? ≠ some '/') (slashes : Nat)
    (league kind : String) :
    address (site ++ .ofList (List.replicate slashes '/')) league kind = site ++ "/" ++ fileName league kind := by
  have kept : site.toList.reverse.dropWhile (· == '/') = site.toList.reverse := by
    cases reversed : site.toList.reverse with
    | nil => rfl
    | cons c rest =>
      rw [← List.head?_reverse, reversed] at bare
      exact List.dropWhile_cons_of_neg (by simpa using bare)
  rw [address, String.toList_append, String.toList_ofList, List.reverse_append, List.reverse_replicate,
    List.dropWhile_append_of_pos (by simp), kept, List.reverse_reverse, String.ofList_toList]

variable {σ : Type} {host : Host (StateM σ)} {directory site league : String}

section Actions

variable {path text : String}

theorem readLogged_gives (host : Host (StateM σ)) (text : String) :
    Gives (readLogged host text).run (ofDocument text) := by
  rw [readLogged, ofDocument, parse]
  cases read text with
  | error fault => exact .pure _
  | ok reading => exact (Gives.unit _).lift.after (.pure _)

theorem load_gives (readable : Gives (host.readText path) (.ok text)) :
    Gives (load host path).run (ofDocument text) := by
  rw [load]
  exact (Gives.unit _).lift.after (readable.lift.after ((readLogged_gives host text).aside _))

variable {base kind : String} {status : Nat}

theorem fetchKind_gives (success : Web.isSuccess status = true)
    (answered : Gives (host.send ⟨address base league kind, userAgent⟩) (some ⟨status, text⟩)) :
    Gives (fetchKind host base league kind).run (ofDocument text) := by
  rw [fetchKind]
  refine (Gives.unit _).lift.after (answered.lift.after ?_)
  simp only [success, if_true]
  exact (readLogged_gives host text).aside _

theorem fetchKind_refused (failure : Web.isSuccess status = false)
    (answered : Gives (host.send ⟨address base league kind, userAgent⟩) (some ⟨status, text⟩)) :
    Gives (fetchKind host base league kind).run (.error (.status status)) := by
  rw [fetchKind]
  refine (Gives.unit _).lift.after (answered.lift.after ?_)
  simp only [failure]
  exact .pure _

theorem fetchKinds_refused (failure : Web.isSuccess status = false)
    (answered : Gives (host.send ⟨address base league kind, userAgent⟩) (some ⟨status, text⟩)) (feed : Feed)
    (after : List String) : Gives (fetchKinds host base league feed (kind :: after)).run (.error (.status status)) := by
  rw [fetchKinds]
  exact (fetchKind_refused failure answered).failed

end Actions

/-- A directory and a server have the same under a name. What the directory has not, the server refuses. -/
inductive Published (host : Host (StateM σ)) (directory site : String) (content : String → Option String)
    (refusal : String → Nat) (name : String) : Prop where
  | there {text : String} {status : Nat} : content name = some text →
      Gives (host.isPresent (Host.join directory name)) true →
      Gives (host.readText (Host.join directory name)) (.ok text) → Web.isSuccess status = true →
      Gives (host.send ⟨site ++ "/" ++ name, userAgent⟩) (some ⟨status, text⟩) →
      Published host directory site content refusal name
  | absent {body : String} : content name = none → Gives (host.isPresent (Host.join directory name)) false →
      Web.isSuccess (refusal name) = false →
      Gives (host.send ⟨site ++ "/" ++ name, userAgent⟩) (some ⟨refusal name, body⟩) →
      Published host directory site content refusal name

section Runs

variable {content : String → Option String} {refusal : String → Nat} {names before after rest : List String}
  {kind text base : String}

/-- The documents of the kinds that have one. -/
def documents (content : String → Option String) (league : String) (names : List String) : List String :=
  names.filterMap fun kind => content (fileName league kind)

def Complete (content : String → Option String) (league : String) (names : List String) : Prop :=
  ∀ kind ∈ names, content (fileName league kind) ≠ none

instance : Decidable (Complete content league names) :=
  inferInstanceAs (Decidable (∀ kind ∈ names, content (fileName league kind) ≠ none))

theorem documents_cons_of_some (found : content (fileName league kind) = some text) :
    documents content league (kind :: rest) = text :: documents content league rest :=
  List.filterMap_cons_some found

theorem documents_cons_of_none (missing : content (fileName league kind) = none) :
    documents content league (kind :: rest) = documents content league rest :=
  List.filterMap_cons_none missing

theorem loadKinds_gives
    (published : ∀ kind ∈ names, Published host directory site content refusal (fileName league kind)) (feed : Feed) :
    Gives (loadKinds host directory league feed names).run
      ((ofDocuments (documents content league names)).map feed.append) := by
  induction names generalizing feed with
  | nil =>
    rw [loadKinds, documents, List.filterMap_nil, map_append_ofDocuments_nil]
    exact .pure _
  | cons kind rest ih =>
    obtain ⟨here, later⟩ := List.forall_mem_cons.mp published
    rw [loadKinds]
    cases here with
    | there found present readable =>
      rw [documents_cons_of_some found, map_append_ofDocuments_cons]
      exact present.lift.after ((load_gives readable).andThen fun part => ih later (feed.append part))
    | absent missing absent =>
      rw [documents_cons_of_none missing]
      exact absent.lift.after ((Gives.unit _).lift.after (ih later feed))

theorem loadDirectory_gives
    (published : ∀ kind ∈ kinds, Published host directory site content refusal (fileName league kind)) :
    Gives (loadDirectory host directory league).run (ofDocuments (documents content league kinds)) := by
  rw [← map_append_empty (ofDocuments _)]
  exact loadKinds_gives published {}

section Fetching

variable (address_eq : ∀ kind, address base league kind = site ++ "/" ++ fileName league kind)
include address_eq

theorem fetchKinds_append_gives
    (published : ∀ kind ∈ before, Published host directory site content refusal (fileName league kind))
    (complete : Complete content league before) {outcome : Feed → Except QueryError Feed}
    (others : ∀ feed, Gives (fetchKinds host base league feed after).run (outcome feed)) (feed : Feed) :
    Gives (fetchKinds host base league feed (before ++ after)).run
      ((ofDocuments (documents content league before)).map feed.append >>= outcome) := by
  induction before generalizing feed with
  | nil =>
    rw [documents, List.filterMap_nil, map_append_ofDocuments_nil]
    exact others feed
  | cons kind rest ih =>
    obtain ⟨here, later⟩ := List.forall_mem_cons.mp published
    obtain ⟨has, completeRest⟩ := List.forall_mem_cons.mp complete
    rw [List.cons_append, fetchKinds]
    cases here with
    | there found _ _ success answered =>
      rw [documents_cons_of_some found, map_append_ofDocuments_cons, bind_assoc]
      rw [← address_eq] at answered
      exact (fetchKind_gives success answered).andThen fun part => ih later completeRest (feed.append part)
    | absent missing => exact absurd missing has

theorem fetch_gives (published : ∀ kind ∈ kinds, Published host directory site content refusal (fileName league kind))
    (complete : Complete content league kinds) :
    Gives (fetch host base league).run (ofDocuments (documents content league kinds)) := by
  have finished (feed : Feed) : Gives (fetchKinds host base league feed []).run (pure feed) := .pure _
  have fetched := fetchKinds_append_gives address_eq published complete finished {}
  rwa [List.append_nil, map_append_empty, bind_pure] at fetched

/-- The run ends at the first kind that is not there, whatever was fetched before it. -/
theorem fetch_refused (published : ∀ kind ∈ kinds, Published host directory site content refusal (fileName league kind))
    (split : kinds = before ++ kind :: after) (complete : Complete content league before)
    (missing : content (fileName league kind) = none) :
    Gives (fetch host base league).run
      (ofDocuments (documents content league before) >>= fun _ =>
        .error (.status (refusal (fileName league kind)))) := by
  rw [split, List.forall_mem_append] at published
  cases published.2 kind List.mem_cons_self with
  | there found => exact nomatch found.symm.trans missing
  | absent _ _ failure answered =>
    rw [← address_eq] at answered
    have fetched := fetchKinds_append_gives address_eq published.1 complete
      (fun feed => fetchKinds_refused failure answered feed after) {}
    rwa [← split, map_append_empty] at fetched

end Fetching

end Runs

/-- What a directory gives is the feed of the documents that it has. A server that has all of them gives the same,
and one that lacks some refuses the first that it lacks, unless one before it cannot be read. -/
theorem loadDirectory_fetch_agree {content : String → Option String} {refusal : String → Nat}
    (published : ∀ kind ∈ kinds, Published host directory site content refusal (fileName league kind))
    (bare : site.toList.getLast? ≠ some '/') (slashes : Nat) :
    Gives (loadDirectory host directory league).run (ofDocuments (documents content league kinds)) ∧
    (Complete content league kinds →
      Gives (fetch host (site ++ .ofList (List.replicate slashes '/')) league).run
        (ofDocuments (documents content league kinds))) ∧
    (∀ before kind after, kinds = before ++ kind :: after → Complete content league before →
      content (fileName league kind) = none →
        Gives (fetch host (site ++ .ofList (List.replicate slashes '/')) league).run
          (ofDocuments (documents content league before) >>= fun _ =>
            .error (.status (refusal (fileName league kind))))) ∧
    (∀ documents feed, ofDocuments documents = .ok feed ↔
      ∃ feeds, List.Forall₂ (fun document part => parse document = .ok part) documents feeds ∧
        feed = ⟨feeds.flatMap (·.entries)⟩) ∧
    ∀ documents cause, ofDocuments documents = .error cause ↔
      ∃ before document after fault, documents = before ++ document :: after ∧
        (∀ earlier ∈ before, ∃ part, parse earlier = .ok part) ∧ parse document = .error fault ∧
          .document fault = cause := by
  have address_eq := fun kind => address_slashes bare slashes league kind
  exact ⟨loadDirectory_gives published, fetch_gives address_eq published,
    fun before kind after split complete missing => fetch_refused address_eq published split complete missing,
    fun _ _ => ofDocuments_eq_ok_iff, fun _ _ => ofDocuments_eq_error_iff⟩

section World

variable {world : InMemory.World} {name : String}

def Holds (world : InMemory.World) (directory site name : String) : Option String → Prop
  | some text =>
    world.isPresent (Host.join directory name) = true ∧ world.readText (Host.join directory name) = .ok text ∧
      (world.path? (site ++ "/" ++ name)).map world.answer = some ⟨200, text⟩
  | none =>
    world.isPresent (Host.join directory name) = false ∧
      (world.path? (site ++ "/" ++ name)).map world.answer = some ⟨404, ""⟩

instance (world : InMemory.World) (directory site name : String) :
    (document : Option String) → Decidable (Holds world directory site name document)
  | some _ => inferInstanceAs (Decidable (_ ∧ _))
  | none => inferInstanceAs (Decidable (_ ∧ _))

theorem send_gives {request : Request} {response : Response}
    (answered : (world.path? request.address).map world.answer = some response) :
    Gives (world.host.send request) (some response) := by
  obtain ⟨path, found, rfl⟩ := Option.map_eq_some_iff.mp answered
  intro state
  simp only [InMemory.World.host, found]
  rfl

theorem Holds.published {content : String → Option String} (holds : Holds world directory site name (content name)) :
    Published world.host directory site content (fun _ => 404) name := by
  cases found : content name with
  | some text =>
    rw [found] at holds
    obtain ⟨present, readable, answered⟩ := holds
    exact .there found (present ▸ .pure _) (readable ▸ .pure _) rfl (send_gives answered)
  | none =>
    rw [found] at holds
    obtain ⟨absent, answered⟩ := holds
    exact .absent found (absent ▸ .pure _) rfl (send_gives answered)

def stocked (stock : List (String × String)) : InMemory.World where
  nodes := stock.map fun (kind, text) => (["feeds", fileName "Test" kind], .file text.toUTF8.toList)
  server := "http://feed.test"
  responses := stock.map fun (kind, text) => ⟨"/" ++ fileName "Test" kind, 200, text.toUTF8.toList⟩

def stockedDocument? (stock : List (String × String)) (name : String) : Option String :=
  (stock.find? fun item => fileName "Test" item.1 == name).map Prod.snd

end World

/-- A league of which every document is there, and one that lacks two. -/
theorem loadDirectory_fetch_agree_stocked :
    let price : Entry := { name := "a", category := "b", value := ⟨0x4062c00000000000⟩ }
    let priced := "\x7b\"lines\":[\x7b\"name\":\"a\",\"category\":\"b\",\"value\":150\x7d]\x7d"
    let full := [("Accessory", priced), ("Armour", "\x7b\x7d"), ("Jewel", priced), ("Weapon", "\x7b\x7d")]
    let lacking := [("Accessory", priced), ("Jewel", priced)]
    Gives (loadDirectory (stocked full).host "/feeds" "Test").run (.ok ⟨[price, price]⟩) ∧
      Gives (fetch (stocked full).host "http://feed.test//" "Test").run (.ok ⟨[price, price]⟩) ∧
      Gives (loadDirectory (stocked lacking).host "/feeds" "Test").run (.ok ⟨[price, price]⟩) ∧
      Gives (fetch (stocked lacking).host "http://feed.test//" "Test").run (.error (.status 404)) := by
  intro price priced full lacking
  have holds : ∀ stock ∈ [full, lacking], ∀ kind ∈ kinds, Holds (stocked stock) "/feeds" "http://feed.test"
      (fileName "Test" kind) (stockedDocument? stock (fileName "Test" kind)) := by decide +kernel
  have whole : ofDocuments (documents (stockedDocument? full) "Test" kinds) = .ok ⟨[price, price]⟩ := by decide +kernel
  have part : ofDocuments (documents (stockedDocument? lacking) "Test" kinds) = .ok ⟨[price, price]⟩ := by
    decide +kernel
  have first : ofDocuments (documents (stockedDocument? lacking) "Test" ["Accessory"]) = .ok ⟨[price]⟩ := by
    decide +kernel
  obtain ⟨loaded, fetched, -⟩ := loadDirectory_fetch_agree
    (fun kind member => (holds full (by simp) kind member).published) (by decide) 2
  obtain ⟨loadedPart, -, refused, -⟩ := loadDirectory_fetch_agree
    (fun kind member => (holds lacking (by simp) kind member).published) (by decide) 2
  have refusal := refused ["Accessory"] "Armour" ["Jewel", "Weapon"] rfl (by decide +kernel) (by decide +kernel)
  rw [whole] at loaded fetched
  rw [part] at loadedPart
  rw [first] at refusal
  exact ⟨loaded, fetched (by decide +kernel), loadedPart, refusal⟩

end ItemQuery.Feed
