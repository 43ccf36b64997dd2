import ItemQuery.Proofs.Selection

/-! Selections as ordered association lists.

An association list has each key once, with what stands under it, in the order in which
the keys came in. Selections behave like one whose keys are the names. Toggling appends
without looking for the name again, and removing takes only the first entry of a name;
both are right because no name is ever selected twice.
-/

set_option autoImplicit false

namespace ItemQuery

abbrev Association (β : Type) := List (String × β)

namespace Association

variable {β : Type}

def keys (table : Association β) : List String := table.map Prod.fst

def ofPairs : List (String × β) → Association β
  | [] => []
  | pair :: rest => pair :: (ofPairs rest).filter (·.1 ≠ pair.1)

def insert (key : String) (item : β) (table : Association β) : Bool × Association β :=
  if key ∈ table.keys then (false, table) else (true, table ++ [(key, item)])

def erase (key : String) (table : Association β) : Association β := table.filter (·.1 ≠ key)

def remove (key : String) (table : Association β) : Option β × Association β := (table.lookup key, table.erase key)

/-- Take out what is there, append what is not, and tell whether it is there now. -/
def toggle (key : String) (item : β) (table : Association β) : Bool × Association β :=
  if key ∈ table.keys then (false, table.erase key) else (true, table ++ [(key, item)])

theorem nodup_keys_ofPairs (pairs : List (String × β)) : (ofPairs pairs).keys.Nodup := by
  induction pairs with
  | nil => exact .nil
  | cons pair rest ih =>
    rw [ofPairs, keys, List.map_cons, List.nodup_cons]
    exact ⟨by simp, ih.sublist (List.filter_sublist.map Prod.fst)⟩

end Association

namespace Selection

inductive Operation where
  | insert (entry : Entry)
  | toggle (entry : Entry)
  | remove (name : String)
  | clear
  deriving DecidableEq, Repr

inductive Reply where
  | flag (value : Bool)
  | removed (found : Option Entry)
  | done
  deriving DecidableEq, Repr

def perform (selection : Selection) : Operation → Reply × Selection
  | .insert entry => (selection.insert entry).map .flag id
  | .toggle entry => (selection.toggle entry).map .flag id
  | .remove name => (selection.remove name).map .removed id
  | .clear => (.done, selection.clear)

end Selection

def Association.perform (table : Association Entry) : Selection.Operation → Selection.Reply × Association Entry
  | .insert entry => (table.insert entry.name entry).map .flag id
  | .toggle entry => (table.toggle entry.name entry).map .flag id
  | .remove name => (table.remove name).map .removed id
  | .clear => (.done, [])

namespace Selection

def run {σ : Type} (perform : σ → Operation → Reply × σ) (state : σ) : List Operation → List Reply × σ
  | [] => ([], state)
  | operation :: rest =>
    let step := perform state operation
    (run perform step.2 rest).map (step.1 :: ·) id

def keyed (entry : Entry) : String × Entry := (entry.name, entry)

def table (selection : Selection) : Association Entry := selection.entries.map keyed

variable {selection : Selection} {entries : List Entry} {entry : Entry} {name : String}

@[simp] theorem keys_table (selection : Selection) : selection.table.keys = selection.names := by
  rw [table, Association.keys, List.map_map]
  rfl

@[simp] theorem table_append (entries added : List Entry) :
    table ⟨entries ++ added⟩ = table ⟨entries⟩ ++ added.map keyed := List.map_append

theorem named?_isSome_iff : (Entry.named? name selection.entries).isSome ↔ name ∈ selection.names := by
  simp [Entry.named?, names]

theorem lookup_keyed (name : String) (entries : List Entry) :
    (entries.map keyed).lookup name = Entry.named? name entries := by
  induction entries with
  | nil => rfl
  | cons entry rest ih =>
    rw [List.map_cons, keyed, List.lookup_cons, ih, Entry.named?, Entry.named?, List.find?_cons, BEq.comm]

theorem table_filter (name : String) (entries : List Entry) :
    table ⟨entries.filter (·.name ≠ name)⟩ = (table ⟨entries⟩).erase name := by
  rw [table, table, Association.erase, List.filter_map]
  rfl

/-- Where no name comes twice, the first entry of a name is all there is of it. -/
theorem eraseP_eq_filter (distinct : (entries.map (·.name)).Nodup) :
    entries.eraseP (·.name == name) = entries.filter (·.name ≠ name) := by
  induction entries with
  | nil => rfl
  | cons entry rest ih =>
    obtain ⟨new, distinctRest⟩ := List.nodup_cons.mp distinct
    by_cases same : entry.name = name
    · subst same
      have others : ∀ other ∈ rest, other.name ≠ entry.name := fun other member named =>
        new (List.mem_map.mpr ⟨other, member, named⟩)
      rw [List.eraseP_cons_of_pos (by simp), List.filter_cons_of_neg (by simp)]
      exact (List.filter_eq_self.mpr fun other member => decide_eq_true (others other member)).symm
    · rw [List.eraseP_cons_of_neg (by simpa using same), List.filter_cons_of_pos (by simpa using same),
        ih distinctRest]

theorem toggle_of_absent (absent : entry.name ∉ selection.names) :
    selection.toggle entry = (true, ⟨selection.entries ++ [entry]⟩) := by
  have found : Entry.named? entry.name selection.entries = none := by
    rw [← Option.not_isSome_iff_eq_none, named?_isSome_iff]
    exact absent
  rw [toggle, remove, found]

theorem toggle_of_present (distinct : selection.names.Nodup) (present : entry.name ∈ selection.names) :
    selection.toggle entry = (false, ⟨selection.entries.filter (·.name ≠ entry.name)⟩) := by
  obtain ⟨stored, found⟩ := Option.isSome_iff_exists.mp (named?_isSome_iff.mpr present)
  rw [toggle, remove, found, eraseP_eq_filter distinct]

theorem perform_table (distinct : selection.names.Nodup) (operation : Operation) :
    selection.table.perform operation = (selection.perform operation).map id table := by
  cases operation with
  | insert entry =>
    rw [Association.perform, Association.insert, perform, insert, keys_table]
    by_cases present : entry.name ∈ selection.names
    · rw [if_pos present, if_pos (contains_iff.mpr present)]
      rfl
    · rw [if_neg present, if_neg (mt contains_iff.mp present)]
      exact congrArg (Prod.mk _) (table_append selection.entries [entry]).symm
  | toggle entry =>
    rw [Association.perform, Association.toggle, perform, keys_table]
    by_cases present : entry.name ∈ selection.names
    · rw [if_pos present, toggle_of_present distinct present]
      exact congrArg (Prod.mk _) (table_filter entry.name selection.entries).symm
    · rw [if_neg present, toggle_of_absent present]
      exact congrArg (Prod.mk _) (table_append selection.entries [entry]).symm
  | remove name =>
    rw [Association.perform, Association.remove, perform, remove, eraseP_eq_filter distinct, table, lookup_keyed]
    exact congrArg (Prod.mk _) (table_filter name selection.entries).symm
  | clear => rfl

theorem nodup_perform (distinct : selection.names.Nodup) (operation : Operation) :
    (selection.perform operation).2.names.Nodup := by
  have appended {entry : Entry} (absent : entry.name ∉ selection.names) :
      (names ⟨selection.entries ++ [entry]⟩).Nodup := by
    rw [names, List.map_append, List.map_singleton, List.nodup_append]
    refine ⟨distinct, List.pairwise_singleton _ _, fun name member other added same => absent ?_⟩
    rwa [← List.mem_singleton.mp added, ← same]
  have erased {kept : List Entry} (sub : kept.Sublist selection.entries) : (names ⟨kept⟩).Nodup :=
    distinct.sublist (sub.map _)
  cases operation with
  | insert entry =>
    rw [perform, insert]
    split
    · exact distinct
    · next absent => exact appended (mt contains_iff.mpr absent)
  | toggle entry =>
    rw [perform]
    by_cases present : entry.name ∈ selection.names
    · rw [toggle_of_present distinct present]
      exact erased List.filter_sublist
    · rw [toggle_of_absent present]
      exact appended present
  | remove name => exact erased List.eraseP_sublist
  | clear => exact .nil

/-- So do any operations in turn, and no name is selected twice after them. -/
theorem run_table (distinct : selection.names.Nodup) (operations : List Operation) :
    run Association.perform selection.table operations = (run perform selection operations).map id table ∧
      (run perform selection operations).2.names.Nodup := by
  induction operations generalizing selection with
  | nil => exact ⟨rfl, distinct⟩
  | cons operation rest ih =>
    obtain ⟨same, nodup⟩ := ih (nodup_perform distinct operation)
    refine ⟨?_, nodup⟩
    rw [run, perform_table distinct, run]
    exact congrArg (Prod.map _ id) same

/-- Entries inserted in turn are appended, each name once, but for the names that are there. -/
theorem table_foldl_insert (selection : Selection) (entries : List Entry) :
    (entries.foldl (fun selection entry => (selection.insert entry).2) selection).table =
      selection.table ++ (Association.ofPairs (entries.map keyed)).filter (·.1 ∉ selection.names) := by
  induction entries generalizing selection with
  | nil => exact (List.append_nil _).symm
  | cons entry rest ih =>
    rw [List.foldl_cons, ih, List.map_cons, Association.ofPairs, insert]
    split
    · next found =>
      have present : entry.name ∈ selection.names := contains_iff.mp found
      -- The name is there already, so leaving out its later entries changes nothing.
      rw [List.filter_cons_of_neg (by simp [keyed, present]), List.filter_filter]
      congr 1
      apply List.filter_congr
      intro pair _
      by_cases same : pair.1 = entry.name
      · simp [same, present]
      · simp [same, keyed]
    · next unmet =>
      have absent : entry.name ∉ selection.names := mt contains_iff.mpr unmet
      rw [List.filter_cons_of_pos (by simp [keyed, absent]), List.filter_filter, table_append, List.append_assoc]
      congr 1
      refine congrArg (keyed entry :: ·) (List.filter_congr fun pair _ => ?_)
      by_cases same : pair.1 = entry.name <;> simp [names, keyed, same]

theorem table_ofEntries (entries : List Entry) : (ofEntries entries).table = .ofPairs (entries.map keyed) := by
  rw [ofEntries, table_foldl_insert]
  exact List.filter_eq_self.mpr fun pair _ => decide_eq_true List.not_mem_nil

theorem nodup_names_ofEntries (entries : List Entry) : (ofEntries entries).names.Nodup := by
  rw [← keys_table, table_ofEntries]
  exact Association.nodup_keys_ofPairs _

/-- Taking out the name of the last entry leaves what is before it. -/
theorem filter_concat (absent : entry.name ∉ entries.map (·.name)) :
    (entries ++ [entry]).filter (·.name ≠ entry.name) = entries := by
  rw [List.filter_append, List.filter_cons_of_neg (by simp), List.filter_nil, List.append_nil, List.filter_eq_self]
  exact fun other member => decide_eq_true fun same => absent (same ▸ List.mem_map_of_mem member)

theorem toggle_twice_of_absent (distinct : selection.names.Nodup) (absent : entry.name ∉ selection.names) :
    run perform selection [.toggle entry, .toggle entry] = ([.flag true, .flag false], selection) := by
  have added := toggle_of_absent absent
  have distinctAdded := nodup_perform distinct (.toggle entry)
  rw [perform, added] at distinctAdded
  have present : entry.name ∈ names ⟨selection.entries ++ [entry]⟩ := by simp [names]
  have takenOut := toggle_of_present distinctAdded present
  simp only [Prod.map, id, filter_concat absent] at takenOut
  simp only [run, perform, added, takenOut, Prod.map, id]

theorem toggle_twice_of_present (distinct : selection.names.Nodup) (present : entry.name ∈ selection.names) :
    run perform selection [.toggle entry, .toggle entry] =
      ([.flag false, .flag true], ⟨selection.entries.filter (·.name ≠ entry.name) ++ [entry]⟩) := by
  have absent : entry.name ∉ names ⟨selection.entries.filter (·.name ≠ entry.name)⟩ := by simp [names]
  simp only [run, perform, toggle_of_present distinct present, toggle_of_absent absent, Prod.map, id]

/-- An entry that is put back at the end stands where it stood only if it was the last one. -/
theorem filter_concat_eq_iff (distinct : (entries.map (·.name)).Nodup) :
    entries.filter (·.name ≠ entry.name) ++ [entry] = entries ↔ entries.getLast? = some entry := by
  constructor
  · intro same
    rw [← same, List.getLast?_concat]
  · intro last
    obtain ⟨before, rfl⟩ : ∃ before, entries = before ++ [entry] :=
      ⟨_, (List.dropLast_append_getLast? entry last).symm⟩
    rw [List.map_append, List.map_singleton, List.nodup_append] at distinct
    rw [filter_concat fun member => distinct.2.2 _ member _ List.mem_cons_self rfl]

theorem toggle_twice_eq_iff (distinct : selection.names.Nodup) (entry : Entry) :
    (run perform selection [.toggle entry, .toggle entry]).2 = selection ↔
      entry.name ∉ selection.names ∨ selection.entries.getLast? = some entry := by
  by_cases present : entry.name ∈ selection.names
  · rw [toggle_twice_of_present distinct present, ← filter_concat_eq_iff distinct]
    constructor
    · exact fun same => .inr (congrArg Selection.entries same)
    · exact fun restored => congrArg Selection.mk (restored.resolve_left (not_not_intro present))
  · rw [toggle_twice_of_absent distinct present]
    exact iff_of_true rfl (.inl present)

/-- From any entries and through any operations, a selection has each name once, and replies and holds what an ordered
association list replies and holds. Two toggles of an entry add it and take it out again if its name was absent; if not,
they replace the stored entry by the given one, at the end. So they leave all as it was when the name was absent, or
when that very entry was the last one already, and not otherwise. -/
theorem run_ordered (entries : List Entry) (operations : List Operation) (replies : List Reply) (selection : Selection)
    (reached : run perform (ofEntries entries) operations = (replies, selection)) :
    selection.names.Nodup ∧
    run Association.perform (.ofPairs (entries.map keyed)) operations = (replies, selection.table) ∧
    (∀ name, selection.contains name = true ↔ name ∈ selection.names) ∧
    ∀ entry,
      (entry.name ∉ selection.names →
        run perform selection [.toggle entry, .toggle entry] = ([.flag true, .flag false], selection)) ∧
      (entry.name ∈ selection.names →
        run perform selection [.toggle entry, .toggle entry] =
          ([.flag false, .flag true], ⟨selection.entries.filter (·.name ≠ entry.name) ++ [entry]⟩)) ∧
      ((run perform selection [.toggle entry, .toggle entry]).2 = selection ↔
        entry.name ∉ selection.names ∨ selection.entries.getLast? = some entry) := by
  obtain ⟨same, distinct⟩ := run_table (nodup_names_ofEntries entries) operations
  rw [reached] at same distinct
  rw [table_ofEntries] at same
  exact ⟨distinct, same, fun name => contains_iff, fun entry =>
    ⟨toggle_twice_of_absent distinct, toggle_twice_of_present distinct, toggle_twice_eq_iff distinct entry⟩⟩

section Bands

def bandFor (value : Binary64) (icon : String) : Entry := ⟨"Band", "Ring", value, icon, none⟩

def sash : Entry := ⟨"Sash", "Belt", ⟨0x4069000000000000⟩, "", none⟩

/-- The first of two bands is kept, refused as a new one, taken out, and put in again behind the sash. Toggled twice, the
sash comes behind the band, and the band stays where it is. -/
theorem run_ordered_bands :
    run perform (ofEntries [bandFor ⟨0⟩ "old", sash, bandFor ⟨0x4069000000000000⟩ "new"])
        [.insert (bandFor ⟨0x4072C00000000000⟩ "newer"), .toggle (bandFor ⟨0x4072C00000000000⟩ "newer"),
          .remove "Band", .toggle (bandFor ⟨0⟩ "old")] =
      ([.flag false, .flag false, .removed none, .flag true], ⟨[sash, bandFor ⟨0⟩ "old"]⟩) ∧
    run perform ⟨[sash, bandFor ⟨0⟩ "old"]⟩ [.toggle sash, .toggle sash] =
      ([.flag false, .flag true], ⟨[bandFor ⟨0⟩ "old", sash]⟩) ∧
    (run perform ⟨[sash, bandFor ⟨0⟩ "old"]⟩ [.toggle sash, .toggle sash]).2 ≠ ⟨[sash, bandFor ⟨0⟩ "old"]⟩ ∧
    (run perform ⟨[sash, bandFor ⟨0⟩ "old"]⟩ [.toggle (bandFor ⟨0⟩ "old"), .toggle (bandFor ⟨0⟩ "old")]).2 =
      ⟨[sash, bandFor ⟨0⟩ "old"]⟩ := by
  have reached : run perform (ofEntries [bandFor ⟨0⟩ "old", sash, bandFor ⟨0x4069000000000000⟩ "new"])
      [.insert (bandFor ⟨0x4072C00000000000⟩ "newer"), .toggle (bandFor ⟨0x4072C00000000000⟩ "newer"),
        .remove "Band", .toggle (bandFor ⟨0⟩ "old")] =
      ([.flag false, .flag false, .removed none, .flag true], ⟨[sash, bandFor ⟨0⟩ "old"]⟩) := by decide
  obtain ⟨-, replaced, moved⟩ := (run_ordered _ _ _ _ reached).2.2.2 sash
  obtain ⟨-, -, restored⟩ := (run_ordered _ _ _ _ reached).2.2.2 (bandFor ⟨0⟩ "old")
  exact ⟨reached, replaced (by decide), mt moved.mp (by decide), restored.mpr (.inr rfl)⟩

/-- The only entry is taken out and put back where it was, though its name was selected. -/
theorem toggle_twice_alone :
    ¬((run perform (ofEntries [sash]) [.toggle sash, .toggle sash]).2 = ofEntries [sash] ↔
      sash.name ∉ (ofEntries [sash]).names) := by
  decide

end Bands

end Selection

end ItemQuery
