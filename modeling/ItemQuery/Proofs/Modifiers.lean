import ItemQuery.Modifiers
import ItemQuery.Proofs.FragmentSource
import ItemQuery.Proofs.Keyed

/-! Modifiers as they are put together, and the fragments in them. -/

set_option autoImplicit false

namespace ItemQuery.Modifiers

/-- Modifiers are made from pairs, or read from a document. -/
inductive Built : Modifiers → Prop where
  | ofPairs (pairs : List (String × String)) : Built (.ofPairs pairs)
  | parsed {document : String} {modifiers : Modifiers} : parse document = .ok modifiers → Built modifiers

variable {modifiers : Modifiers} {key : String}

def keys (modifiers : Modifiers) : List String := modifiers.table.map (·.key)

theorem get?_eq_none_iff : modifiers.get? key = none ↔ key ∉ modifiers.keys := Keyed.get?_eq_none_iff

theorem fragment_of_absent (absent : key ∉ modifiers.keys) : modifiers.fragment key = .error (.unknownModifier key) := by
  rw [fragment, get?_eq_none_iff.mpr absent]

theorem knows_fragment_iff : modifiers.fragment.Knows key ↔ key ∈ modifiers.keys := by
  rw [← not_iff_not, ← get?_eq_none_iff]
  cases found : modifiers.get? key <;> simp [FragmentSource.Knows, fragment, found]

theorem Built.exists_pairs (built : modifiers.Built) : ∃ pairs, modifiers = .ofPairs pairs := by
  cases built with
  | ofPairs pairs => exact ⟨pairs, rfl⟩
  | parsed parsed =>
    obtain ⟨pairs, _, same⟩ := Except.map_eq_ok_iff.mp parsed
    exact ⟨pairs, same.symm⟩

/-- No fragment that is found ends the clause it is put into. -/
theorem Built.quote_not_mem (built : modifiers.Built) {fragment : String}
    (found : modifiers.fragment key = .ok fragment) : '"' ∉ fragment.toList := by
  obtain ⟨pairs, rfl⟩ := built.exists_pairs
  cases looked : (Modifiers.ofPairs pairs).get? key with
  | none => simp [Modifiers.fragment, looked] at found
  | some modifier =>
    have same : modifier.fragment = fragment := by simpa [Modifiers.fragment, looked] using found
    have listed := Keyed.mem_of_mem_ofList (Keyed.mem_of_get?_eq_some looked)
    obtain ⟨⟨_, text⟩, _, rfl⟩ := List.mem_map.mp listed
    rw [← same]
    change '"' ∉ (String.ofList (Text.withoutQuotes text.toList)).toList
    rw [String.toList_ofList]
    exact Text.quote_not_mem_withoutQuotes text.toList

end ItemQuery.Modifiers
