import ItemQuery.Proofs.Entry
import ItemQuery.Proofs.Except
import ItemQuery.Selection

/-! Where the entries of a selection come from. -/

set_option autoImplicit false

namespace ItemQuery

namespace Selection

variable {selection : Selection} {new entry : Entry} {name : String} {pool : List Entry}

theorem contains_iff : selection.contains name = true ↔ name ∈ selection.names := by
  simp [contains, names]

theorem mem_insert (member : entry ∈ (selection.insert new).2.entries) : entry = new ∨ entry ∈ selection.entries := by
  rw [insert] at member
  split at member
  · exact Or.inr member
  · rw [List.mem_append, List.mem_singleton] at member
    exact member.symm

theorem mem_remove (member : entry ∈ (selection.remove name).2.entries) : entry ∈ selection.entries :=
  List.mem_of_mem_eraseP member

theorem mem_toggle (member : entry ∈ (selection.toggle new).2.entries) : entry = new ∨ entry ∈ selection.entries := by
  rw [toggle] at member
  split at member
  · next rest removed =>
    have left : rest = (selection.remove new.name).2 := by rw [removed]
    subst left
    exact Or.inr (mem_remove member)
  · rw [List.mem_append, List.mem_singleton] at member
    exact member.symm

theorem mem_ofNames {names : List String} (resolved : ofNames pool names = .ok selection) :
    ∀ entry ∈ selection.entries, entry ∈ pool := by
  refine Except.foldlM_induction (fun selection => ∀ entry ∈ selection.entries, entry ∈ pool) ?_
    (fun _ member => absurd member List.not_mem_nil) resolved
  intro selection name next fromPool resolved entry member
  cases found : Entry.named? name pool with
  | none => rw [found] at resolved; cases resolved
  | some named =>
    rw [found] at resolved
    cases resolved
    rcases mem_insert member with rfl | member
    · exact Entry.mem_of_named? found
    · exact fromPool entry member

theorem ofNames_singleton (found : Entry.named? name pool = some entry) : ofNames pool [name] = .ok ⟨[entry]⟩ := by
  rw [ofNames, List.foldlM_cons, found]
  rfl

end Selection

end ItemQuery
