import ItemQuery.Failure
import ItemQuery.Proofs.Except
import ItemQuery.Proofs.Text.Join

/-! Fragments by key: which keys a source knows, and the fragment it has for each of them. -/

set_option autoImplicit false

namespace ItemQuery.FragmentSource

variable {source : FragmentSource} {key : String} {keys fragments : List String}

def Knows (source : FragmentSource) (key : String) : Prop := ∃ fragment, source key = .ok fragment

instance (source : FragmentSource) (key : String) : Decidable (source.Knows key) :=
  match found : source key with
  | .ok fragment => .isTrue ⟨fragment, found⟩
  | .error _ => .isFalse fun ⟨_, known⟩ => nomatch found.symm.trans known

/-- The fragment under a key, nothing under a key without one. -/
def textOf (source : FragmentSource) (key : String) : String :=
  match source key with
  | .ok fragment => fragment
  | .error _ => ""

theorem textOf_eq {fragment : String} (found : source key = .ok fragment) : source.textOf key = fragment := by
  simp only [textOf, found]

theorem Knows.ok (known : source.Knows key) : source key = .ok (source.textOf key) := by
  obtain ⟨fragment, found⟩ := known
  rw [found, textOf_eq found]

theorem mapM_eq_ok_iff :
    keys.mapM source = .ok fragments ↔ (∀ key ∈ keys, source.Knows key) ∧ fragments = keys.map source.textOf := by
  induction keys generalizing fragments with
  | nil =>
    rw [Except.mapM_nil_eq_ok_iff]
    exact ⟨fun same => ⟨nofun, same⟩, fun both => both.2⟩
  | cons key rest ih =>
    rw [Except.mapM_cons_eq_ok_iff, List.forall_mem_cons]
    constructor
    · rintro ⟨fragment, others, found, foundAll, rfl⟩
      obtain ⟨known, rfl⟩ := ih.mp foundAll
      exact ⟨⟨⟨fragment, found⟩, known⟩, by rw [List.map_cons, textOf_eq found]⟩
    · rintro ⟨⟨known, knownAll⟩, rfl⟩
      exact ⟨_, _, known.ok, ih.mpr ⟨knownAll, rfl⟩, rfl⟩

theorem mapM_eq_error_iff {cause : CatalogError} :
    keys.mapM source = .error cause ↔ ∃ key, keys.find? (¬source.Knows ·) = some key ∧ source key = .error cause :=
  Except.mapM_eq_error_iff fun key => by rw [decide_eq_false_iff_not, Decidable.not_not, Knows]

def joined (source : FragmentSource) (keys : List String) : List Char :=
  Text.join '|' (keys.map fun key => (source.textOf key).toList)

theorem length_separated (source : FragmentSource) (keys : List String) :
    ((keys.map fun key => (source.textOf key).toList).flatMap ('|' :: ·)).length =
      (keys.map fun key => 1 + (source.textOf key).length).sum := by
  rw [Text.length_flatMap_separator, List.map_map]
  rfl

theorem length_joined (source : FragmentSource) (keys : List String) :
    (source.joined keys).length = (keys.map fun key => 1 + (source.textOf key).length).sum - 1 := by
  cases keys with
  | nil => rfl
  | cons key rest =>
    rw [joined, List.map_cons, Text.join_cons, List.length_append, length_separated, List.map_cons, List.sum_cons,
      String.length_toList]
    omega

theorem length_joined_append (source : FragmentSource) {first : List String} (nonempty : first ≠ [])
    (second : List String) :
    (source.joined (first ++ second)).length =
      (source.joined first).length + (second.map fun key => 1 + (source.textOf key).length).sum := by
  have some : (first.map fun key => (source.textOf key).toList) ≠ [] := by simpa using nonempty
  rw [joined, List.map_append, Text.join_append some, List.length_append, length_separated, joined]

end ItemQuery.FragmentSource
