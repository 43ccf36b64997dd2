import Mathlib.Data.List.Induction
import Mathlib.Data.List.Nodup
import ItemQuery.Keyed.Index
import ItemQuery.Proofs.Found
import ItemQuery.Proofs.Repetitions

/-! What an ordered table holds: of each key the last item, at the place of the first. -/

set_option autoImplicit false

namespace ItemQuery.Keyed

variable {α κ : Type} [DecidableEq κ] {key : α → κ}

theorem mem_of_mem_put {new item : α} {table : List α} (member : item ∈ put key new table) :
    item = new ∨ item ∈ table := by
  induction table with
  | nil => exact Or.inl (List.mem_singleton.mp member)
  | cons first rest ih =>
    rw [put] at member
    split at member
    · rcases List.mem_cons.mp member with same | member
      · exact Or.inl same
      · exact Or.inr (List.mem_cons_of_mem first member)
    · rcases List.mem_cons.mp member with rfl | member
      · exact Or.inr List.mem_cons_self
      · exact (ih member).imp_right (List.mem_cons_of_mem first)

theorem mem_of_mem_puts {items table : List α} {item : α}
    (member : item ∈ items.foldl (fun table item => put key item table) table) : item ∈ table ∨ item ∈ items := by
  induction items generalizing table with
  | nil => exact Or.inl member
  | cons first rest ih =>
    rcases ih member with member | member
    · rcases mem_of_mem_put member with rfl | member
      · exact Or.inr List.mem_cons_self
      · exact Or.inl member
    · exact Or.inr (List.mem_cons_of_mem first member)

theorem mem_of_mem_ofList {items : List α} {item : α} (member : item ∈ ofList key items) : item ∈ items :=
  (mem_of_mem_puts member).resolve_left List.not_mem_nil

theorem mem_of_get?_eq_some {wanted : κ} {table : List α} {item : α} (found : get? key wanted table = some item) :
    item ∈ table := by
  induction table with
  | nil => cases found
  | cons first rest ih =>
    rw [get?] at found
    split at found
    · cases found
      exact List.mem_cons_self
    · exact List.mem_cons_of_mem first (ih found)

theorem key_of_get?_eq_some {wanted : κ} {table : List α} {item : α} (found : get? key wanted table = some item) :
    key item = wanted := by
  induction table with
  | nil => cases found
  | cons first rest ih =>
    rw [get?] at found
    split at found
    · next same => cases found; exact same
    · exact ih found

theorem get?_eq_none_iff {wanted : κ} {table : List α} : get? key wanted table = none ↔ wanted ∉ table.map key := by
  induction table with
  | nil => simp [get?]
  | cons first rest ih =>
    by_cases same : key first = wanted
    · simp [get?, same]
    · rw [get?, if_neg same, ih, List.map_cons, List.mem_cons, or_iff_right (Ne.symm same)]

theorem get?_of_mem {wanted : κ} {table : List α} {item : α} (distinct : (table.map key).Nodup)
    (member : item ∈ table) (same : key item = wanted) : get? key wanted table = some item := by
  cases found : get? key wanted table with
  | none => exact absurd (List.mem_map.mpr ⟨item, member, same⟩) (get?_eq_none_iff.mp found)
  | some other =>
    rw [List.inj_on_of_nodup_map distinct (mem_of_get?_eq_some found) member
      ((key_of_get?_eq_some found).trans same.symm)]

theorem get?_map {β : Type} {other : β → κ} {f : α → β} (same : ∀ item, other (f item) = key item) (wanted : κ)
    (table : List α) : get? other wanted (table.map f) = (get? key wanted table).map f := by
  induction table with
  | nil => rfl
  | cons item rest ih => simp only [List.map_cons, get?, same, ih, apply_ite (Option.map f), Option.map_some]

/-- Where each key stands once, the order of the items has no say in what is found. -/
theorem get?_eq_of_perm {order table : List α} (distinct : (table.map key).Nodup) (perm : order.Perm table) (wanted : κ) :
    get? key wanted order = get? key wanted table := by
  cases found : get? key wanted table with
  | none => exact get?_eq_none_iff.mpr (mt (perm.map key).mem_iff.mp (get?_eq_none_iff.mp found))
  | some item =>
    exact get?_of_mem ((perm.map key).nodup_iff.mpr distinct) (perm.mem_iff.mpr (mem_of_get?_eq_some found))
      (key_of_get?_eq_some found)

section Put

variable {new : α} {table : List α}

theorem put_of_not_mem (absent : key new ∉ table.map key) : put key new table = table ++ [new] := by
  induction table with
  | nil => rfl
  | cons item rest ih =>
    rw [List.map_cons, List.mem_cons, not_or] at absent
    rw [put, if_neg (Ne.symm absent.1), ih absent.2, List.cons_append]

theorem put_eq_set (distinct : (table.map key).Nodup) {position : Nat} {item : α} (there : table[position]? = some item)
    (same : key item = key new) : put key new table = table.set position new := by
  induction table generalizing position with
  | nil => cases there
  | cons first rest ih =>
    obtain ⟨sole, distinctRest⟩ := List.nodup_cons.mp distinct
    cases position with
    | zero =>
      cases there
      rw [put, if_pos same, List.set_cons_zero]
    | succ position =>
      have later : rest[position]? = some item := there
      have other : key first ≠ key new := fun clash =>
        sole (List.mem_map.mpr ⟨item, List.mem_of_getElem? later, same.trans clash.symm⟩)
      rw [put, if_neg other, List.set_cons_succ, ih distinctRest later]

theorem keys_put (new : α) (table : List α) : (put key new table).map key =
    if key new ∈ table.map key then table.map key else table.map key ++ [key new] := by
  split
  · next listed =>
    induction table with
    | nil => cases listed
    | cons item rest ih =>
      by_cases same : key item = key new
      · rw [put, if_pos same, List.map_cons, List.map_cons, same]
      · have later := (List.mem_cons.mp listed).resolve_left (Ne.symm same)
        rw [put, if_neg same, List.map_cons, List.map_cons, ih later]
  · next absent => rw [put_of_not_mem absent, List.map_append, List.map_singleton]

end Put

section OfList

theorem ofList_concat (items : List α) (new : α) : ofList key (items ++ [new]) = put key new (ofList key items) := by
  rw [ofList, List.foldl_append]
  rfl

/-- Each key stands where it is first met. -/
theorem keys_ofList (items : List α) : (ofList key items).map key = (items.map key).eraseDups := by
  induction items using List.reverseRecOn with
  | nil => rfl
  | append_singleton items new ih =>
    rw [ofList_concat, keys_put, ih, List.map_append, List.map_singleton]
    by_cases met : key new ∈ items.map key
    · rw [if_pos (List.mem_eraseDups.mpr met), List.eraseDups_concat_of_mem met]
    · rw [if_neg (mt List.mem_eraseDups.mp met), List.eraseDups_concat_of_not_mem met]

theorem nodup_keys_ofList (items : List α) : ((ofList key items).map key).Nodup := by
  rw [keys_ofList]
  exact List.nodup_eraseDups _

/-- What is found under a key is the last item of that key. -/
theorem get?_ofList (wanted : κ) (items : List α) :
    get? key wanted (ofList key items) = (items.filter (key · = wanted)).getLast? := by
  induction items using List.reverseRecOn with
  | nil => rfl
  | append_singleton items new ih =>
    rw [ofList_concat, List.filter_append]
    by_cases same : key new = wanted
    · subst same
      rw [get?_put_self, List.filter_cons_of_pos (by simp), List.filter_nil, List.getLast?_concat]
    · rw [get?_put_of_ne key new _ same, ih, List.filter_cons_of_neg (by simpa using same), List.filter_nil,
        List.append_nil]

theorem get?_ofList_eq_some_iff {wanted : κ} {items : List α} {item : α} :
    get? key wanted (ofList key items) = some item ↔
      key item = wanted ∧ ∃ before after, items = before ++ item :: after ∧ ∀ other ∈ after, key other ≠ wanted := by
  rw [get?_ofList, List.getLast?_filter, find?_reverse_eq_some_iff]
  simp only [decide_eq_true_eq, decide_eq_false_iff_not, ne_eq]

/-- The table has the items that are the last of their keys. -/
theorem mem_ofList_iff {items : List α} {item : α} : item ∈ ofList key items ↔
    ∃ before after, items = before ++ item :: after ∧ ∀ other ∈ after, key other ≠ key item := by
  have found : get? key (key item) (ofList key items) = some item ↔ item ∈ ofList key items :=
    ⟨mem_of_get?_eq_some, fun member => get?_of_mem (nodup_keys_ofList items) member rfl⟩
  rw [← found, get?_ofList_eq_some_iff, and_iff_right rfl]

theorem ofList_eq_self {items : List α} (distinct : (items.map key).Nodup) : ofList key items = items := by
  induction items using List.reverseRecOn with
  | nil => rfl
  | append_singleton items new ih =>
    rw [List.map_append, List.map_singleton, List.nodup_append] at distinct
    obtain ⟨distinctItems, _, apart⟩ := distinct
    rw [ofList_concat, ih distinctItems]
    exact put_of_not_mem fun member => apart _ member _ List.mem_cons_self rfl

theorem ofList_map {β : Type} {other : β → κ} {f : α → β} (same : ∀ item, other (f item) = key item) (items : List α) :
    ofList other (items.map f) = (ofList key items).map f := by
  have putMap (new : α) (table : List α) : put other (f new) (table.map f) = (put key new table).map f := by
    induction table with
    | nil => rfl
    | cons item rest ih => simp only [List.map_cons, put, same, ih, apply_ite (List.map f)]
  induction items using List.reverseRecOn with
  | nil => rfl
  | append_singleton items new ih => rw [List.map_append, List.map_singleton, ofList_concat, ofList_concat, ih, putMap]

end OfList

section Beside

variable {β : Type} {other : β → κ} {Beside : α → β → Prop} {first : List α} {second : List β}

/-- Tables with the same keys agree item by item when they agree under each key. -/
theorem forall₂_of_get? (keys : first.map key = second.map other) (distinct : (first.map key).Nodup)
    (found : ∀ item ∈ first, ∃ beside, get? other (key item) second = some beside ∧ Beside item beside) :
    List.Forall₂ Beside first second := by
  induction first generalizing second with
  | nil =>
    cases second with
    | nil => exact .nil
    | cons beside rest => cases keys
  | cons item rest ih =>
    cases second with
    | nil => cases keys
    | cons beside others =>
      obtain ⟨same, keys⟩ := List.cons.inj keys
      obtain ⟨sole, distinct⟩ := List.nodup_cons.mp distinct
      obtain ⟨here, later⟩ := List.forall_mem_cons.mp found
      obtain ⟨_, isFound, holds⟩ := here
      rw [get?, if_pos same.symm] at isFound
      cases isFound
      refine .cons holds (ih keys distinct fun next member => ?_)
      obtain ⟨beside, isFound, holds⟩ := later next member
      have apart : other _ ≠ key next := fun clash => sole (List.mem_map.mpr ⟨next, member, clash.symm.trans same.symm⟩)
      rw [get?, if_neg apart] at isFound
      exact ⟨beside, isFound, holds⟩

end Beside

end ItemQuery.Keyed
