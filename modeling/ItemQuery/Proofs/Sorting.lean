import ItemQuery.Sorting

/-! Laws of the stable sort under a comparison that orders all items, ties allowed.

It is the library's stable merge sort, and it commutes with leaving items out.
-/

set_option autoImplicit false

namespace ItemQuery.Sorting

variable {α : Type} {cmp : α → α → Ordering}

@[simp] theorem sort_nil : sort cmp [] = [] := rfl

@[simp] theorem sort_cons (item : α) (rest : List α) : sort cmp (item :: rest) = insert cmp item (sort cmp rest) := rfl

theorem mem_insert {new item : α} {items : List α} : item ∈ insert cmp new items ↔ item = new ∨ item ∈ items :=
  (insert_perm cmp new items).mem_iff.trans List.mem_cons

@[simp] theorem mem_sort {item : α} {items : List α} : item ∈ sort cmp items ↔ item ∈ items :=
  (sort_perm cmp items).mem_iff

theorem sort_eq_nil_iff {items : List α} : sort cmp items = [] ↔ items = [] := by
  rw [← List.length_eq_zero_iff, (sort_perm cmp items).length_eq, List.length_eq_zero_iff]

/-- Where an item goes: behind all that are strictly ahead, in front of the first that is not. -/
theorem insert_between {new : α} {ahead behind : List α} (after : ∀ item ∈ ahead, cmp new item = .gt)
    (before : ∀ item ∈ behind, (cmp new item).isLE) :
    insert cmp new (ahead ++ behind) = ahead ++ new :: behind := by
  induction ahead with
  | nil =>
    cases behind with
    | nil => rfl
    | cons item rest =>
      have notAfter : cmp new item ≠ .gt := Ordering.isLE_iff_ne_gt.mp (before item List.mem_cons_self)
      simp [insert, notAfter]
  | cons item rest ih =>
    have strictly : cmp new item = .gt := after item List.mem_cons_self
    simp only [List.cons_append, insert, if_pos strictly]
    rw [ih fun other member => after other (List.mem_cons_of_mem item member)]

/-- The first of the items that nothing is strictly ahead of. -/
def IsFirst (cmp : α → α → Ordering) (items : List α) (item : α) : Prop :=
  ∃ ahead behind, items = ahead ++ item :: behind ∧
    (∀ other ∈ ahead, cmp item other = .lt) ∧ ∀ other ∈ behind, (cmp item other).isLE

/-- The last of the items that are strictly ahead of nothing. -/
def IsLast (cmp : α → α → Ordering) (items : List α) (item : α) : Prop :=
  ∃ ahead behind, items = ahead ++ item :: behind ∧
    (∀ other ∈ ahead, (cmp other item).isLE) ∧ ∀ other ∈ behind, cmp other item = .lt

theorem IsFirst.mem {items : List α} {item : α} (first : IsFirst cmp items item) : item ∈ items := by
  obtain ⟨ahead, behind, rfl, _⟩ := first
  simp

theorem IsLast.mem {items : List α} {item : α} (last : IsLast cmp items item) : item ∈ items := by
  obtain ⟨ahead, behind, rfl, _⟩ := last
  simp

theorem IsFirst.head? {items : List α} {item : α} (first : IsFirst cmp items item)
    (equal : ∀ other ∈ items, cmp item other = .eq) : items.head? = some item := by
  obtain ⟨ahead, behind, rfl, strictly, _⟩ := first
  cases ahead with
  | nil => rfl
  | cons other rest =>
    have same := equal other List.mem_cons_self
    rw [strictly other List.mem_cons_self] at same
    cases same

theorem IsLast.getLast? {items : List α} {item : α} (last : IsLast cmp items item)
    (equal : ∀ other ∈ items, cmp other item = .eq) : items.getLast? = some item := by
  obtain ⟨ahead, behind, rfl, _, strictly⟩ := last
  cases behind with
  | nil => exact List.getLast?_concat
  | cons other rest =>
    have same := equal other (by simp)
    rw [strictly other List.mem_cons_self] at same
    cases same

/-- Items that are kept only behind others that are kept stand in front of all that are left out. -/
theorem filter_append_of_front {keep : α → Bool} {items : List α}
    (front : items.Pairwise fun ahead behind => keep behind → keep ahead) :
    items.filter keep ++ items.filter (!keep ·) = items := by
  induction items with
  | nil => rfl
  | cons item rest ih =>
    obtain ⟨first, tail⟩ := List.pairwise_cons.mp front
    cases kept : keep item with
    | true => simpa [kept] using ih tail
    | false =>
      have left : ∀ other ∈ rest, keep other = false := fun other member =>
        Bool.eq_false_iff.mpr fun keptOther => Bool.false_ne_true (kept.symm.trans (first other member keptOther))
      have none : rest.filter keep = [] := List.filter_eq_nil_iff.mpr (by simpa using left)
      have all : rest.filter (!keep ·) = rest := List.filter_eq_self.mpr (by simpa using left)
      simp [kept, none, all]

/-- The items ordered by their keys, those of one key in the order that they were in before. -/
structure Arranged {κ : Type} [DecidableEq κ] (key : α → κ) (ahead : κ → κ → Prop) (items arranged : List α) : Prop where
  perm : arranged.Perm items
  ordered : arranged.Pairwise fun first second => ahead (key first) (key second)
  ties : ∀ value, arranged.filter (key · = value) = items.filter (key · = value)

/-- What a sort asks of a comparison: it orders all items, and those that compare equal are interchangeable to it. -/
structure TotalPreorder (cmp : α → α → Ordering) : Prop where
  refl (item : α) : cmp item item = .eq
  reversed (first second : α) : cmp second first = (cmp first second).swap
  isLE_trans {first second third : α} :
    (cmp first second).isLE → (cmp second third).isLE → (cmp first third).isLE
  lt_trans {first second third : α} : cmp first second = .lt → cmp second third = .lt → cmp first third = .lt
  eq_trans {first second third : α} : cmp first second = .eq → cmp second third = .eq → cmp first third = .eq

section Ordered

variable [Std.TransCmp cmp]

theorem totalPreorder : TotalPreorder cmp where
  refl _ := Std.ReflCmp.compare_self
  reversed _ _ := Std.OrientedCmp.eq_swap
  isLE_trans := Std.TransCmp.isLE_trans
  lt_trans := Std.TransCmp.lt_trans
  eq_trans := Std.TransCmp.eq_trans

theorem insert_pairwise (new : α) {items : List α} (sorted : items.Pairwise fun a b => (cmp a b).isLE) :
    (insert cmp new items).Pairwise fun a b => (cmp a b).isLE := by
  induction items with
  | nil => simp [insert]
  | cons item rest ih =>
    obtain ⟨first, tail⟩ := List.pairwise_cons.mp sorted
    by_cases later : cmp new item = .gt
    · rw [insert, if_pos later]
      refine List.pairwise_cons.mpr ⟨?_, ih tail⟩
      intro other member
      rcases mem_insert.mp member with rfl | member
      · exact Ordering.isLE_of_eq_lt (Std.OrientedCmp.lt_of_gt later)
      · exact first other member
    · rw [insert, if_neg later]
      have ahead : (cmp new item).isLE := Ordering.isLE_iff_ne_gt.mpr later
      refine List.pairwise_cons.mpr ⟨?_, sorted⟩
      intro other member
      rcases List.mem_cons.mp member with rfl | member
      · exact ahead
      · exact Std.TransCmp.isLE_trans ahead (first other member)

theorem sort_pairwise (items : List α) : (sort cmp items).Pairwise fun a b => (cmp a b).isLE := by
  induction items with
  | nil => exact .nil
  | cons item rest ih => exact insert_pairwise item ih

theorem sort_eq_mergeSort (items : List α) : sort cmp items = items.mergeSort fun a b => (cmp a b).isLE := by
  induction items with
  | nil => simp
  | cons item rest ih =>
    have trans : ∀ a b c : α, (cmp a b).isLE → (cmp b c).isLE → (cmp a c).isLE :=
      fun _ _ _ => Std.TransCmp.isLE_trans
    have total : ∀ a b : α, (cmp a b).isLE || (cmp b a).isLE := fun a b => by
      have swap : cmp b a = (cmp a b).swap := Std.OrientedCmp.eq_swap
      rw [swap]
      cases cmp a b <;> rfl
    obtain ⟨ahead, behind, whole, others, strictly⟩ := List.mergeSort_cons trans total item rest
    have sorted := List.pairwise_mergeSort trans total (item :: rest)
    rw [whole] at sorted
    have tail := (List.pairwise_append.mp sorted).2.1
    rw [sort_cons, ih, others, whole]
    refine insert_between ?_ (List.pairwise_cons.mp tail).1
    intro other member
    have notBefore := strictly other member
    cases order : cmp item other <;> simp_all

theorem insert_filter (keep : α → Bool) (new : α) {items : List α}
    (sorted : items.Pairwise fun a b => (cmp a b).isLE) :
    (insert cmp new items).filter keep =
      if keep new then insert cmp new (items.filter keep) else items.filter keep := by
  induction items with
  | nil => cases kept : keep new <;> simp [insert, kept]
  | cons item rest ih =>
    obtain ⟨first, tail⟩ := List.pairwise_cons.mp sorted
    by_cases later : cmp new item = .gt
    · cases keptItem : keep item <;> cases keptNew : keep new <;>
        simp [insert, later, keptItem, keptNew, ih tail]
    · have ahead : (cmp new item).isLE := Ordering.isLE_iff_ne_gt.mpr later
      have front : ∀ other ∈ (item :: rest).filter keep, (cmp new other).isLE := by
        intro other member
        rcases List.mem_cons.mp (List.mem_filter.mp member).1 with rfl | member
        · exact ahead
        · exact Std.TransCmp.isLE_trans ahead (first other member)
      have placed : insert cmp new ((item :: rest).filter keep) = new :: (item :: rest).filter keep :=
        @insert_between α cmp new [] _ (fun _ member => absurd member List.not_mem_nil) front
      rw [placed, insert, if_neg later]
      cases keptNew : keep new <;> simp [keptNew]

theorem sort_filter (keep : α → Bool) (items : List α) :
    (sort cmp items).filter keep = sort cmp (items.filter keep) := by
  induction items with
  | nil => rfl
  | cons item rest ih =>
    rw [sort_cons, insert_filter keep item (sort_pairwise rest), ih]
    cases kept : keep item <;> simp [kept]

theorem mem_iff_of_ties {first second : List α}
    (ties : ∀ item, first.filter (cmp item · == .eq) = second.filter (cmp item · == .eq)) {item : α} :
    item ∈ first ↔ item ∈ second := by
  have tied : ∀ items : List α, item ∈ items ↔ item ∈ items.filter (cmp item · == .eq) := by
    simp [Std.ReflCmp.compare_self]
  rw [tied first, tied second, ties item]

/-- Sorted lists are the same when items that compare equal stand in the same order in both. -/
theorem eq_of_ties {first second : List α} (sortedFirst : first.Pairwise fun a b => (cmp a b).isLE)
    (sortedSecond : second.Pairwise fun a b => (cmp a b).isLE)
    (ties : ∀ item, first.filter (cmp item · == .eq) = second.filter (cmp item · == .eq)) : first = second := by
  induction first generalizing second with
  | nil => exact (List.eq_nil_iff_forall_not_mem.mpr fun _ member => nomatch (mem_iff_of_ties ties).mpr member).symm
  | cons item rest ih =>
    cases second with
    | nil => cases (mem_iff_of_ties ties).mp List.mem_cons_self
    | cons other others =>
      obtain ⟨ahead, tail⟩ := List.pairwise_cons.mp sortedFirst
      obtain ⟨aheadOther, tailOther⟩ := List.pairwise_cons.mp sortedSecond
      -- Each of the two first items is in both lists, so neither is strictly ahead of the other.
      have equal : cmp item other = .eq := by
        rcases List.mem_cons.mp ((mem_iff_of_ties ties).mpr List.mem_cons_self) with rfl | member
        · exact Std.ReflCmp.compare_self
        · rcases List.mem_cons.mp ((mem_iff_of_ties ties).mp List.mem_cons_self) with rfl | memberOther
          · exact Std.ReflCmp.compare_self
          · exact Std.OrientedCmp.isLE_antisymm (ahead other member) (aheadOther item memberOther)
      have heads := ties item
      rw [List.filter_cons_of_pos (by simp [Std.ReflCmp.compare_self]), List.filter_cons_of_pos (by simp [equal])] at heads
      obtain ⟨rfl, _⟩ := List.cons.inj heads
      have tiesTail : ∀ tied, rest.filter (cmp tied · == .eq) = others.filter (cmp tied · == .eq) := by
        intro tied
        have whole := ties tied
        rw [List.filter_cons, List.filter_cons] at whole
        split at whole
        · exact (List.cons.inj whole).2
        · exact whole
      rw [ih tail tailOther tiesTail]

/-- What a stable sort gives depends on the items and on the order of those that compare equal, on nothing else. -/
theorem sort_eq_of_ties {first second : List α}
    (ties : ∀ item, first.filter (cmp item · == .eq) = second.filter (cmp item · == .eq)) :
    sort cmp first = sort cmp second := by
  refine eq_of_ties (sort_pairwise first) (sort_pairwise second) fun item => ?_
  rw [sort_filter, sort_filter, ties item]

theorem sort_eq_self {items : List α} (sorted : items.Pairwise fun a b => (cmp a b).isLE) : sort cmp items = items := by
  rw [sort_eq_mergeSort, List.mergeSort_of_pairwise sorted]

theorem sort_filter_tied {keep : α → Bool} (items : List α)
    (tied : ∀ first second, keep first = true → keep second = true → cmp first second = .eq) :
    (sort cmp items).filter keep = items.filter keep := by
  rw [sort_filter]
  refine sort_eq_self (List.pairwise_of_forall_mem_list fun first memberFirst second memberSecond => ?_)
  exact Ordering.isLE_of_eq_eq (tied first second (List.mem_filter.mp memberFirst).2 (List.mem_filter.mp memberSecond).2)

theorem sort_filter_ties (items : List α) (item : α) :
    (sort cmp items).filter (cmp item · == .eq) = items.filter (cmp item · == .eq) :=
  sort_filter_tied items fun _ _ tiedFirst tiedSecond =>
    Std.TransCmp.eq_trans (Std.OrientedCmp.eq_symm (eq_of_beq tiedFirst)) (eq_of_beq tiedSecond)

/-- What holds of items in their order still holds, after sorting, of those that compare equal. -/
theorem sort_pairwise_ties {related : α → α → Prop} {items : List α} (before : items.Pairwise related) :
    (sort cmp items).Pairwise fun first second => cmp first second = .eq → related first second := by
  rw [List.pairwise_iff_forall_sublist]
  intro first second both tied
  have kept := both.filter (cmp first · == .eq)
  rw [sort_filter_ties, List.filter_eq_self.mpr (by simp [tied, Std.ReflCmp.compare_self])] at kept
  exact List.pairwise_iff_forall_sublist.mp before (kept.trans List.filter_sublist)

section Keys

variable {κ : Type} [DecidableEq κ] {key : α → κ}
  (equal : ∀ first second, cmp first second = .eq ↔ key first = key second)

include equal

theorem sort_filter_key (items : List α) (value : κ) :
    (sort cmp items).filter (key · = value) = items.filter (key · = value) :=
  sort_filter_tied items fun first second keyFirst keySecond =>
    (equal first second).mpr ((of_decide_eq_true keyFirst).trans (of_decide_eq_true keySecond).symm)

/-- There is one way to arrange items, and the stable sort finds it. -/
theorem arranged_iff {ahead : κ → κ → Prop} {items arranged : List α}
    (before : ∀ first second, (cmp first second).isLE ↔ ahead (key first) (key second)) :
    Arranged key ahead items arranged ↔ arranged = sort cmp items := by
  constructor
  · intro arrangement
    refine eq_of_ties (arrangement.ordered.imp (before _ _).mpr) (sort_pairwise items) fun item => ?_
    have tied (list : List α) : list.filter (cmp item · == .eq) = list.filter (key · = key item) := by
      refine List.filter_congr fun other _ => ?_
      rw [Bool.eq_iff_iff, beq_iff_eq, decide_eq_true_iff, equal]
      exact eq_comm
    rw [tied, tied, arrangement.ties, sort_filter_key equal]
  · rintro rfl
    exact ⟨sort_perm cmp items, (sort_pairwise items).imp (before _ _).mp, sort_filter_key equal items⟩

end Keys

theorem IsFirst.isLE {items : List α} {item other : α} (first : IsFirst cmp items item) (member : other ∈ items) :
    (cmp item other).isLE := by
  obtain ⟨ahead, behind, rfl, strictly, weakly⟩ := first
  rcases List.mem_append.mp member with member | member
  · exact Ordering.isLE_of_eq_lt (strictly other member)
  · rcases List.mem_cons.mp member with rfl | member
    · exact Ordering.isLE_of_eq_eq Std.ReflCmp.compare_self
    · exact weakly other member

theorem IsLast.isLE {items : List α} {item other : α} (last : IsLast cmp items item) (member : other ∈ items) :
    (cmp other item).isLE := by
  obtain ⟨ahead, behind, rfl, weakly, strictly⟩ := last
  rcases List.mem_append.mp member with member | member
  · exact weakly other member
  · rcases List.mem_cons.mp member with rfl | member
    · exact Ordering.isLE_of_eq_eq Std.ReflCmp.compare_self
    · exact Ordering.isLE_of_eq_lt (strictly other member)

theorem head?_insert {new first : α} {items : List α} (sorted : items.Pairwise fun a b => (cmp a b).isLE)
    (found : (insert cmp new items).head? = some first) :
    (first = new ∧ ∀ item ∈ items, (cmp new item).isLE) ∨ (items.head? = some first ∧ cmp first new = .lt) := by
  cases items with
  | nil => cases found; exact Or.inl ⟨rfl, nofun⟩
  | cons item rest =>
    rw [insert] at found
    split at found
    · next later => cases found; exact Or.inr ⟨rfl, Std.OrientedCmp.lt_of_gt later⟩
    · next ahead =>
      cases found
      have before : (cmp new item).isLE := Ordering.isLE_iff_ne_gt.mpr ahead
      refine Or.inl ⟨rfl, List.forall_mem_cons.mpr ⟨before, fun other member => ?_⟩⟩
      exact Std.TransCmp.isLE_trans before ((List.pairwise_cons.mp sorted).1 other member)

theorem getLast?_insert {new last : α} {items : List α} (sorted : items.Pairwise fun a b => (cmp a b).isLE)
    (found : (insert cmp new items).getLast? = some last) :
    (last = new ∧ ∀ item ∈ items, cmp item new = .lt) ∨ (items.getLast? = some last ∧ (cmp new last).isLE) := by
  induction items with
  | nil => cases found; exact Or.inl ⟨rfl, nofun⟩
  | cons item rest ih =>
    obtain ⟨first, tail⟩ := List.pairwise_cons.mp sorted
    rw [insert] at found
    split at found
    · next later =>
      -- The last item is then the last behind the first one, where the new item is at least.
      have nonempty : insert cmp new rest ≠ [] := by
        intro none
        have member : new ∈ insert cmp new rest := mem_insert.mpr (Or.inl rfl)
        rw [none] at member
        cases member
      rw [List.getLast?_cons_of_ne_nil nonempty] at found
      rcases ih tail found with ⟨same, ahead⟩ | ⟨same, before⟩
      · exact Or.inl ⟨same, List.forall_mem_cons.mpr ⟨Std.OrientedCmp.lt_of_gt later, ahead⟩⟩
      · have some : rest ≠ [] := by rintro rfl; cases same
        exact Or.inr ⟨(List.getLast?_cons_of_ne_nil some).trans same, before⟩
    · next ahead =>
      rw [List.getLast?_cons_of_ne_nil (List.cons_ne_nil item rest)] at found
      have before : (cmp new item).isLE := Ordering.isLE_iff_ne_gt.mpr ahead
      refine Or.inr ⟨found, ?_⟩
      rcases List.mem_cons.mp (List.mem_of_getLast? found) with rfl | member
      · exact before
      · exact Std.TransCmp.isLE_trans before (first last member)

theorem isFirst_of_head?_sort {first : α} {items : List α} (found : (sort cmp items).head? = some first) :
    IsFirst cmp items first := by
  induction items with
  | nil => cases found
  | cons item rest ih =>
    rcases head?_insert (sort_pairwise rest) found with ⟨rfl, ahead⟩ | ⟨foundLater, ahead⟩
    · exact ⟨[], rest, rfl, nofun, fun other member => ahead other (mem_sort.mpr member)⟩
    · obtain ⟨before, after, rfl, strictly, behind⟩ := ih foundLater
      exact ⟨item :: before, after, rfl, List.forall_mem_cons.mpr ⟨ahead, strictly⟩, behind⟩

theorem isLast_of_getLast?_sort {last : α} {items : List α} (found : (sort cmp items).getLast? = some last) :
    IsLast cmp items last := by
  induction items with
  | nil => cases found
  | cons item rest ih =>
    rcases getLast?_insert (sort_pairwise rest) found with ⟨rfl, ahead⟩ | ⟨foundLater, ahead⟩
    · exact ⟨[], rest, rfl, nofun, fun other member => ahead other (mem_sort.mpr member)⟩
    · obtain ⟨before, after, rfl, weakly, behind⟩ := ih foundLater
      exact ⟨item :: before, after, rfl, List.forall_mem_cons.mpr ⟨ahead, weakly⟩, behind⟩

end Ordered

end ItemQuery.Sorting
