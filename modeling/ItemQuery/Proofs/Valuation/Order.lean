import ItemQuery.Proofs.Binary64.Order
import ItemQuery.Proofs.Supplement.Cutoff
import ItemQuery.Proofs.Valuation.Appraisal

/-! The comparisons that entries and categories are sorted by.

Both are total preorders over all bit patterns, so that sorting by them is well defined. The
floor of a supplement is a numeric test and the sort goes by the total order. They fit
together, since among values above the floor the two orders are the same.
-/

set_option autoImplicit false

namespace ItemQuery

namespace Entry

open Supplement (floor)

theorem byValue_of_exceeds {first second : Entry} (above : first.value.exceeds floor)
    (number : second.value.isNaN = false) (within : second.value.exceeds floor = false) :
    byValue first second = .lt :=
  Binary64.totalCompare_lt_iff.mpr (Binary64.below_of_exceeds (Binary64.exceeds_of_exceeds above number within))

/-- In front of an entry above the floor stand no numbers but those above it. -/
theorem sort_front (pool : List Entry) :
    (sort pool).Pairwise fun ahead behind =>
      behind.value.exceeds floor → ahead.value.isNaN = false → ahead.value.exceeds floor := by
  have sorted : (sort pool).Pairwise fun ahead behind => (byValue ahead behind).isLE := Sorting.sort_pairwise pool
  refine sorted.imp fun {ahead behind} ordered above number => ?_
  by_contra within
  have before : byValue behind ahead = .lt := byValue_of_exceeds above number (Bool.eq_false_iff.mpr within)
  have after : byValue ahead behind = .gt := Std.OrientedCmp.gt_of_lt before
  rw [after] at ordered
  cases ordered

end Entry

namespace Pricing

open Supplement (floor)

/-- Entries and worths are sorted by total preorders that agree where both have a value, what has none coming last.
The order on values is the total order, and above the floor it is the numeric one, so that entries worth more than the
floor come before all other numbers. -/
theorem orders_by_value :
    Sorting.TotalPreorder Entry.byValue ∧ Sorting.TotalPreorder compareDesc ∧
    (∀ value, (resolved value).compareDesc unresolved = .lt ∧ unresolved.compareDesc (resolved value) = .gt) ∧
    (∀ first second : Entry,
      (resolved first.value).compareDesc (resolved second.value) = first.byValue second) ∧
    (∀ x y : Binary64, x.totalCompare y = .lt ↔ x.Below y) ∧
    (∀ x y : Binary64, x.exceeds floor → y.exceeds floor →
      (x.totalCompare y = .lt ↔ y.exceeds x) ∧ (x.totalCompare y = .eq ↔ x.value? = y.value?)) ∧
    (∀ first second : Entry, first.value.exceeds floor → second.value.isNaN = false →
      second.value.exceeds floor = false → first.byValue second = .lt) ∧
    ∀ pool, (Entry.sort pool).Pairwise fun ahead behind =>
      behind.value.exceeds floor → ahead.value.isNaN = false → ahead.value.exceeds floor := by
  refine ⟨Sorting.totalPreorder, Sorting.totalPreorder, fun value => ⟨rfl, rfl⟩, fun first second => rfl,
    fun x y => Binary64.totalCompare_lt_iff, fun x y aboveX aboveY => ?_,
    fun first second => Entry.byValue_of_exceeds, Entry.sort_front⟩
  have unsignedX := Binary64.unsigned_of_exceeds aboveX Supplement.floor_unsigned
  have unsignedY := Binary64.unsigned_of_exceeds aboveY Supplement.floor_unsigned
  exact ⟨unsignedX.totalCompare_lt_iff_exceeds unsignedY, unsignedX.totalCompare_eq_iff_value unsignedY⟩

/-- The least number above two hundred. -/
def trinket : Entry := ⟨"Trinket", "Ring", ⟨0x4069000000000001⟩, "", none⟩

def hoard : Entry := ⟨"Hoard", "Belt", ⟨0x7FF0000000000000⟩, "", none⟩

def pebble : Entry := ⟨"Pebble", "Ring", ⟨0x8000000000000000⟩, "", none⟩

theorem orders_by_value_trinket :
    trinket.value.exceeds floor ∧ hoard.value.exceeds floor ∧ pebble.value.isNaN = false ∧
    pebble.value.exceeds floor = false ∧
    (trinket.value.totalCompare hoard.value = .lt ↔ hoard.value.exceeds trinket.value) ∧
    trinket.byValue pebble = .lt := by
  have aboveTrinket : trinket.value.exceeds floor := by decide
  have aboveHoard : hoard.value.exceeds floor := by decide
  have number : pebble.value.isNaN = false := by decide
  have within : pebble.value.exceeds floor = false := by decide
  obtain ⟨-, -, -, -, -, numeric, front, -⟩ := orders_by_value
  exact ⟨aboveTrinket, aboveHoard, number, within, (numeric _ _ aboveTrinket aboveHoard).1,
    front trinket pebble aboveTrinket number within⟩

end Pricing

end ItemQuery
