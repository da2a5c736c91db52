import Mathlib.Data.List.Basic
import Mathlib.Tactic.Ring

/-!
# Cutting a list into pages

`page l count i` is the `i`-th (0-based) window of `count` elements of `l`, shorter at the end of
the list and empty past it.  `pageCount n count` windows are needed for `n` elements.  They tile
the list (`flatMap_page`), and every window but the last is full (`length_page`).
-/

namespace GdtCache.Lib

variable {α : Type*}

/-- The `i`-th window of `count` elements. -/
def page (l : List α) (count i : ℕ) : List α :=
  (l.drop (i * count)).take count

/-- The number of windows of `count` elements that cover `n` elements: `⌈n / count⌉`. -/
def pageCount (n count : ℕ) : ℕ :=
  (n + count - 1) / count

theorem lt_pageCount_iff {n count i : ℕ} (hcount : 0 < count) :
    i < pageCount n count ↔ i * count < n := by
  unfold pageCount
  rw [← Nat.succ_le_iff, Nat.le_div_iff_mul_le hcount, Nat.succ_mul]
  omega

theorem le_pageCount_mul {n count : ℕ} (hcount : 0 < count) : n ≤ pageCount n count * count := by
  by_contra h
  exact lt_irrefl _ ((lt_pageCount_iff hcount).mpr (not_le.mp h))

/-- The first `k` windows are the first `k * count` elements. -/
theorem flatMap_range_page (l : List α) (count k : ℕ) :
    (List.range k).flatMap (page l count) = l.take (k * count) := by
  induction k with
  | zero => simp
  | succ k ih =>
    rw [List.range_succ, List.flatMap_append, ih, List.flatMap_singleton, page, Nat.succ_mul,
      List.take_add]

/-- **The windows tile the list**: nothing is lost, repeated or moved. -/
theorem flatMap_page (l : List α) {count : ℕ} (hcount : 0 < count) :
    (List.range (pageCount l.length count)).flatMap (page l count) = l := by
  rw [flatMap_range_page]
  exact List.take_of_length_le (le_pageCount_mul hcount)

/-- Every window before the last is full. -/
theorem length_page (l : List α) {count i : ℕ} (hcount : 0 < count)
    (hi : i + 1 < pageCount l.length count) : (page l count i).length = count := by
  have hlt : (i + 1) * count < l.length := (lt_pageCount_iff hcount).mp hi
  rw [Nat.succ_mul] at hlt
  rw [page, List.length_take, List.length_drop]
  omega

end GdtCache.Lib
