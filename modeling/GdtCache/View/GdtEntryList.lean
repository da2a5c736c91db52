import GdtCache.Model.GdtEntryList
import GdtCache.View.View
import Mathlib.Data.List.TakeDrop

/-!
# Rendering one page of a list

The paged `view::GdtEntryList::toJsonString`.  `page` and `count` are C++ `int`s, so `Int32` with
its wrapping product, and the guard compares that product with `list.size()` as a `size_t`.

A `std::list` iterator is its position; the position `size` is `end()`.  Stepping past either end
and reading at `end()` are undefined, so the loops live in `Option`, with `none` for undefined.
`writtenEntries_eq` says what they write for every page and count, and in particular that they
are never undefined; `pageEntries` is what is written.  In the texts, `\x7b` and `\x7d` are braces.
-/

namespace GdtCache.View.GdtEntryList

open GdtCache.Model

/-- The conversion of an `int` to `size_t`. -/
def sizeT (n : Int32) : ℕ :=
  (n.toInt % 2 ^ 64).toNat

/-- `it++` -/
def increment (size it : ℕ) : Option ℕ :=
  if it < size then some (it + 1) else none

/-- `it--` -/
def decrement (it : ℕ) : Option ℕ :=
  if 0 < it then some (it - 1) else none

/-- `it++` or `it--`, as the order asks. -/
def advance (size : ℕ) (order : OrderDirections) (it : ℕ) : Option ℕ :=
  match order with
  | .ASC => increment size it
  | .DESC => decrement it

/-- The iterator the loops start from: `begin()`, or one step back from `end()`. -/
def startIterator (size : ℕ) : OrderDirections → Option ℕ
  | .ASC => some 0
  | .DESC => decrement size

/-- The skip loop, `n` times round. -/
def skip (size : ℕ) (order : OrderDirections) : ℕ → ℕ → Option ℕ
  | 0, it => some it
  | n + 1, it => (advance size order it).bind (skip size order n)

/-- The collect loop, at most `n` times round: the entries it writes, in order. -/
def collect (entries : List GdtEntry) (order : OrderDirections) : ℕ → ℕ → Option (List GdtEntry)
  | 0, _ => some []
  | n + 1, it =>
    entries[it]?.bind fun e =>
      match order with
      | .ASC =>
        (increment entries.length it).bind fun it =>
          if it = entries.length then some [e] else (collect entries order n it).map (e :: ·)
      | .DESC =>
        if it = 0 then some [e]
        else (decrement it).bind fun it => (collect entries order n it).map (e :: ·)

/-- The entries written between the brackets of `gdtEntries`. -/
def writtenEntries (entries : List GdtEntry) (page count : Int32) (order : OrderDirections) :
    Option (List GdtEntry) :=
  if sizeT ((page - 1) * count) < entries.length then
    (startIterator entries.length order).bind fun it =>
      (if 1 < page then skip entries.length order ((page - 1) * count).toInt.toNat it
        else some it).bind fun it =>
          collect entries order count.toInt.toNat it
  else some []

/-! ### What the loops write -/

/-- The list as the order reads it. -/
def oriented (entries : List GdtEntry) : OrderDirections → List GdtEntry
  | .ASC => entries
  | .DESC => entries.reverse

/-- The iterator that stands on the `i`-th element in the given order. -/
def iteratorAt (size : ℕ) (order : OrderDirections) (i : ℕ) : ℕ :=
  match order with
  | .ASC => i
  | .DESC => size - 1 - i

theorem startIterator_eq {size : ℕ} (order : OrderDirections) (h : 0 < size) :
    startIterator size order = some (iteratorAt size order 0) := by
  cases order with
  | ASC => rfl
  | DESC => simp [startIterator, decrement, iteratorAt, h]

theorem advance_iteratorAt {size i : ℕ} (order : OrderDirections) (h : i + 1 < size) :
    advance size order (iteratorAt size order i) = some (iteratorAt size order (i + 1)) := by
  cases order with
  | ASC =>
    show (if i < size then some (i + 1) else none) = some (i + 1)
    rw [if_pos (by omega)]
  | DESC =>
    show (if 0 < size - 1 - i then some (size - 1 - i - 1) else none) = some (size - 1 - (i + 1))
    rw [if_pos (by omega), Nat.sub_sub _ i 1]

/-- Skipping within the list arrives. -/
theorem skip_iteratorAt {size : ℕ} (order : OrderDirections) :
    ∀ n i : ℕ, i + n < size →
      skip size order n (iteratorAt size order i) = some (iteratorAt size order (i + n)) := by
  intro n
  induction n with
  | zero => intro i _; rfl
  | succ n ih =>
    intro i h
    rw [skip, advance_iteratorAt order (by omega), Option.bind_some, ih (i + 1) (by omega)]
    congr 2
    omega

theorem length_oriented (entries : List GdtEntry) (order : OrderDirections) :
    (oriented entries order).length = entries.length := by
  cases order with
  | ASC => rfl
  | DESC => exact List.length_reverse

theorem getElem?_iteratorAt {entries : List GdtEntry} (order : OrderDirections) {i : ℕ}
    (h : i < entries.length) :
    entries[iteratorAt entries.length order i]? = (oriented entries order)[i]? := by
  cases order with
  | ASC => rfl
  | DESC => exact (List.getElem?_reverse h).symm

/-- From the `i`-th element on, the collect loop writes the next `n` elements or all there are. -/
theorem collect_iteratorAt (entries : List GdtEntry) (order : OrderDirections) :
    ∀ n i : ℕ, i < entries.length →
      collect entries order n (iteratorAt entries.length order i)
        = some (((oriented entries order).drop i).take n) := by
  intro n
  induction n with
  | zero => intro i _; simp [collect]
  | succ n ih =>
    intro i h
    have hi : i < (oriented entries order).length := by rwa [length_oriented]
    rw [collect, getElem?_iteratorAt order h, List.getElem?_eq_getElem hi, Option.bind_some,
      List.drop_eq_getElem_cons hi, List.take_succ_cons]
    by_cases hlast : i + 1 < entries.length
    · have hrest := ih (i + 1) hlast
      have hadv := advance_iteratorAt order hlast
      cases order with
      | ASC =>
        have hne : iteratorAt entries.length .ASC (i + 1) ≠ entries.length := by
          simp only [iteratorAt]; omega
        simp only [advance] at hadv
        simp only [hadv, Option.bind_some, if_neg hne, hrest, Option.map_some]
      | DESC =>
        have hne : iteratorAt entries.length .DESC i ≠ 0 := by
          simp only [iteratorAt]; omega
        simp only [advance] at hadv
        simp only [if_neg hne, hadv, Option.bind_some, hrest, Option.map_some]
    · -- the last element: both break tests fire
      have hend : i + 1 = entries.length := by omega
      have hnil : (oriented entries order).drop (i + 1) = [] :=
        List.drop_eq_nil_of_le (by rw [length_oriented]; omega)
      rw [hnil, List.take_nil]
      cases order with
      | ASC =>
        have hinc : increment entries.length (iteratorAt entries.length .ASC i)
            = some entries.length := by
          simp only [increment, iteratorAt, if_pos h, hend]
        simp only [hinc, Option.bind_some, ↓reduceIte]
      | DESC =>
        have hzero : iteratorAt entries.length .DESC i = 0 := by
          simp only [iteratorAt]; omega
        simp only [hzero, ↓reduceIte]

/-- A product that passes the guard is not negative, or the skip loop does not run at all. -/
theorem toNat_le_sizeT (n : Int32) : n.toInt.toNat ≤ sizeT n := by
  have hlo := n.le_toInt
  have hhi := n.toInt_lt
  unfold sizeT
  omega

/-- **What the paged rendering writes**, for every page, count and order: nothing when the guard
fails, and otherwise a window of the list as the order reads it. -/
theorem writtenEntries_eq (entries : List GdtEntry) (page count : Int32)
    (order : OrderDirections) :
    writtenEntries entries page count order = some
      (if sizeT ((page - 1) * count) < entries.length then
        ((oriented entries order).drop
          (if 1 < page then ((page - 1) * count).toInt.toNat else 0)).take count.toInt.toNat
      else []) := by
  unfold writtenEntries
  split_ifs with hguard hpage
  · have hskip : ((page - 1) * count).toInt.toNat < entries.length :=
      (toNat_le_sizeT _).trans_lt hguard
    rw [startIterator_eq order (by omega), Option.bind_some,
      skip_iteratorAt order _ 0 (by omega), Option.bind_some, Nat.zero_add,
      collect_iteratorAt entries order _ _ hskip]
  · rw [startIterator_eq order (by omega), Option.bind_some, Option.bind_some,
      collect_iteratorAt entries order _ _ (by omega)]
  · rfl

/-- The entries the paged rendering writes. -/
def pageEntries (entries : List GdtEntry) (page count : Int32) (order : OrderDirections) :
    List GdtEntry :=
  (writtenEntries entries page count order).get (by rw [writtenEntries_eq]; rfl)

/-! ### The text -/

/-- The paged `view::GdtEntryList::toJsonString`; `timeUsed` is the text of the seconds used. -/
def toJsonString (data : Model.GdtEntryList) (timeUsed : String) (page count : Int32)
    (order : OrderDirections) : String :=
  "\x7b" ++ "\"state\":\"success\"," ++ "\"count\":" ++ toString data.getTotalCount ++ ","
    ++ "\"gdtEntries\":["
    ++ ",".intercalate ((pageEntries data.getGdtEntries page count order).map View.toJsonString)
    ++ "],\"gdtSum\":" ++ stringWithoutTrailingZeros data.getGdtSum ++ ","
    ++ "\"timeUsed\":" ++ timeUsed ++ "\x7d"

end GdtCache.View.GdtEntryList
