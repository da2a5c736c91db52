import GdtCache.View.Equiv.GdtEntryList

/-!
# Which window a page is

For a page and a count that are positive, a client expects the window of that number, and for any
others nothing (`window`).  The offset of the window is computed as an `int`, and the guard compares
what is left of it with the size of the list.  So a page is what is expected unless the offset
leaves the range of `int` and what is left of it passes the guard (`pageEntries_eq_window_iff`).
-/

namespace GdtCache.View.GdtEntryList

open GdtCache.Lib GdtCache.Model

/-- The window that page `page` of `count` entries is, in unbounded integers. -/
def window (l : List GdtEntry) (page count : ℤ) : List GdtEntry :=
  if 1 ≤ page ∧ 1 ≤ count then Lib.page l count.toNat (page - 1).toNat else []

/-- The offset of a page, in unbounded integers. -/
def offset (page count : Int32) : ℤ :=
  (page.toInt - 1) * count.toInt

/-! ### The product -/

theorem toInt_product (page count : Int32) :
    ((page - 1) * count).toInt = (offset page count).bmod (2 ^ 32) := by
  rw [Int32.toInt_mul, Int32.toInt_sub, Int32.toInt_one, Int.bmod_mul_bmod, offset]

/-- A small offset does not overflow. -/
theorem toInt_product_of_lt {page count : Int32} (hnonneg : 0 ≤ offset page count)
    (hlt : offset page count < 2 ^ 31) : ((page - 1) * count).toInt = offset page count := by
  rw [toInt_product]
  exact Int.bmod_eq_of_le (by omega) (by omega)

theorem offset_nonneg {page count : Int32} (hpage : 1 ≤ page.toInt) (hcount : 1 ≤ count.toInt) :
    0 ≤ offset page count :=
  Int.mul_nonneg (by omega) (by omega)

theorem offset_neg {page count : Int32} (hpage : ¬ 1 ≤ page.toInt) (hcount : 1 ≤ count.toInt) :
    offset page count < 0 :=
  Int.mul_neg_of_neg_of_pos (by omega) (by omega)

theorem toNat_offset {page count : Int32} (hpage : 1 ≤ page.toInt) (hcount : 1 ≤ count.toInt) :
    (page.toInt - 1).toNat * count.toInt.toNat = (offset page count).toNat := by
  rw [offset, Int.toNat_mul (by omega) (by omega)]

/-! ### The window -/

theorem window_of_offset {page count : Int32} (l : List GdtEntry) (hpage : 1 ≤ page.toInt)
    (hcount : 1 ≤ count.toInt) :
    window l page.toInt count.toInt
      = (l.drop (offset page count).toNat).take count.toInt.toNat := by
  rw [window, if_pos ⟨hpage, hcount⟩, Lib.page, toNat_offset hpage hcount]

/-- Past the end of the list, and for pages and counts below one, there is nothing. -/
theorem window_eq_nil {page count : Int32} {l : List GdtEntry}
    (h : 1 ≤ page.toInt → 1 ≤ count.toInt → l.length ≤ (offset page count).toNat) :
    window l page.toInt count.toInt = [] := by
  by_cases hboth : 1 ≤ page.toInt ∧ 1 ≤ count.toInt
  · rw [window_of_offset l hboth.1 hboth.2, List.drop_eq_nil_of_le (h hboth.1 hboth.2),
      List.take_nil]
  · exact if_neg hboth

/-- A page the guard lets through is not empty. -/
theorem pageEntries_ne_nil {entries : List GdtEntry} {page count : Int32}
    (order : OrderDirections) (hguard : sizeT ((page - 1) * count) < entries.length)
    (hcount : 1 ≤ count.toInt) : pageEntries entries page count order ≠ [] := by
  have hle := toNat_le_sizeT ((page - 1) * count)
  have hlength := length_oriented entries order
  intro hnil
  have hzero := congrArg List.length hnil
  rw [pageEntries_eq, if_pos hguard, List.length_take, List.length_drop, List.length_nil] at hzero
  split_ifs at hzero
  · omega
  · omega

/-- An offset that is told as it is. -/
theorem pageEntries_of_toInt_eq {entries : List GdtEntry} {page count : Int32}
    (order : OrderDirections) (hlength : entries.length < 2 ^ 31) (hcount : 1 ≤ count.toInt)
    (heq : ((page - 1) * count).toInt = offset page count) :
    pageEntries entries page count order
      = window (oriented entries order) page.toInt count.toInt := by
  have horiented := length_oriented entries order
  have hlo := ((page - 1) * count).le_toInt
  have hsize : sizeT ((page - 1) * count) = (offset page count % 2 ^ 64).toNat := by
    rw [sizeT, heq]
  rw [pageEntries_eq, hsize, heq]
  by_cases hpage : 1 ≤ page.toInt
  · have hnonneg := offset_nonneg hpage hcount
    split_ifs with hguard hskip
    · rw [window_of_offset _ hpage hcount]
    · -- the first page skips nothing
      have hzero : offset page count = 0 := by
        rw [Int32.lt_iff_toInt_lt, Int32.toInt_one] at hskip
        rw [offset, show page.toInt - 1 = 0 by omega, zero_mul]
      rw [window_of_offset _ hpage hcount, hzero, Int.toNat_zero]
    · have hhi := ((page - 1) * count).toInt_lt
      exact (window_eq_nil fun _ _ => by omega).symm
  · -- a negative offset is no size of a list
    have hneg := offset_neg hpage hcount
    rw [if_neg (by omega)]
    exact (window_eq_nil fun h _ => absurd h hpage).symm

/-- **Which entries are on a page.** -/
theorem pageEntries_eq_window_iff {entries : List GdtEntry} (page count : Int32)
    (order : OrderDirections) (hlength : entries.length < 2 ^ 31) :
    pageEntries entries page count order
        = window (oriented entries order) page.toInt count.toInt ↔
      count.toInt < 1 ∨ ((page - 1) * count).toInt = offset page count ∨
        entries.length ≤ sizeT ((page - 1) * count) := by
  have horiented := length_oriented entries order
  by_cases hcount : 1 ≤ count.toInt
  · by_cases heq : ((page - 1) * count).toInt = offset page count
    · exact iff_of_true (pageEntries_of_toInt_eq order hlength hcount heq) (.inr (.inl heq))
    · -- an offset that overflows is past the end of the list
      have hwindow : window (oriented entries order) page.toInt count.toInt = [] := by
        refine window_eq_nil fun hpage hcount => ?_
        have hnonneg := offset_nonneg hpage hcount
        by_contra hsmall
        exact heq (toInt_product_of_lt hnonneg (by omega))
      rw [hwindow]
      by_cases hguard : sizeT ((page - 1) * count) < entries.length
      · exact iff_of_false (pageEntries_ne_nil order hguard hcount) (by omega)
      · rw [pageEntries_eq, if_neg hguard]
        exact iff_of_true rfl (.inr (.inr (by omega)))
  · -- the collect loop does not run
    have hzero : count.toInt.toNat = 0 := by omega
    refine iff_of_true ?_ (.inl (by omega))
    rw [pageEntries_eq, hzero, List.take_zero, ite_self]
    exact (window_eq_nil fun _ h => absurd h hcount).symm

/-! ### The text -/

/-- A page with the given entries. -/
def pageText (data : Model.GdtEntryList) (timeUsed : String) (entries : List GdtEntry) : String :=
  "\x7b" ++ "\"state\":\"success\"," ++ "\"count\":" ++ toString data.getTotalCount ++ ","
    ++ "\"gdtEntries\":[" ++ ",".intercalate (entries.map View.toJsonString)
    ++ "],\"gdtSum\":" ++ stringWithoutTrailingZeros data.getGdtSum ++ ","
    ++ "\"timeUsed\":" ++ timeUsed ++ "\x7d"

/-- **The page window law.**  For a list of fewer than `2 ^ 31` entries, a page is the window of its
number, if and only if the count is below one, or the offset does not leave the range of `int`, or
what is left of it is no index of the list. -/
theorem toJsonString_eq_window_iff (data : Model.GdtEntryList) (timeUsed : String)
    (page count : Int32) (order : OrderDirections)
    (hlength : data.getGdtEntries.length < 2 ^ 31) :
    (pageEntries data.getGdtEntries page count order
          = window (oriented data.getGdtEntries order) page.toInt count.toInt ∧
        toJsonString data timeUsed page count order
          = pageText data timeUsed
              (window (oriented data.getGdtEntries order) page.toInt count.toInt)) ↔
      count.toInt < 1 ∨
        ((page - 1) * count).toInt = (page.toInt - 1) * count.toInt ∨
        data.getGdtEntries.length ≤ sizeT ((page - 1) * count) := by
  have hentries := pageEntries_eq_window_iff page count order hlength
  rw [← show offset page count = (page.toInt - 1) * count.toInt from rfl, ← hentries]
  refine and_iff_left_of_imp fun h => ?_
  rw [← h]
  rfl

/-- A list of entries that differ in their ids. -/
def sampleList (ids : List ℤ) : Model.GdtEntryList :=
  (ids.map fun id => GdtEntry.new (fun _ => 0) id 100 1663160964 "bob@example.org" "" "" "" "" 7 1 1
    0 1 100).foldl (GdtEntryList.addGdtEntry 0) (.new 0)

/-- The second page of two, of a list of three: it has the oldest entry. -/
theorem toJsonString_eq_window_of_second_page :
    pageEntries (sampleList [1, 2, 3]).getGdtEntries 2 2 .DESC
        = window (oriented (sampleList [1, 2, 3]).getGdtEntries .DESC) 2 2 ∧
      toJsonString (sampleList [1, 2, 3]) "0.1" 2 2 .DESC
        = pageText (sampleList [1, 2, 3]) "0.1"
            (window (oriented (sampleList [1, 2, 3]).getGdtEntries .DESC) 2 2) :=
  (toJsonString_eq_window_iff (sampleList [1, 2, 3]) "0.1" 2 2 .DESC (by decide)).mpr
    (.inr (.inl (by decide)))

/-- Page `65537` of `65536` entries begins at offset `2 ^ 32`, which wraps around to `0`: it shows
the only entry of the list again. -/
theorem pageEntries_overflow :
    ¬ ∀ (data : Model.GdtEntryList) (timeUsed : String) (page count : Int32)
      (order : OrderDirections), data.getGdtEntries.length < 2 ^ 31 →
        pageEntries data.getGdtEntries page count order
            = window (oriented data.getGdtEntries order) page.toInt count.toInt ∧
          toJsonString data timeUsed page count order
            = pageText data timeUsed
                (window (oriented data.getGdtEntries order) page.toInt count.toInt) := by
  intro h
  have hlength : (sampleList [1]).getGdtEntries.length < 2 ^ 31 := by decide
  have hpage := (h (sampleList [1]) "0.1" 65537 65536 .ASC hlength).1
  exact absurd ((pageEntries_eq_window_iff 65537 65536 .ASC hlength).mp hpage) (by decide)

end GdtCache.View.GdtEntryList
