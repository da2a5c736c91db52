import GdtCache.Lib.Pages
import GdtCache.Model.Equiv.GdtEntryList
import GdtCache.View.GdtEntryList

/-!
# Pages tile the list

For a list of fewer than `2 ^ 31` entries the pages `1, 2, …, ⌈n / count⌉` are asked for without
any overflow of `(page - 1) * count` (`toInt_offset`).  Each of them is then the window of the
same number (`pageEntries_eq_page`), and windows tile a list.
-/

namespace GdtCache.View.GdtEntryList

open GdtCache.Lib GdtCache.Model GdtCache.Model.GdtEntryList

/-! ### No overflow -/

theorem one_le_toNat {count : Int32} (hcount : 1 ≤ count) : 1 ≤ count.toInt.toNat := by
  have h := Int32.le_iff_toInt_le.mp hcount
  rw [Int32.toInt_one] at h
  omega

theorem natCast_toNat {count : Int32} (hcount : 1 ≤ count) :
    (count.toInt.toNat : ℤ) = count.toInt := by
  have h := one_le_toNat hcount
  omega

/-- The page number of the window `i`. -/
theorem toInt_pageNumber {i : ℕ} (h : i + 1 < 2 ^ 31) :
    (Int32.ofNat (i + 1) - 1).toInt = i := by
  rw [Int32.toInt_sub, Int32.toInt_ofNat_of_lt h, Int32.toInt_one]
  have hi : ((i + 1 : ℕ) : ℤ) - 1 = i := by omega
  rw [hi]
  exact Int.bmod_eq_of_le (by omega) (by omega)

/-- The offset of a window that starts within the list does not overflow. -/
theorem toInt_offset {i : ℕ} {count : Int32} (hcount : 1 ≤ count)
    (h : i * count.toInt.toNat + 1 < 2 ^ 31) :
    ((Int32.ofNat (i + 1) - 1) * count).toInt = (i * count.toInt.toNat : ℕ) := by
  have hpos := one_le_toNat hcount
  have hi : i ≤ i * count.toInt.toNat := Nat.le_mul_of_pos_right i hpos
  rw [Int32.toInt_mul, toInt_pageNumber (by omega), ← natCast_toNat hcount, ← Nat.cast_mul]
  exact Int.bmod_eq_of_le (by omega) (by omega)

/-! ### One page -/

theorem pageEntries_eq (entries : List GdtEntry) (page count : Int32) (order : OrderDirections) :
    pageEntries entries page count order =
      if sizeT ((page - 1) * count) < entries.length then
        ((oriented entries order).drop
          (if 1 < page then ((page - 1) * count).toInt.toNat else 0)).take count.toInt.toNat
      else [] := by
  unfold pageEntries
  simp only [writtenEntries_eq, Option.get_some]

/-- An empty list has empty pages. -/
@[simp] theorem pageEntries_nil (page count : Int32) (order : OrderDirections) :
    pageEntries [] page count order = [] := by
  rw [pageEntries_eq]
  exact if_neg (Nat.not_lt_zero _)

/-- Pages of no entries are empty. -/
theorem pageEntries_zero (entries : List GdtEntry) (page : Int32) (order : OrderDirections) :
    pageEntries entries page 0 order = [] := by
  have hzero : (0 : Int32).toInt.toNat = 0 := rfl
  rw [pageEntries_eq, hzero, List.take_zero, ite_self]

/-- **Page `i + 1` is window `i`** of the list as the order reads it. -/
theorem pageEntries_eq_page {entries : List GdtEntry} {count : Int32} (order : OrderDirections)
    {i : ℕ} (hlength : entries.length < 2 ^ 31) (hcount : 1 ≤ count)
    (hi : i * count.toInt.toNat < entries.length) :
    pageEntries entries (Int32.ofNat (i + 1)) count order
      = page (oriented entries order) count.toInt.toNat i := by
  have hoffset := @toInt_offset i count hcount (by omega)
  have hsize : sizeT ((Int32.ofNat (i + 1) - 1) * count) = i * count.toInt.toNat := by
    unfold sizeT
    rw [hoffset]
    omega
  rw [pageEntries_eq, hsize, if_pos hi, hoffset, Int.toNat_natCast, page]
  split_ifs with hpage
  · rfl
  · -- the first page skips nothing
    have hpos := one_le_toNat hcount
    have hile : i ≤ i * count.toInt.toNat := Nat.le_mul_of_pos_right i hpos
    have hzero : i = 0 := by
      rw [Int32.lt_iff_toInt_lt, Int32.toInt_one, Int32.toInt_ofNat_of_lt (by omega)] at hpage
      omega
    rw [hzero, Nat.zero_mul]

/-! ### All pages -/

/-- **Pages tile the list.**  The pages `1, …, ⌈n / count⌉` together are the whole list in the
asked order, all but the last are full, and every page names the same count and the same sum. -/
theorem pages_tile (data : Model.GdtEntryList) (hbuilt : data.Built)
    (hlength : data.getGdtEntries.length < 2 ^ 31) (count : Int32) (hcount : 1 ≤ count)
    (order : OrderDirections) :
    ((List.range (pageCount data.getGdtEntries.length count.toInt.toNat)).flatMap fun i =>
        pageEntries data.getGdtEntries (Int32.ofNat (i + 1)) count order)
      = oriented data.getGdtEntries order ∧
    (∀ i, i + 1 < pageCount data.getGdtEntries.length count.toInt.toNat →
      (pageEntries data.getGdtEntries (Int32.ofNat (i + 1)) count order).length
        = count.toInt.toNat) ∧
    ∀ timeUsed page, toJsonString data timeUsed page count order =
      "\x7b\"state\":\"success\",\"count\":" ++ toString data.getGdtEntries.length
        ++ ",\"gdtEntries\":["
        ++ ",".intercalate
            ((pageEntries data.getGdtEntries page count order).map View.toJsonString)
        ++ "],\"gdtSum\":" ++ stringWithoutTrailingZeros (sumOf data.getGdtEntries)
        ++ ",\"timeUsed\":" ++ timeUsed ++ "\x7d" := by
  have hpos : 0 < count.toInt.toNat := one_le_toNat hcount
  have hlen := length_oriented data.getGdtEntries order
  have hwindow : ∀ i, i < pageCount data.getGdtEntries.length count.toInt.toNat →
      pageEntries data.getGdtEntries (Int32.ofNat (i + 1)) count order
        = page (oriented data.getGdtEntries order) count.toInt.toNat i := fun i hi =>
    pageEntries_eq_page order hlength hcount ((lt_pageCount_iff hpos).mp hi)
  refine ⟨?_, fun i hi => ?_, fun timeUsed page => ?_⟩
  -- the pages are the windows, and windows tile the list
  · calc
      _ = (List.range (pageCount data.getGdtEntries.length count.toInt.toNat)).flatMap
            (page (oriented data.getGdtEntries order) count.toInt.toNat) := by
        apply List.flatMap_congr
        intro i hi
        exact hwindow i (List.mem_range.mp hi)
      _ = oriented data.getGdtEntries order := by
        rw [← hlen]
        exact flatMap_page _ hpos
  · rw [hwindow i (by omega)]
    rw [← hlen] at hi
    exact length_page _ hpos hi
  -- the counter and the sum do not depend on the page
  · have hcountText : toString data.getTotalCount = toString data.getGdtEntries.length := by
      show toString data.mTotalCount = toString data.mGdtEntries.length
      rw [hbuilt.totalCount]
      rfl
    have hsum : data.getGdtSum = sumOf data.getGdtEntries := hbuilt.gdtSum
    unfold toJsonString
    rw [hcountText, hsum]
    simp only [String.append_assoc]
    rfl

/-- Three entries in pages of two, the newest first: the second page holds the oldest one. -/
theorem pages_tile_of_three :
    let entries : List GdtEntry := [1, 2, 3].map fun id =>
      .new (fun _ => 0) id 100 1663160964 "bob@example.org" "" "" "" "" 7 1 1 0 1 100
    pageEntries entries 1 2 .DESC ++ pageEntries entries 2 2 .DESC = entries.reverse ∧
      (pageEntries entries 1 2 .DESC).length = 2 := by
  intro entries
  have hbuilt : (entries.foldl (GdtEntryList.addGdtEntry 0) (.new 0)).Built :=
    (Built.new 0).foldl_addGdtEntry 0 entries
  have htile := pages_tile _ hbuilt (by decide) 2 (by decide) .DESC
  have hentries : (entries.foldl (GdtEntryList.addGdtEntry 0) (.new 0)).getGdtEntries = entries :=
    foldl_addGdtEntry_mGdtEntries 0 entries _
  have hpages : List.range (pageCount entries.length (2 : Int32).toInt.toNat) = [0, 1] := by decide
  rw [hentries, hpages] at htile
  refine ⟨?_, htile.2.1 0 (by decide)⟩
  have hall := htile.1
  rw [List.flatMap_cons, List.flatMap_singleton] at hall
  exact hall

end GdtCache.View.GdtEntryList
