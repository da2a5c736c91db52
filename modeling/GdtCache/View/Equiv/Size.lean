import GdtCache.Lib.ByteSize
import GdtCache.View.GdtEntryList

/-!
# How long a page is

The size of a page of entries in bytes, as a sum over its entries and their texts and numbers
(`GdtEntryList.utf8ByteSize_toJsonString`).
-/

namespace GdtCache.View

open GdtCache.Lib GdtCache.Model

/-- The bytes of a number. -/
def numberSize (number : ℚ) : ℕ :=
  (stringWithoutTrailingZeros number).utf8ByteSize

/-- The bytes of an entry: those of its texts and numbers, and those of the members around them. -/
def entrySize (e : GdtEntry) : ℕ :=
  128 + (toString e.getId).utf8ByteSize + numberSize e.getAmountDecimal
    + e.getDateString.utf8ByteSize + e.getEmail.utf8ByteSize + e.getComment.utf8ByteSize
    + e.getCouponCode.utf8ByteSize + (toString e.getGdtEntryTypeId).utf8ByteSize
    + numberSize e.getFactor + numberSize e.getAmount2Decimal + numberSize e.getFactor2
    + numberSize e.getGdt

theorem utf8ByteSize_toJsonString (e : GdtEntry) :
    (toJsonString e).utf8ByteSize = entrySize e := by
  have hopen : ("\x7b" : String).utf8ByteSize = 1 := rfl
  have hclose : ("\x7d" : String).utf8ByteSize = 1 := rfl
  have hcomma : ("," : String).utf8ByteSize = 1 := rfl
  have hquote : ("\"," : String).utf8ByteSize = 2 := rfl
  have hid : ("\"id\":" : String).utf8ByteSize = 5 := rfl
  have hamount : ("\"amount\":" : String).utf8ByteSize = 9 := rfl
  have hdate : ("\"date\":\"" : String).utf8ByteSize = 8 := rfl
  have hemail : ("\"email\":\"" : String).utf8ByteSize = 9 := rfl
  have hcomment : ("\"comment\":\"" : String).utf8ByteSize = 11 := rfl
  have hcoupon : ("\"coupon_code\":\"" : String).utf8ByteSize = 15 := rfl
  have htype : ("\"gdt_entry_type_id\":" : String).utf8ByteSize = 20 := rfl
  have hfactor : ("\"factor\":" : String).utf8ByteSize = 9 := rfl
  have hamount2 : ("\"amount2\":" : String).utf8ByteSize = 10 := rfl
  have hfactor2 : ("\"factor2\":" : String).utf8ByteSize = 10 := rfl
  have hgdt : ("\"gdt\":" : String).utf8ByteSize = 6 := rfl
  unfold toJsonString entrySize numberSize
  simp only [String.utf8ByteSize_append]
  rw [hopen, hclose, hcomma, hquote, hid, hamount, hdate, hemail, hcomment, hcoupon, htype, hfactor,
    hamount2, hfactor2, hgdt]
  omega

namespace GdtEntryList

/-- The bytes of a page: those of its entries with a comma between them, of the count, the sum and
the seconds, and of the members around them. -/
def pageSize (data : Model.GdtEntryList) (timeUsed : String) (page count : Int32)
    (order : OrderDirections) : ℕ :=
  let entries := pageEntries data.getGdtEntries page count order
  66 + (toString data.getTotalCount).utf8ByteSize
    + ((entries.map entrySize).sum + (entries.length - 1)) + numberSize data.getGdtSum
    + timeUsed.utf8ByteSize

/-- The bytes of the entries with a comma between them. -/
theorem utf8ByteSize_entries (entries : List GdtEntry) :
    (",".intercalate (entries.map View.toJsonString)).utf8ByteSize
      = (entries.map entrySize).sum + (entries.length - 1) := by
  have hsizes : (entries.map View.toJsonString).map String.utf8ByteSize
      = entries.map entrySize := by
    rw [List.map_map]
    refine List.map_congr_left fun e _ => ?_
    rw [Function.comp_apply, View.utf8ByteSize_toJsonString]
  rw [utf8ByteSize_intercalate rfl, hsizes, List.length_map]

/-- **The size of a page.** -/
theorem utf8ByteSize_toJsonString (data : Model.GdtEntryList) (timeUsed : String)
    (page count : Int32) (order : OrderDirections) :
    (toJsonString data timeUsed page count order).utf8ByteSize
      = pageSize data timeUsed page count order := by
  have hopen : ("\x7b" : String).utf8ByteSize = 1 := rfl
  have hclose : ("\x7d" : String).utf8ByteSize = 1 := rfl
  have hcomma : ("," : String).utf8ByteSize = 1 := rfl
  have hstate : ("\"state\":\"success\"," : String).utf8ByteSize = 18 := rfl
  have hcount : ("\"count\":" : String).utf8ByteSize = 8 := rfl
  have hentries : ("\"gdtEntries\":[" : String).utf8ByteSize = 14 := rfl
  have hsum : ("],\"gdtSum\":" : String).utf8ByteSize = 11 := rfl
  have htime : ("\"timeUsed\":" : String).utf8ByteSize = 11 := rfl
  unfold toJsonString pageSize numberSize
  simp only [String.utf8ByteSize_append]
  rw [utf8ByteSize_entries, hopen, hclose, hcomma, hstate, hcount, hentries, hsum, htime]
  omega

end GdtEntryList

end GdtCache.View
