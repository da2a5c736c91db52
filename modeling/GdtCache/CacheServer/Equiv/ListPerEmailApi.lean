import GdtCache.CacheServer.Account
import GdtCache.View.Equiv.Size

/-!
# How long a response is

lithium's output buffer takes a body that is shorter than the buffer.  `listPerEmailApi` replaces a
page that is longer than the buffer by an error, so the one page that does not fit is the one of
exactly the buffer's size (`listPerEmailApi_size_lt_iff`).
-/

namespace GdtCache.CacheServer

open GdtCache.Lib GdtCache.Model GdtCache.View

/-- The error tells two numbers, and is short if they are. -/
theorem utf8ByteSize_checkOverflow_lt {count : Int32} {resultJsonString : String}
    (hbig : outputBufferSize < resultJsonString.utf8ByteSize)
    (hsize : resultJsonString.utf8ByteSize < 2 ^ 64) :
    (checkOverflow count resultJsonString).utf8ByteSize < outputBufferSize := by
  have hlo := count.le_toInt
  have hhi := count.toInt_lt
  have hcount : (toString count.toInt).utf8ByteSize ≤ 10 + 1 :=
    utf8ByteSize_toString_int_le (by decide) (by omega)
  have hoverflow :
      (toString (resultJsonString.utf8ByteSize - outputBufferSize)).utf8ByteSize ≤ 20 :=
    utf8ByteSize_toString_nat_le (by decide) (by omega)
  unfold checkOverflow
  rw [if_pos hbig]
  simp only [String.utf8ByteSize_append]
  have hbuffer : outputBufferSize = 51200 := rfl
  have hhead : String.utf8ByteSize
    "\x7b\"state\":\"error\",\"error\":\"output to big, please retry with less count\",\"details\":"
      = 81 := rfl
  have hcountKey : ("\x7b\"count\":" : String).utf8ByteSize = 9 := rfl
  have hoverflowKey : (",\"overflow\":" : String).utf8ByteSize = 12 := rfl
  have hclose : ("\x7d\x7d" : String).utf8ByteSize = 2 := rfl
  rw [hhead, hcountKey, hoverflowKey, hclose]
  omega

/-- The response for an email without a list is short. -/
theorem utf8ByteSize_noListResponse_lt (c : Circumstances) :
    (noListResponse c.timeUsed).utf8ByteSize < outputBufferSize := by
  have hhead : ("\x7b\"state\":\"success\",\"count\":0,\"gdtEntries\":[],\"gdtSum\":0,\"timeUsed\":"
      : String).utf8ByteSize = 67 := rfl
  have hclose : ("\x7d" : String).utf8ByteSize = 1 := rfl
  have hshort := c.timeUsed_short
  have hbuffer : outputBufferSize = 51200 := rfl
  unfold noListResponse
  rw [String.utf8ByteSize_append, String.utf8ByteSize_append, hhead, hclose, hbuffer]
  omega

/-- **Which responses fit into the output buffer**: all but the page of exactly the buffer's
size. -/
theorem listPerEmailApi_size_lt_iff (config : Config) (c : Circumstances) (email : String)
    (page count : Int32) (order : OrderDirections) (s : CacheServer)
    (hsize : ∀ l, s.gdtEntryList email = some l →
      View.GdtEntryList.pageSize l c.timeUsed page count order < 2 ^ 64) :
    (∀ text, (s.listPerEmailApi config c email page count order).1 = .ok text →
        text.utf8ByteSize < outputBufferSize) ↔
      ¬ (c.locked = true ∧ ∃ l, s.gdtEntryList email = some l ∧
        View.GdtEntryList.pageSize l c.timeUsed page count order = outputBufferSize) := by
  unfold listPerEmailApi
  cases hlocked : c.locked with
  | false => simp
  | true =>
    simp only [if_true, true_and]
    cases hlist : s.gdtEntryList email with
    | none =>
      have hshort := utf8ByteSize_noListResponse_lt c
      refine iff_of_true ?_ (by simp)
      rintro text ⟨⟩
      exact hshort
    | some l =>
      have hpage := View.GdtEntryList.utf8ByteSize_toJsonString l c.timeUsed page count order
      have hsize := hsize l hlist
      rw [← hpage] at hsize
      simp only [Option.some.injEq, exists_eq_left', Except.ok.injEq, forall_eq']
      rw [← hpage]
      by_cases hbig : outputBufferSize
          < (View.GdtEntryList.toJsonString l c.timeUsed page count order).utf8ByteSize
      · exact iff_of_true (utf8ByteSize_checkOverflow_lt hbig hsize) (by omega)
      · -- the page itself is the response
        unfold checkOverflow
        rw [if_neg hbig]
        omega

/-! ### A long comment -/

/-- An entry with a comment of `n` letters. -/
def longEntry (n : ℕ) : GdtEntry :=
  .new (fun _ => 0) 1 100 1663160964 "bob@example.org" (String.ofList (List.replicate n 'a')) "" ""
    "" 7 1 1 0 1 100

/-- Its list. -/
def longList (n : ℕ) : GdtEntryList :=
  (GdtEntryList.new 0).addGdtEntry 0 (longEntry n)

/-- A cache that holds nothing but this list. -/
def longCache (n : ℕ) : CacheServer :=
  { new with
    mGdtEntriesByEmails := UnorderedMap.assign ∅ 7 (some (longList n))
    mEmailCustomerIds := UnorderedMap.assign ∅ "bob@example.org" 7 }

theorem gdtEntryList_longCache (n : ℕ) :
    (longCache n).gdtEntryList "bob@example.org" = some (longList n) := by
  unfold gdtEntryList longCache
  simp

/-- The first page has `244` bytes besides the comment. -/
theorem pageSize_longList (n : ℕ) :
    View.GdtEntryList.pageSize (longList n) "0" 1 25 .ASC = 244 + n := by
  have hentry : entrySize (longEntry n)
      = 128 + (toString (1 : ℤ)).utf8ByteSize + numberSize ((100 : ℤ) / 100)
        + (putTime (localtime (fun _ => 0) 1663160964)).utf8ByteSize
        + "bob@example.org".utf8ByteSize + (String.ofList (List.replicate n 'a')).utf8ByteSize
        + "".utf8ByteSize + (toString (1 : ℤ)).utf8ByteSize + numberSize 1
        + numberSize ((0 : ℤ) / 100) + numberSize 1 + numberSize (100 / 100) := rfl
  have hid : (toString (1 : ℤ)).utf8ByteSize = 1 := rfl
  have hone : numberSize 1 = 1 := by decide +kernel
  have hamount : numberSize ((100 : ℤ) / 100) = 1 := by decide +kernel
  have hamount2 : numberSize ((0 : ℤ) / 100) = 1 := by decide +kernel
  have hgdt : numberSize (100 / 100) = 1 := by decide +kernel
  have hdate : (putTime (localtime (fun _ => 0) 1663160964)).utf8ByteSize = 25 := by decide
  have hemail : "bob@example.org".utf8ByteSize = 15 := rfl
  rw [hid, hone, hamount, hamount2, hgdt, hdate, hemail, utf8ByteSize_replicate (by decide),
    String.utf8ByteSize_empty] at hentry
  have hsum : numberSize (longList n).getGdtSum = 1 := by
    show numberSize (0 + 100 / 100) = 1
    decide +kernel
  have hcount : (toString (longList n).getTotalCount).utf8ByteSize = 1 := rfl
  have htime : "0".utf8ByteSize = 1 := rfl
  have hentries : View.GdtEntryList.pageEntries (longList n).getGdtEntries 1 25 .ASC
      = [longEntry n] := rfl
  unfold View.GdtEntryList.pageSize
  simp only [hentries, hsum, hcount, htime, List.map_singleton, List.sum_singleton,
    List.length_singleton, hentry]
  omega

/-- The circumstances of the examples. -/
def sampleCircumstances : Circumstances :=
  ⟨0, "0", by decide, true⟩

theorem listPerEmailApi_longCache (n : ℕ) :
    ((longCache n).listPerEmailApi {} sampleCircumstances "bob@example.org" 1 25 .ASC).1
      = .ok (checkOverflow 25
          (View.GdtEntryList.toJsonString (longList n) "0" 1 25 .ASC)) := by
  unfold listPerEmailApi
  rw [gdtEntryList_longCache]
  rfl

/-- With a comment of `10` letters the page fits. -/
theorem listPerEmailApi_size_lt_of_short :
    ∃ text, ((longCache 10).listPerEmailApi {} sampleCircumstances "bob@example.org" 1 25 .ASC).1
      = .ok text ∧ text.utf8ByteSize < outputBufferSize := by
  have hsize : ∀ l, (longCache 10).gdtEntryList "bob@example.org" = some l →
      View.GdtEntryList.pageSize l "0" 1 25 .ASC = 254 := by
    intro l hl
    rw [gdtEntryList_longCache] at hl
    rw [← Option.some.inj hl, pageSize_longList]
  refine ⟨_, listPerEmailApi_longCache 10, (listPerEmailApi_size_lt_iff {} sampleCircumstances
    "bob@example.org" 1 25 .ASC (longCache 10) fun l hl => ?_).mpr ?_ _
    (listPerEmailApi_longCache 10)⟩
  · rw [show sampleCircumstances.timeUsed = "0" from rfl, hsize l hl]
    decide
  · rintro ⟨-, l, hl, hpage⟩
    rw [show sampleCircumstances.timeUsed = "0" from rfl, hsize l hl] at hpage
    exact absurd hpage (by decide)

/-- With one of `50956` letters it is as long as the buffer. -/
theorem listPerEmailApi_size_eq :
    ∃ text, ((longCache 50956).listPerEmailApi {} sampleCircumstances "bob@example.org" 1 25 .ASC).1
      = .ok text ∧ ¬ text.utf8ByteSize < outputBufferSize := by
  have hsize : (View.GdtEntryList.toJsonString (longList 50956) "0" 1 25 .ASC).utf8ByteSize
      = outputBufferSize := by
    rw [View.GdtEntryList.utf8ByteSize_toJsonString, pageSize_longList]
    rfl
  refine ⟨View.GdtEntryList.toJsonString (longList 50956) "0" 1 25 .ASC, ?_, by omega⟩
  rw [listPerEmailApi_longCache, checkOverflow, if_neg (by omega)]

end GdtCache.CacheServer
