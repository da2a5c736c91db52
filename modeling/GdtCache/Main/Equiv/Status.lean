import GdtCache.CacheServer.Basic
import GdtCache.Logging.Equiv.ContainerSingleton
import GdtCache.Main.Status

/-!
# How long the status page is

`getErrorsHtml` leaves 100 bytes of lithium's output buffer for what it does not count: the page
around the list, the omission marker, a closing tag, and the sentence about removed errors.  Without
that sentence they suffice; with it they need not (`status_size_lt_iff`).
-/

namespace GdtCache

open GdtCache.Lib GdtCache.Logging GdtCache.Logging.ContainerSingleton

/-- The bytes of the sentence about removed errors. -/
theorem utf8ByteSize_removedErrorsHtml (removedErrors : Int32) :
    (removedErrorsHtml removedErrors).utf8ByteSize
      = if removedErrors = 0 then 0 else (toString removedErrors.toInt).utf8ByteSize + 46 := by
  have hsentence : (" additional errors already removed from memory" : String).utf8ByteSize = 46 :=
    rfl
  unfold removedErrorsHtml
  split_ifs
  · rfl
  · rw [String.utf8ByteSize_append, hsentence]

/-- The bytes of the status page after some errors. -/
theorem utf8ByteSize_status {dbUpdateLastTimes : String} {logs : List Entry} (hlogs : logs ≠ [])
    {k : ℕ} (hk : LongestFit maxHtmlSize (53 + dbUpdateLastTimes.utf8ByteSize)
      ((retained logs).map logSize) k) :
    (status (logs.foldl addLog (new.setDbUpdateTime dbUpdateLastTimes))).utf8ByteSize
      = 65 + (53 + dbUpdateLastTimes.utf8ByteSize + (((retained logs).map logSize).take k).sum
          + if k < (retained logs).length then 12 else 0)
        + if removed logs = 0 then 0 else (toString (removed logs).toInt).utf8ByteSize + 46 := by
  obtain ⟨hentries, hremoved⟩ := retained_addLog dbUpdateLastTimes logs
  have htimes : (logs.foldl addLog (new.setDbUpdateTime dbUpdateLastTimes)).mDBUpdateLastTimes
      = dbUpdateLastTimes := mDBUpdateLastTimes_foldl_addLog logs _
  generalize logs.foldl addLog (new.setDbUpdateTime dbUpdateLastTimes) = ec at *
  have herrors : ec.hasErrors = true := by
    have hlength : 0 < logs.length := List.length_pos_iff.mpr hlogs
    unfold hasErrors
    rw [hentries, retained, List.length_drop, decide_eq_true_eq]
    omega
  have hhead : ("<html><head><title>Errors</title></head><body>" : String).utf8ByteSize = 46 := rfl
  have hclose : ("</ul>" : String).utf8ByteSize = 5 := rfl
  have htail : ("</body></html>" : String).utf8ByteSize = 14 := rfl
  unfold status
  rw [if_pos herrors]
  unfold getErrorsHtml
  simp only [String.utf8ByteSize_append]
  rw [hhead, hclose, htail, htimes, hentries, hremoved, utf8ByteSize_appendEntries hk,
    utf8ByteSize_removedErrorsHtml]
  omega

/-- Without errors it is short. -/
theorem utf8ByteSize_status_nil (dbUpdateLastTimes : String) :
    (status (new.setDbUpdateTime dbUpdateLastTimes)).utf8ByteSize
      = dbUpdateLastTimes.utf8ByteSize + 14 := by
  have hok : ("<br>status: ok" : String).utf8ByteSize = 14 := rfl
  show (dbUpdateLastTimes ++ "<br>status: ok").utf8ByteSize = _
  rw [String.utf8ByteSize_append, hok]

/-- **When the status page fits into the output buffer**, after any number of errors: if none of
them is removed, or the entries that are shown, together with the list's head, the omission marker
and the digits of the number of removed ones, stay below `51089` bytes. -/
theorem status_size_lt_iff (dbUpdateLastTimes : String) (logs : List Entry)
    (hroom : 53 + dbUpdateLastTimes.utf8ByteSize ≤ maxHtmlSize) :
    (status (logs.foldl addLog (new.setDbUpdateTime dbUpdateLastTimes))).utf8ByteSize
        < CacheServer.outputBufferSize ↔
      removed logs = 0 ∨ ∃ k,
        LongestFit maxHtmlSize (53 + dbUpdateLastTimes.utf8ByteSize)
          ((retained logs).map logSize) k ∧
        53 + dbUpdateLastTimes.utf8ByteSize + (((retained logs).map logSize).take k).sum
          + (if k < (retained logs).length then 12 else 0)
          + (toString (removed logs).toInt).utf8ByteSize < 51089 := by
  have hmax : maxHtmlSize = 51100 := rfl
  have hbuffer : CacheServer.outputBufferSize = 51200 := rfl
  by_cases hlogs : logs = []
  · rw [hlogs, List.foldl_nil, utf8ByteSize_status_nil]
    exact iff_of_true (by omega) (.inl rfl)
  · have hfit := @fitCount_longestFit maxHtmlSize ((retained logs).map logSize) _ hroom
    generalize fitCount maxHtmlSize (53 + dbUpdateLastTimes.utf8ByteSize)
      ((retained logs).map logSize) = k at hfit
    have hfits := hfit.fits
    have hmarker : (if k < (retained logs).length then 12 else 0) ≤ 12 := by
      split_ifs
      · exact le_rfl
      · exact Nat.zero_le 12
    rw [utf8ByteSize_status hlogs hfit]
    by_cases hnone : removed logs = 0
    · -- the list and its tags stay within the slack
      rw [if_pos hnone]
      exact iff_of_true (by omega) (.inl hnone)
    · rw [if_neg hnone]
      constructor
      · intro h
        exact .inr ⟨k, hfit, by omega⟩
      · rintro (h | ⟨l, hl, h⟩)
        · exact absurd h hnone
        · obtain rfl := hfit.eq hl
          omega

/-- 101 short errors fit, though one of them is removed. -/
theorem status_size_lt_of_short :
    let log : Entry := ⟨.ERROR, "message", "run", "Task.cpp", 7⟩
    removed (List.replicate 101 log) = 1 ∧
      (status ((List.replicate 101 log).foldl addLog
        (new.setDbUpdateTime "dbTime: 12 ms"))).utf8ByteSize < CacheServer.outputBufferSize := by
  intro log
  have hsize : logSize log = 91 := by decide
  have hretained : (retained (List.replicate 101 log)).map logSize = List.replicate 100 91 := by
    rw [retained, List.length_replicate, List.drop_replicate, List.map_replicate, hsize]
  have hlength : (retained (List.replicate 101 log)).length = 100 := by
    rw [← List.length_map logSize, hretained, List.length_replicate]
  have hremoved : removed (List.replicate 101 log) = 1 := by
    rw [removed, List.length_replicate]
    rfl
  have hfit := @longestFit_length maxHtmlSize (53 + ("dbTime: 12 ms" : String).utf8ByteSize)
    (List.replicate 100 91) (by decide +kernel)
  rw [List.length_replicate, ← hretained] at hfit
  refine ⟨hremoved, (status_size_lt_iff "dbTime: 12 ms" (List.replicate 101 log) (by decide)).mpr
    (.inr ⟨100, hfit, ?_⟩)⟩
  rw [hretained, hlength, hremoved]
  decide +kernel

/-- 101 errors of 510 bytes each do not, with a time of 47 bytes: 100 of them fill the list to the
last byte. -/
theorem status_size_not_lt :
    let log : Entry := ⟨.ERROR, String.ofList (List.replicate 435 'a'), "f", "f", 1⟩
    ¬ (status ((List.replicate 101 log).foldl addLog
      (new.setDbUpdateTime (String.ofList (List.replicate 47 'a'))))).utf8ByteSize
        < CacheServer.outputBufferSize := by
  intro log
  have htime : (String.ofList (List.replicate 47 'a')).utf8ByteSize = 47 :=
    utf8ByteSize_replicate (by decide) 47
  have hmessage : log.message.utf8ByteSize = 435 := utf8ByteSize_replicate (by decide) 435
  have hspan : (typeSpan log.type).utf8ByteSize = 25 := rfl
  have htype : (typeToString log.type).utf8ByteSize = 5 := rfl
  have hfunction : log.function.utf8ByteSize = 1 := rfl
  have hline : (toString log.line).utf8ByteSize = 1 := rfl
  have hsize : logSize log = 510 := by
    rw [logSize, hspan, htype, hfunction, hmessage, hline]
  have hretained : (retained (List.replicate 101 log)).map logSize = List.replicate 100 510 := by
    rw [retained, List.length_replicate, List.drop_replicate, List.map_replicate, hsize]
  have hremoved : removed (List.replicate 101 log) = 1 := by
    rw [removed, List.length_replicate]
    rfl
  have hdigit : (toString (1 : Int32).toInt).utf8ByteSize = 1 := rfl
  have hfit : LongestFit maxHtmlSize (53 + (String.ofList (List.replicate 47 'a')).utf8ByteSize)
      ((retained (List.replicate 101 log)).map logSize) 100 := by
    rw [hretained, htime]
    have hall := @longestFit_length maxHtmlSize 100 (List.replicate 100 510) (by
      rw [List.sum_replicate]
      decide)
    rwa [List.length_replicate] at hall
  rw [utf8ByteSize_status (by simp) hfit, hretained, htime, hremoved, hdigit,
    List.take_of_length_le (by rw [List.length_replicate]), List.sum_replicate]
  have hbuffer : CacheServer.outputBufferSize = 51200 := rfl
  have hsome : ¬ (1 : Int32) = 0 := by decide
  have hsum : 100 • 510 = 51000 := rfl
  rw [if_neg hsome, hsum]
  omega

end GdtCache
