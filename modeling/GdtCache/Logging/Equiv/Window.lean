import GdtCache.Logging.Equiv.ContainerSingleton

/-!
# The window of the error list

What the page shows of a whole history of errors.  `addLog` keeps the last 100 of them
(`retained_addLog`), `getErrorsHtml` shows these from the oldest on up to the first that does not
fit, and both say what is left out (`getErrorsHtml_afterLogs`).
-/

namespace GdtCache.Logging.ContainerSingleton

open GdtCache.Lib

/-- The container after some errors. -/
def afterLogs (dbUpdateLastTimes : String) (logs : List Entry) : ContainerSingleton :=
  logs.foldl ContainerSingleton.addLog (new.setDbUpdateTime dbUpdateLastTimes)

theorem mDBUpdateLastTimes_afterLogs (dbUpdateLastTimes : String) (logs : List Entry) :
    (afterLogs dbUpdateLastTimes logs).mDBUpdateLastTimes = dbUpdateLastTimes :=
  mDBUpdateLastTimes_foldl_addLog logs _

theorem addLog_afterLogs (dbUpdateLastTimes : String) (logs : List Entry) (log : Entry) :
    (afterLogs dbUpdateLastTimes logs).addLog log
      = afterLogs dbUpdateLastTimes (logs ++ [log]) := by
  rw [afterLogs, afterLogs, List.foldl_append]
  rfl

/-- When the time is set makes no difference to the errors. -/
theorem setDbUpdateTime_foldl_addLog (str : String) (logs : List Entry) (s : ContainerSingleton) :
    (logs.foldl ContainerSingleton.addLog s).setDbUpdateTime str
      = logs.foldl ContainerSingleton.addLog (s.setDbUpdateTime str) := by
  induction logs generalizing s with
  | nil => rfl
  | cons log logs ih => exact ih (s.addLog log)

theorem setDbUpdateTime_afterLogs (dbUpdateLastTimes str : String) (logs : List Entry) :
    (afterLogs dbUpdateLastTimes logs).setDbUpdateTime str = afterLogs str logs :=
  setDbUpdateTime_foldl_addLog str logs _

/-- Of fewer than `2 ^ 31` errors the counter is right. -/
theorem toInt_removed {logs : List Entry} (h : logs.length < 2 ^ 31) :
    (removed logs).toInt = (logs.length - 100 : ℕ) := by
  unfold removed
  exact Int32.toInt_ofNat_of_lt (by omega)

/-- The sentence about removed errors. -/
theorem removedErrorsHtml_removed {logs : List Entry} (h : logs.length < 2 ^ 31) :
    removedErrorsHtml (removed logs)
      = if 100 < logs.length then
          toString (logs.length - 100) ++ " additional errors already removed from memory"
        else "" := by
  have hzero : removed logs = 0 ↔ ¬ 100 < logs.length := by
    rw [← Int32.toInt_inj, toInt_removed h]
    simp only [Int32.toInt_zero]
    omega
  unfold removedErrorsHtml
  rw [toInt_removed h]
  by_cases hmany : 100 < logs.length
  · rw [if_neg fun heq => hzero.mp heq hmany, if_pos hmany]
    rfl
  · rw [if_pos (hzero.mpr hmany), if_neg hmany]

/-- The bytes of the page up to an entry. -/
theorem utf8ByteSize_entriesHtml_take (head : String) (logEntries : List Entry) (k : ℕ) :
    (head ++ entriesHtml (logEntries.take k)).utf8ByteSize
      = head.utf8ByteSize + ((logEntries.map logSize).take k).sum := by
  rw [String.utf8ByteSize_append, utf8ByteSize_entriesHtml, List.map_take]

/-- The entries that are shown are those in front of the first that does not fit. -/
theorem exists_appendEntries (head : String) (logEntries : List Entry) :
    ∃ k ≤ logEntries.length,
      appendEntries head logEntries = head ++ entriesHtml (logEntries.take k)
        ++ (if k < logEntries.length then omissionMarker else "") ∧
      (∀ j < k, (head ++ entriesHtml (logEntries.take (j + 1))).utf8ByteSize ≤ maxHtmlSize) ∧
      (k < logEntries.length →
        maxHtmlSize < (head ++ entriesHtml (logEntries.take (k + 1))).utf8ByteSize) := by
  obtain ⟨hle, hfits, hlast⟩ :=
    @fitCount_spec maxHtmlSize (logEntries.map logSize) head.utf8ByteSize
  rw [List.length_map] at hle hlast
  refine ⟨_, hle, appendEntries_eq logEntries head, fun j hj => ?_, fun hlt => ?_⟩
  · rw [utf8ByteSize_entriesHtml_take]
    exact hfits j hj
  · rw [utf8ByteSize_entriesHtml_take]
    exact hlast hlt

/-- **The window.**  After `n < 2 ^ 31` errors the last `min n 100` of them are retained, the oldest
first, and the others are counted.  The page shows the retained ones up to the first that does not
fit, each of them whole, then the marker if there is such a one, and at the end how many errors have
been removed, if any have. -/
theorem getErrorsHtml_afterLogs (dbUpdateLastTimes : String) (logs : List Entry)
    (h : logs.length < 2 ^ 31) :
    (afterLogs dbUpdateLastTimes logs).mLogEntries
        = logs.drop (logs.length - min logs.length 100) ∧
      (afterLogs dbUpdateLastTimes logs).mRemovedErrors.toInt
        = logs.length - (min logs.length 100 : ℕ) ∧
      ∃ k ≤ (afterLogs dbUpdateLastTimes logs).mLogEntries.length,
        (afterLogs dbUpdateLastTimes logs).getErrorsHtml
          = entriesHead dbUpdateLastTimes
            ++ entriesHtml ((afterLogs dbUpdateLastTimes logs).mLogEntries.take k)
            ++ (if k < (afterLogs dbUpdateLastTimes logs).mLogEntries.length then omissionMarker
              else "")
            ++ "</ul>"
            ++ (if 100 < logs.length then
                toString (logs.length - 100) ++ " additional errors already removed from memory"
              else "") ∧
        (∀ j < k, (entriesHead dbUpdateLastTimes ++ entriesHtml
          ((afterLogs dbUpdateLastTimes logs).mLogEntries.take (j + 1))).utf8ByteSize
            ≤ maxHtmlSize) ∧
        (k < (afterLogs dbUpdateLastTimes logs).mLogEntries.length →
          maxHtmlSize < (entriesHead dbUpdateLastTimes ++ entriesHtml
            ((afterLogs dbUpdateLastTimes logs).mLogEntries.take (k + 1))).utf8ByteSize) := by
  obtain ⟨hentries, hremoved⟩ : (afterLogs dbUpdateLastTimes logs).Holds logs :=
    retained_addLog dbUpdateLastTimes logs
  refine ⟨?_, ?_, ?_⟩
  · have hcount : logs.length - min logs.length 100 = logs.length - 100 := by omega
    rw [hentries, retained, hcount]
  · rw [hremoved, toInt_removed h]
    omega
  · obtain ⟨k, hle, hpage, hfits, hlast⟩ := exists_appendEntries (entriesHead dbUpdateLastTimes)
      (afterLogs dbUpdateLastTimes logs).mLogEntries
    refine ⟨k, hle, ?_, hfits, hlast⟩
    rw [getErrorsHtml, mDBUpdateLastTimes_afterLogs, hpage, hremoved, removedErrorsHtml_removed h]

/-- The 101st error removes the first. -/
theorem toInt_mRemovedErrors_afterLogs :
    (afterLogs ""
      (List.replicate 101 ⟨.ERROR, "no database", "f", "f.cpp", 1⟩)).mRemovedErrors.toInt = 1 := by
  have hlength : (List.replicate 101 (⟨.ERROR, "no database", "f", "f.cpp", 1⟩ : Entry)).length
      = 101 := List.length_replicate
  have hwindow := getErrorsHtml_afterLogs ""
    (List.replicate 101 ⟨.ERROR, "no database", "f", "f.cpp", 1⟩) (by omega)
  rw [hwindow.2.1, hlength]
  rfl

end GdtCache.Logging.ContainerSingleton
