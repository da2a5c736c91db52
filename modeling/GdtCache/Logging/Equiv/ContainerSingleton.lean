import GdtCache.Lib.ByteSize
import GdtCache.Lib.LongestFit
import GdtCache.Logging.ContainerSingleton
import Mathlib.Data.List.Induction

/-!
# What the error list shows

After any number of errors the container holds the last 100 of them and the number of the others
(`retained_addLog`).  `getErrorsHtml` shows the entries that fit into the page, from the oldest on,
and the omission marker if one does not (`appendEntries_eq`).
-/

namespace GdtCache.Logging.ContainerSingleton

open GdtCache.Lib

/-! ### What is retained -/

/-- The entries that are still there after some have been logged. -/
def retained (logs : List Entry) : List Entry :=
  logs.drop (logs.length - 100)

/-- How many are not. -/
def removed (logs : List Entry) : Int32 :=
  Int32.ofNat (logs.length - 100)

theorem removeOldest_eq (logEntries : List Entry) :
    ∀ removedErrors, removeOldest logEntries removedErrors
      = (retained logEntries, removedErrors + removed logEntries) := by
  unfold retained removed
  induction logEntries with
  | nil =>
    intro removedErrors
    simp [removeOldest]
  | cons log logEntries ih =>
    intro removedErrors
    rw [removeOldest]
    split_ifs with hlength
    · have hsucc : (log :: logEntries).length - 100 = logEntries.length - 100 + 1 := by
        simp only [List.length_cons] at hlength ⊢
        omega
      rw [ih, hsucc, List.drop_succ_cons, Int32.ofNat_add, Int32.add_comm (Int32.ofNat _),
        ← Int32.add_assoc]
      rfl
    · have hzero : (log :: logEntries).length - 100 = 0 := by omega
      rw [hzero, List.drop_zero]
      exact congrArg _ (Int32.add_zero removedErrors).symm

/-- The container holds what is retained of these entries. -/
def Holds (s : ContainerSingleton) (logs : List Entry) : Prop :=
  s.mLogEntries = retained logs ∧ s.mRemovedErrors = removed logs

/-- **Step.** -/
theorem Holds.addLog {s : ContainerSingleton} {logs : List Entry} (h : s.Holds logs) (log : Entry) :
    (s.addLog log).Holds (logs ++ [log]) := by
  obtain ⟨hentries, hremoved⟩ := h
  have hlength : (retained logs ++ [log]).length = logs.length - (logs.length - 100) + 1 := by
    simp [retained]
  have happend : retained logs ++ [log] = (logs ++ [log]).drop (logs.length - 100) := by
    rw [List.drop_append_of_le_length (by omega), retained]
  have hresult : ((s.addLog log).mLogEntries, (s.addLog log).mRemovedErrors)
      = (retained (retained logs ++ [log]), removed logs + removed (retained logs ++ [log])) := by
    rw [← hentries, ← hremoved, ← removeOldest_eq]
    rfl
  obtain ⟨hentries', hremoved'⟩ := Prod.mk.inj hresult
  -- at most one of them is too many
  have hcount : logs.length - 100 + (logs.length - (logs.length - 100) + 1 - 100)
      = (logs ++ [log]).length - 100 := by
    rw [List.length_append, List.length_singleton]
    omega
  constructor
  · rw [hentries', retained, hlength, happend, List.drop_drop, hcount, retained]
  · rw [hremoved', removed, removed, removed, ← Int32.ofNat_add, hlength, hcount]

/-- **Run.**  The container holds the last 100 errors and counts the others. -/
theorem retained_addLog (str : String) (logs : List Entry) :
    (logs.foldl ContainerSingleton.addLog (new.setDbUpdateTime str)).Holds logs := by
  induction logs using List.reverseRecOn with
  | nil => exact ⟨rfl, rfl⟩
  | append_singleton logs log ih =>
    rw [List.foldl_append]
    exact ih.addLog log

/-- Errors do not touch the time of the last update. -/
theorem mDBUpdateLastTimes_foldl_addLog (logs : List Entry) (s : ContainerSingleton) :
    (logs.foldl ContainerSingleton.addLog s).mDBUpdateLastTimes = s.mDBUpdateLastTimes := by
  induction logs generalizing s with
  | nil => rfl
  | cons log logs ih => exact ih (s.addLog log)

/-! ### What is shown -/

/-- The bytes of an entry. -/
def logSize (log : Entry) : ℕ :=
  42 + (typeSpan log.type).utf8ByteSize + (typeToString log.type).utf8ByteSize
    + log.function.utf8ByteSize + log.message.utf8ByteSize + log.file.utf8ByteSize
    + (toString log.line).utf8ByteSize

theorem utf8ByteSize_logMessageHtml (log : Entry) :
    (logMessageHtml log).utf8ByteSize = logSize log := by
  have hopen : ("<li>" : String).utf8ByteSize = 4 := rfl
  have hspan : ("</span>&nbsp;" : String).utf8ByteSize = 13 := rfl
  have hfunction : ("[" : String).utf8ByteSize = 1 := rfl
  have hmessage : ("] " : String).utf8ByteSize = 2 := rfl
  have hfile : (" (file: " : String).utf8ByteSize = 8 := rfl
  have hline : (", line: " : String).utf8ByteSize = 8 := rfl
  have hclose : (")</li>" : String).utf8ByteSize = 6 := rfl
  unfold logMessageHtml logSize
  simp only [String.utf8ByteSize_append]
  rw [hopen, hspan, hfunction, hmessage, hfile, hline, hclose]
  omega

/-- Entries, one behind the other. -/
def entriesHtml : List Entry → String
  | [] => ""
  | log :: logEntries => logMessageHtml log ++ entriesHtml logEntries

theorem utf8ByteSize_entriesHtml (logEntries : List Entry) :
    (entriesHtml logEntries).utf8ByteSize = (logEntries.map logSize).sum := by
  induction logEntries with
  | nil => rfl
  | cons log logEntries ih =>
    rw [entriesHtml, String.utf8ByteSize_append, utf8ByteSize_logMessageHtml, ih, List.map_cons,
      List.sum_cons]

/-- **What is shown**: as many entries as fit, and the marker unless these are all. -/
theorem appendEntries_eq (logEntries : List Entry) :
    ∀ resultHtml, appendEntries resultHtml logEntries
      = resultHtml
        ++ entriesHtml (logEntries.take
            (fitCount maxHtmlSize resultHtml.utf8ByteSize (logEntries.map logSize)))
        ++ if fitCount maxHtmlSize resultHtml.utf8ByteSize (logEntries.map logSize)
            < logEntries.length then omissionMarker else "" := by
  induction logEntries with
  | nil =>
    intro resultHtml
    simp [appendEntries, fitCount, entriesHtml]
  | cons log logEntries ih =>
    intro resultHtml
    rw [appendEntries, List.map_cons, fitCount, utf8ByteSize_logMessageHtml]
    by_cases hfull : maxHtmlSize < resultHtml.utf8ByteSize + logSize log
    · have hmore : 0 < (log :: logEntries).length := Nat.zero_lt_succ logEntries.length
      rw [if_pos hfull, if_pos hfull, if_pos hmore]
      simp [entriesHtml]
    · rw [if_neg hfull, if_neg hfull, ih, String.utf8ByteSize_append, utf8ByteSize_logMessageHtml,
        List.take_succ_cons, entriesHtml]
      simp only [List.length_cons, Nat.add_lt_add_iff_right, String.append_assoc]

/-- The bytes in front of the entries. -/
theorem utf8ByteSize_entriesHead (dbUpdateLastTimes : String) :
    (entriesHead dbUpdateLastTimes).utf8ByteSize = 53 + dbUpdateLastTimes.utf8ByteSize := by
  have hsuccess : ("<ul class='success'>" : String).utf8ByteSize = 20 := rfl
  have hopen : ("<li>" : String).utf8ByteSize = 4 := rfl
  have hclose : ("</li>" : String).utf8ByteSize = 5 := rfl
  have herrors : ("</ul><ul class='errors'>" : String).utf8ByteSize = 24 := rfl
  unfold entriesHead
  simp only [String.utf8ByteSize_append]
  rw [hsuccess, hopen, hclose, herrors]
  omega

/-- The bytes of the entries that are shown, the marker included. -/
theorem utf8ByteSize_appendEntries {dbUpdateLastTimes : String} {logEntries : List Entry} {k : ℕ}
    (hk : LongestFit maxHtmlSize (53 + dbUpdateLastTimes.utf8ByteSize) (logEntries.map logSize) k) :
    (appendEntries (entriesHead dbUpdateLastTimes) logEntries).utf8ByteSize
      = 53 + dbUpdateLastTimes.utf8ByteSize + ((logEntries.map logSize).take k).sum
        + if k < logEntries.length then 12 else 0 := by
  have hmarker : omissionMarker.utf8ByteSize = 12 := rfl
  have hused : 53 + dbUpdateLastTimes.utf8ByteSize ≤ maxHtmlSize := by
    have hfits := hk.fits
    omega
  obtain rfl := hk.eq (fitCount_longestFit hused)
  rw [appendEntries_eq, String.utf8ByteSize_append, String.utf8ByteSize_append,
    utf8ByteSize_entriesHtml, utf8ByteSize_entriesHead, List.map_take]
  split_ifs
  · rw [hmarker]
  · rfl

end GdtCache.Logging.ContainerSingleton
