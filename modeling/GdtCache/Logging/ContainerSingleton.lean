import Mathlib.Data.List.Basic
import Mathlib.Data.Int.Notation

/-!
# Logged errors

`logging::ContainerSingleton` keeps the last 100 errors for the status page and renders them.
Its functions are taken to find their mutexes free and memory enough: what they do otherwise is to
complain on `std::clog`.
-/

namespace GdtCache.Logging

/-! ### Entries -/

/-- `logging::Type` -/
inductive LogType
  | INFORMATION
  | ERROR
  | DEBUGGING
  deriving DecidableEq

/-- `typeToString` -/
def typeToString : LogType → String
  | .INFORMATION => "info"
  | .ERROR => "error"
  | .DEBUGGING => "debugging"

/-- `logging::Entry` -/
structure Entry where
  type : LogType
  message : String
  function : String
  file : String
  line : ℤ

/-- The tag around the type of an entry. -/
def typeSpan (type : LogType) : String :=
  if type = .ERROR then "<span style='color:red;'>"
  else if type = .INFORMATION then "<span style='color:grey;'>"
  else "<span>"

/-- `logMessageHtml` -/
def logMessageHtml (log : Entry) : String :=
  "<li>" ++ typeSpan log.type ++ typeToString log.type ++ "</span>&nbsp;" ++ "[" ++ log.function
    ++ "] " ++ log.message ++ " (file: " ++ log.file ++ ", line: " ++ toString log.line ++ ")</li>"

/-! ### The container -/

/-- `ContainerSingleton` -/
structure ContainerSingleton where
  /-- The oldest first. -/
  mLogEntries : List Entry
  mRemovedErrors : Int32
  mDBUpdateLastTimes : String

namespace ContainerSingleton

/-- The constructor. -/
def new : ContainerSingleton :=
  ⟨[], 0, ""⟩

/-- `setDbUpdateTime` -/
def setDbUpdateTime (s : ContainerSingleton) (str : String) : ContainerSingleton :=
  { s with mDBUpdateLastTimes := str }

/-- `getDbLastUpdateTime` -/
def getDbLastUpdateTime (s : ContainerSingleton) : String := s.mDBUpdateLastTimes

/-- The loop of `addLog` that removes the oldest entries. -/
def removeOldest : List Entry → Int32 → List Entry × Int32
  | [], removedErrors => ([], removedErrors)
  | log :: logEntries, removedErrors =>
    if 100 < (log :: logEntries).length then removeOldest logEntries (removedErrors + 1)
    else (log :: logEntries, removedErrors)

/-- `addLog` -/
def addLog (s : ContainerSingleton) (log : Entry) : ContainerSingleton :=
  let (logEntries, removedErrors) := removeOldest (s.mLogEntries ++ [log]) s.mRemovedErrors
  { s with mLogEntries := logEntries, mRemovedErrors := removedErrors }

/-- lithium's buffer size without 100 bytes for the html page. -/
def maxHtmlSize : ℕ := 50 * 1024 - 100

/-- What stands for the entries that are not shown. -/
def omissionMarker : String := "<li>...</li>"

/-- The loop of `getErrorsHtml`. -/
def appendEntries : String → List Entry → String
  | resultHtml, [] => resultHtml
  | resultHtml, log :: logEntries =>
    if maxHtmlSize < resultHtml.utf8ByteSize + (logMessageHtml log).utf8ByteSize then
      resultHtml ++ omissionMarker
    else appendEntries (resultHtml ++ logMessageHtml log) logEntries

/-- What stands in front of the entries. -/
def entriesHead (dbUpdateLastTimes : String) : String :=
  "<ul class='success'>" ++ ("<li>" ++ dbUpdateLastTimes ++ "</li>") ++ "</ul><ul class='errors'>"

/-- What is said about removed entries. -/
def removedErrorsHtml (removedErrors : Int32) : String :=
  if removedErrors = 0 then ""
  else toString removedErrors.toInt ++ " additional errors already removed from memory"

/-- `getErrorsHtml` -/
def getErrorsHtml (s : ContainerSingleton) : String :=
  appendEntries (entriesHead s.mDBUpdateLastTimes) s.mLogEntries ++ "</ul>"
    ++ removedErrorsHtml s.mRemovedErrors

/-- `hasErrors` -/
def hasErrors (s : ContainerSingleton) : Bool :=
  decide (0 < s.mLogEntries.length)

end ContainerSingleton

end GdtCache.Logging
