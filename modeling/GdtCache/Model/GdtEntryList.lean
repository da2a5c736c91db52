import GdtCache.Lib.UnorderedMap
import GdtCache.Model.Config
import GdtCache.Model.GdtEntry

/-!
# Lists of gdt entries

`model::GdtEntryList`: the entries of one customer with a running count and sum, and the time of
the last `addGdtEntry`.  Every operation that reads the clock takes its reading as `now`.
-/

namespace GdtCache.Model

open GdtCache.Lib

/-- `model::GdtEntryList` -/
structure GdtEntryList where
  mTotalCount : ℤ
  mGdtEntries : List GdtEntry
  mTotalGDTSum : ℚ
  mLastUpdate : ℤ
  deriving DecidableEq

namespace GdtEntryList

/-- The constructor. -/
def new (now : ℤ) : GdtEntryList where
  mTotalCount := 0
  mGdtEntries := []
  mTotalGDTSum := 0
  mLastUpdate := now

def reset (l : GdtEntryList) : GdtEntryList :=
  { l with mGdtEntries := [], mTotalCount := 0, mTotalGDTSum := 0 }

/-- `addGdtEntry`.  An entry that arrives out of order is only reported on `stderr`. -/
def addGdtEntry (now : ℤ) (l : GdtEntryList) (gdtEntry : GdtEntry) : GdtEntryList where
  mTotalCount := l.mTotalCount + 1
  mTotalGDTSum := l.mTotalGDTSum + gdtEntry.getGdt
  mGdtEntries := l.mGdtEntries ++ [gdtEntry]
  mLastUpdate := now

/-- The search loop of `insertGdtEntry`: `gdtEntry` goes before the first entry that is not older;
past the end nothing is inserted. -/
def insertBefore (gdtEntry : GdtEntry) : List GdtEntry → List GdtEntry
  | [] => []
  | e :: es =>
    if gdtEntry.getDate ≤ e.getDate then gdtEntry :: e :: es else e :: insertBefore gdtEntry es

/-- `insertGdtEntry` -/
def insertGdtEntry (l : GdtEntryList) (gdtEntry : GdtEntry) : GdtEntryList :=
  { l with
    mTotalCount := l.mTotalCount + 1
    mTotalGDTSum := l.mTotalGDTSum + gdtEntry.getGdt
    mGdtEntries :=
      if l.mGdtEntries.getLast?.all fun e => e.getDate ≤ gdtEntry.getDate then
        l.mGdtEntries ++ [gdtEntry]
      else insertBefore gdtEntry l.mGdtEntries }

/-- `canUpdate`: the list is older than the minimal cache timeout. -/
def canUpdate (config : Config) (now : ℤ) (l : GdtEntryList) : Bool :=
  config.minCacheTimeout < now - l.mLastUpdate

def getTotalCount (l : GdtEntryList) : ℤ := l.mTotalCount
def getGdtEntries (l : GdtEntryList) : List GdtEntry := l.mGdtEntries
def getGdtSum (l : GdtEntryList) : ℚ := l.mTotalGDTSum

end GdtEntryList

/-- `model::GdtEntryListPtr`; `none` is the null pointer. -/
abbrev GdtEntryListPtr := Option GdtEntryList

/-- `model::EmailGdtEntriesListMap`, indexed by customer id. -/
abbrev EmailGdtEntriesListMap := UnorderedMap ℤ GdtEntryListPtr

end GdtCache.Model
