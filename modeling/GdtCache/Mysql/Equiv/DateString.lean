import GdtCache.Mysql.GdtEntry
import GdtCache.Utils.Equiv.Time

/-!
# The date string of an entry

The constructor of an entry prints the date of its row in the server's local time, and `+00:00`
behind it.  A client that reads the string gets the instant moved by the server's offset from UTC,
so the date comes through where that offset is zero, and two dates have one string where their
local times are the same (`getDateString_faithful_iff`).
-/

namespace GdtCache.Mysql.GdtEntry

open GdtCache.Lib

/-- What a client reads, and when two rows show the same date. -/
theorem readDateTime_getDateString (timeZone : TimeZone) (row : GdtEntryRow) :
    readDateTime (entry timeZone row).getDateString = some (row.date + timeZone row.date) :=
  readDateTime_localtime timeZone row.date

theorem getDateString_eq_iff (timeZone : TimeZone) (row row' : GdtEntryRow) :
    (entry timeZone row).getDateString = (entry timeZone row').getDateString ↔
      row.date + timeZone row.date = row'.date + timeZone row'.date :=
  putTime_localtime_inj timeZone row.date row'.date

/-- **The date comes through on a server in UTC.**  The date string denotes the date of the row and
is no other date's exactly if local time is UTC at that date, and at no other date shows the
same. -/
theorem getDateString_faithful_iff (timeZone : TimeZone) (row : GdtEntryRow) :
    (readDateTime (entry timeZone row).getDateString = some row.date ∧
        ∀ row' : GdtEntryRow, row'.date ≠ row.date →
          (entry timeZone row').getDateString ≠ (entry timeZone row).getDateString) ↔
      timeZone row.date = 0 ∧ ∀ date, date ≠ row.date → date + timeZone date ≠ row.date := by
  rw [readDateTime_getDateString, Option.some.injEq, add_eq_left]
  refine and_congr_right fun hzone => ⟨fun h date hne heq => ?_, fun h row' hne heq => ?_⟩
  · -- a row with that date shows the same string
    refine h { row with date := date } hne ((getDateString_eq_iff timeZone _ row).mpr ?_)
    rw [hzone, add_zero]
    exact heq
  · rw [getDateString_eq_iff, hzone, add_zero] at heq
    exact h row'.date hne heq

/-- A server an hour east of UTC shows an entry an hour late. -/
theorem getDateString_not_faithful :
    (entry (fun _ => 3600) ⟨1, 500, 1663160964, "bob@example.org", "", "", "", "", 7, 1, 1, 0, 1,
        20⟩).getDateString = "2022-09-14T14:09:24+00:00" ∧
      readDateTime (entry (fun _ => 3600) ⟨1, 500, 1663160964, "bob@example.org", "", "", "", "", 7,
        1, 1, 0, 1, 20⟩).getDateString ≠ some 1663160964 := by
  refine ⟨by decide, ?_⟩
  rw [readDateTime_getDateString]
  decide

end GdtCache.Mysql.GdtEntry
