import Mathlib.Data.Int.Notation

/-!
# Calendar time

`std::localtime` and the one `std::put_time` format the program uses.  A time zone gives the
offset of local time from UTC, in seconds, at every instant; local time is the civil time of the
instant moved by that offset.  The civil date of a day number is the usual computation over eras
of 400 years that begin on the first of March.
-/

namespace GdtCache

/-- A server's time zone: seconds east of UTC at each instant. -/
abbrev TimeZone := ℤ → ℤ

/-- `std::tm`, with `tm_mon` counted from `0` and the year written out. -/
structure Tm where
  year : ℤ
  mon : ℤ
  mday : ℤ
  hour : ℤ
  min : ℤ
  sec : ℤ
  deriving DecidableEq, Repr

/-- Year, month (from `0`) and day of the month of the day `days` after 1970-01-01. -/
def civilOfDays (days : ℤ) : ℤ × ℤ × ℤ :=
  let z := days + 719468
  let era := z / 146097
  let dayOfEra := z % 146097
  let yearOfEra := (dayOfEra - dayOfEra / 1460 + dayOfEra / 36524 - dayOfEra / 146096) / 365
  let dayOfYear := dayOfEra - (365 * yearOfEra + yearOfEra / 4 - yearOfEra / 100)
  let month := (5 * dayOfYear + 2) / 153
  let mday := dayOfYear - (153 * month + 2) / 5 + 1
  -- months are counted from March here
  let mon := if month < 10 then month + 2 else month - 10
  (yearOfEra + era * 400 + (if mon ≤ 1 then 1 else 0), mon, mday)

/-- `std::gmtime`. -/
def gmtime (time : ℤ) : Tm :=
  let civil := civilOfDays (time / 86400)
  let second := time % 86400
  { year := civil.1, mon := civil.2.1, mday := civil.2.2
    hour := second / 3600, min := second % 3600 / 60, sec := second % 60 }

/-- `std::localtime`. -/
def localtime (timeZone : TimeZone) (time : ℤ) : Tm :=
  gmtime (time + timeZone time)

/-- A number below 100 in two digits. -/
def twoDigits (n : ℤ) : String :=
  (if n < 10 then "0" else "") ++ toString n

/-- `std::put_time(&tm, "%Y-%m-%dT%H:%M:%S+00:00")`. -/
def putTime (tm : Tm) : String :=
  toString tm.year ++ "-" ++ twoDigits (tm.mon + 1) ++ "-" ++ twoDigits tm.mday ++ "T"
    ++ twoDigits tm.hour ++ ":" ++ twoDigits tm.min ++ ":" ++ twoDigits tm.sec ++ "+00:00"

example : putTime (localtime (fun _ => 0) 1663160964) = "2022-09-14T13:09:24+00:00" := by decide

end GdtCache
