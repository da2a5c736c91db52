import GdtCache.Lib.DateTime
import GdtCache.Utils.Time
import Mathlib.Tactic.IntervalCases
import Mathlib.Tactic.Ring

/-!
# Correctness of the calendar time

The date that `civilOfDays` computes for a day number is the one of the calendar
(`civilOfDays_spec`): an era is cut into centuries, blocks of four years and years
(`exists_yearOfEra`), and a year that begins in March into months (`exists_monthOfYear`).

The text that `putTime` prints says `+00:00` whatever the time it is given, so of `gmtime` it
denotes the instant itself (`readDateTime_putTime`), and of `localtime` the instant moved by the
server's offset.
-/

namespace GdtCache

open GdtCache.Lib

/-! ### The date of a day -/

/-- An era of 400 years, cut into centuries, blocks of four years and years. -/
theorem exists_yearOfEra {day : ℤ} (hlo : 0 ≤ day) (hhi : day < 146097) :
    ∃ century block year dayOfYear : ℤ,
      (0 ≤ century ∧ century ≤ 3) ∧ (0 ≤ block ∧ block ≤ 24) ∧ (0 ≤ year ∧ year ≤ 3) ∧
      (0 ≤ dayOfYear ∧ dayOfYear ≤ 365) ∧
      day = 36524 * century + 1461 * block + 365 * year + dayOfYear ∧
      (day - day / 1460 + day / 36524 - day / 146096) / 365
        = 100 * century + 4 * block + year ∧
      (dayOfYear = 365 → year = 3 ∧ (block = 24 → century = 3)) := by
  by_cases hlast : day = 146096
  · exact ⟨3, 24, 3, 365, by omega⟩
  · obtain ⟨century, hcentury⟩ : ∃ century, century = day / 36524 := ⟨_, rfl⟩
    obtain ⟨block, hblock⟩ : ∃ block, block = (day - 36524 * century) / 1461 := ⟨_, rfl⟩
    obtain ⟨year, hyear⟩ : ∃ year, year = min ((day - 36524 * century - 1461 * block) / 365) 3 :=
      ⟨_, rfl⟩
    have hera : day / 146096 = 0 := by omega
    -- a day of the last year of a block may count one more block of 1460 days
    have hblocks : day / 1460 = 25 * century + block ∨ day / 1460 = 25 * century + block + 1 := by
      omega
    have hquotient : (day - day / 1460 + century - 0) / 365 = 100 * century + 4 * block + year := by
      omega
    refine ⟨century, block, year, day - 36524 * century - 1461 * block - 365 * year, ?_⟩
    rw [hera, ← hcentury, hquotient]
    omega

/-- From March on, 153 days are five months. -/
theorem marchMonth_spec (year : ℤ) {month : ℕ} (h : month < 10) :
    daysBeforeMonth year (month + 3) = 59 + (if isLeap year then 1 else 0) + (153 * month + 2) / 5 ∧
      daysInMonth year (month + 3) = (153 * month + 155) / 5 - (153 * month + 2) / 5 := by
  interval_cases month <;> cases hleap : isLeap year <;>
    simp [daysBeforeMonth, daysInMonth, hleap, List.range']

/-- The days of a year that begins on the first of March are those of ten months of one year of the
calendar and of two months of the next. -/
theorem exists_monthOfYear (year : ℤ) {day month : ℕ} (hhi : day ≤ 365)
    (hleap : day = 365 → isLeap (year + 1) = true) (hmonth : month = (5 * day + 2) / 153) :
    ∃ y mon mday, (y = if month < 10 then year else year + 1) ∧
      (mon = if month < 10 then month + 3 else month - 9) ∧
      mday = day - (153 * month + 2) / 5 + 1 ∧
      (1 ≤ mon ∧ mon ≤ 12 ∧ 1 ≤ mday ∧ mday ≤ daysInMonth y mon) ∧
      daysOfCivil y mon mday = daysBeforeYear (year + 1) - daysBeforeYear 1970 + (day - 306) := by
  by_cases hmarch : month < 10
  · obtain ⟨hbefore, hin⟩ := marchMonth_spec year hmarch
    refine ⟨year, month + 3, _, by rw [if_pos hmarch], by rw [if_pos hmarch], rfl,
      ⟨by omega, by omega, by omega, by rw [hin]; omega⟩, ?_⟩
    rw [daysBeforeYear_add_one, daysOfCivil, hbefore]
    split_ifs <;> omega
  · have hjanuary : daysBeforeMonth (year + 1) 1 = 0 ∧ daysInMonth (year + 1) 1 = 31 := by
      simp [daysBeforeMonth, daysInMonth]
    have hfebruary : daysBeforeMonth (year + 1) 2 = 31 ∧
        daysInMonth (year + 1) 2 = if isLeap (year + 1) then 29 else 28 := by
      simp [daysBeforeMonth, daysInMonth]
    refine ⟨year + 1, month - 9, _, by rw [if_neg hmarch], by rw [if_neg hmarch], rfl, ?_⟩
    have hmonths : month = 10 ∨ month = 11 := by omega
    rcases hmonths with h | h
    · rw [h, daysOfCivil, hjanuary.1, hjanuary.2]
      omega
    · rw [h, daysOfCivil, hfebruary.1, hfebruary.2]
      by_cases hlast : day = 365
      · rw [hleap hlast, if_pos rfl]
        omega
      · split_ifs <;> omega

/-- The leap days and the length of the year that the parts of an era stand for. -/
theorem yearOfEra_spec (era : ℤ) {century block year : ℤ} (hcentury : 0 ≤ century ∧ century ≤ 3)
    (hblock : 0 ≤ block ∧ block ≤ 24) (hyear : 0 ≤ year ∧ year ≤ 3) :
    (100 * century + 4 * block + year) / 4 = 25 * century + block ∧
      (100 * century + 4 * block + year) / 100 = century ∧
      daysBeforeYear (100 * century + 4 * block + year + era * 400 + 1)
        = 146097 * era + 36524 * century + 1461 * block + 365 * year ∧
      (year = 3 → (block = 24 → century = 3) →
        isLeap (100 * century + 4 * block + year + era * 400 + 1) = true) := by
  refine ⟨by omega, by omega, ?_, fun hlast hcentury3 => ?_⟩
  · unfold daysBeforeYear
    omega
  · rw [isLeap_iff]
    omega

/-- **The calendar date of a day number.** -/
theorem civilOfDays_spec (days : ℤ) :
    ∃ (year : ℤ) (month mday : ℕ), civilOfDays days = (year, (month : ℤ) - 1, (mday : ℤ)) ∧
      (1 ≤ month ∧ month ≤ 12 ∧ 1 ≤ mday ∧ mday ≤ daysInMonth year month) ∧
      daysOfCivil year month mday = days := by
  obtain ⟨era, hera⟩ : ∃ era, (days + 719468) / 146097 = era := ⟨_, rfl⟩
  obtain ⟨dayOfEra, hdayOfEra⟩ : ∃ day, (days + 719468) % 146097 = day := ⟨_, rfl⟩
  have hdays : days = 146097 * era + dayOfEra - 719468 := by omega
  have hlo : 0 ≤ dayOfEra := by omega
  have hhi : dayOfEra < 146097 := by omega
  obtain ⟨century, block, year, dayOfYear, hcentury, hblock, hyear, hday, hsplit, hquotient,
    hlast⟩ := exists_yearOfEra hlo hhi
  obtain ⟨hfours, hhundreds, hbefore, hleap⟩ := yearOfEra_spec era hcentury hblock hyear
  lift dayOfYear to ℕ using hday.1
  have hlast : dayOfYear = 365 →
      isLeap (100 * century + 4 * block + year + era * 400 + 1) = true := fun h =>
    have h := hlast (by exact_mod_cast h)
    hleap h.1 h.2
  obtain ⟨month, hmonth⟩ : ∃ month, month = (5 * dayOfYear + 2) / 153 := ⟨_, rfl⟩
  obtain ⟨y, mon, mday, hy, hmon, hmday, hvalid, hcivil⟩ :=
    exists_monthOfYear _ (by exact_mod_cast hday.2) hlast hmonth
  refine ⟨y, mon, mday, ?_, hvalid, ?_⟩
  · have hrest : dayOfEra - (365 * (100 * century + 4 * block + year)
        + (100 * century + 4 * block + year) / 4 - (100 * century + 4 * block + year) / 100)
        = dayOfYear := by
      rw [hfours, hhundreds, hsplit]
      ring
    have hmonthInt : (5 * (dayOfYear : ℤ) + 2) / 153 = month := by omega
    have hle : (153 * month + 2) / 5 ≤ dayOfYear := by omega
    have hmdayInt : (dayOfYear : ℤ) - (153 * month + 2) / 5 + 1 = mday := by omega
    unfold civilOfDays
    simp only [hera, hdayOfEra, hquotient, hrest, hmonthInt, hmdayInt]
    rw [hy, hmon]
    by_cases hmarch : month < 10
    · have hcast : (month : ℤ) < 10 := by exact_mod_cast hmarch
      have hyearEnd : ¬ (month : ℤ) + 2 ≤ 1 := by omega
      have hmonCast : ((month + 3 : ℕ) : ℤ) - 1 = month + 2 := by omega
      rw [if_pos hmarch, if_pos hmarch, if_pos hcast, if_neg hyearEnd, hmonCast, add_zero]
    · have hcast : ¬ (month : ℤ) < 10 := by exact_mod_cast hmarch
      have hyearEnd : (month : ℤ) - 10 ≤ 1 := by omega
      have hmonCast : ((month - 9 : ℕ) : ℤ) - 1 = month - 10 := by omega
      rw [if_neg hmarch, if_neg hmarch, if_neg hcast, if_pos hyearEnd, hmonCast]
  · rw [hcivil, hbefore, hdays, hsplit]
    unfold daysBeforeYear
    ring

/-! ### Printing and reading -/

theorem toList_twoDigits_cast {n : ℕ} (h : n < 100) : (twoDigits n).toList = fieldText n := by
  have htext : twoDigits n = (if n < 10 then "0" else "") ++ toString n := by
    unfold twoDigits
    rw [if_congr Nat.cast_lt_ofNat rfl rfl]
    rfl
  rw [htext, toList_twoDigits h, fieldText]

/-- `gmtime` gives the date and the time of day of an instant, `putTime` prints them. -/
theorem putTime_gmtime (time : ℤ) :
    ∃ t : DateTime, (putTime (gmtime time)).toList = t.text "+00:00".toList ∧ t.offset = 0 ∧
      t.instant = time := by
  obtain ⟨year, month, mday, hcivil, hvalid, hdays⟩ := civilOfDays_spec (time / 86400)
  obtain ⟨second, hsecond⟩ : ∃ second : ℕ, time % 86400 = second :=
    ⟨(time % 86400).toNat, by omega⟩
  have hlt : second < 86400 := by omega
  have hmday : mday < 100 := by
    have hle := daysInMonth_le year month
    omega
  have htm : gmtime time = ⟨year, (month : ℤ) - 1, mday, (second / 3600 : ℕ),
      (second % 3600 / 60 : ℕ), (second % 60 : ℕ)⟩ := by
    unfold gmtime
    rw [hcivil, hsecond]
    push_cast
    rfl
  refine ⟨⟨year, month, mday, second / 3600, second % 3600 / 60, second % 60, 0, hvalid, by omega⟩,
    ?_, rfl, ?_⟩
  · have hmonth : (month : ℤ) - 1 + 1 = month := by ring
    unfold putTime DateTime.text
    rw [htm]
    simp only [hmonth, String.toList_append, toList_twoDigits_cast (show month < 100 by omega),
      toList_twoDigits_cast hmday, toList_twoDigits_cast (show second / 3600 < 100 by omega),
      toList_twoDigits_cast (show second % 3600 / 60 < 100 by omega),
      toList_twoDigits_cast (show second % 60 < 100 by omega), List.append_assoc]
    rfl
  · unfold DateTime.instant
    simp only [hdays]
    omega

/-- **What is printed of UTC is read back.** -/
theorem readDateTime_putTime (time : ℤ) : readDateTime (putTime (gmtime time)) = some time := by
  obtain ⟨t, htext, hoffset, hinstant⟩ := putTime_gmtime time
  have hread : readOffset "+00:00".toList = some t.offset := by
    rw [hoffset]
    decide
  rw [readDateTime, htext, parseDateTime_text t hread, Option.map_some, hinstant]

/-- Of local time, it is the offset that is missing. -/
theorem readDateTime_localtime (timeZone : TimeZone) (time : ℤ) :
    readDateTime (putTime (localtime timeZone time)) = some (time + timeZone time) :=
  readDateTime_putTime _

/-- Two local times are printed alike only if they are the same. -/
theorem putTime_localtime_inj (timeZone : TimeZone) (time time' : ℤ) :
    putTime (localtime timeZone time) = putTime (localtime timeZone time') ↔
      time + timeZone time = time' + timeZone time' := by
  constructor
  · intro h
    have hread := readDateTime_localtime timeZone time
    rw [h, readDateTime_localtime, Option.some.injEq] at hread
    exact hread.symm
  · intro h
    rw [localtime, h, ← localtime]

end GdtCache
