import GdtCache.Lib.Decimal
import Mathlib.Algebra.BigOperators.Group.List.Basic
import Mathlib.Algebra.Order.Ring.Int

/-!
# Dates and times

The Gregorian calendar by its rules, and the reading of a date-time in the notation of ISO 8601,
`YYYY-MM-DDThh:mm:ss` with an offset from UTC behind it.  `readDateTime` gives the instant such a
text denotes, in seconds after 1970-01-01 UTC.  The year may have any number of digits, and a sign.
-/

namespace GdtCache.Lib

/-! ### The calendar -/

/-- Every fourth year, but of the full centuries only every fourth. -/
def isLeap (year : ℤ) : Bool :=
  year % 4 = 0 && (year % 100 ≠ 0 || year % 400 = 0)

/-- The length of a month, counted from 1. -/
def daysInMonth (year : ℤ) (month : ℕ) : ℕ :=
  if month = 2 then if isLeap year then 29 else 28
  else if month = 4 ∨ month = 6 ∨ month = 9 ∨ month = 11 then 30
  else 31

theorem daysInMonth_le (year : ℤ) (month : ℕ) : daysInMonth year month ≤ 31 := by
  unfold daysInMonth
  split_ifs <;> omega

/-- The days of a year before a month. -/
def daysBeforeMonth (year : ℤ) (month : ℕ) : ℕ :=
  ((List.range' 1 (month - 1)).map (daysInMonth year)).sum

/-- The days between the first days of the year 1 and of another year. -/
def daysBeforeYear (year : ℤ) : ℤ :=
  365 * (year - 1) + (year - 1) / 4 - (year - 1) / 100 + (year - 1) / 400

/-- The days from 1970-01-01 to a date. -/
def daysOfCivil (year : ℤ) (month mday : ℕ) : ℤ :=
  daysBeforeYear year - daysBeforeYear 1970 + daysBeforeMonth year month + (mday - 1)

theorem isLeap_iff (year : ℤ) :
    isLeap year = true ↔ year % 4 = 0 ∧ (year % 100 ≠ 0 ∨ year % 400 = 0) := by
  simp [isLeap]

/-- A leap year is a day longer. -/
theorem daysBeforeYear_add_one (year : ℤ) :
    daysBeforeYear (year + 1) = daysBeforeYear year + if isLeap year then 366 else 365 := by
  unfold daysBeforeYear
  split_ifs with h
  · rw [isLeap_iff] at h
    omega
  · rw [isLeap_iff] at h
    omega

/-! ### Date-times -/

/-- A date of the calendar, a time of day and an offset of that time from UTC. -/
structure DateTime where
  year : ℤ
  month : ℕ
  mday : ℕ
  hour : ℕ
  minute : ℕ
  second : ℕ
  /-- Seconds east of UTC. -/
  offset : ℤ
  date_valid : 1 ≤ month ∧ month ≤ 12 ∧ 1 ≤ mday ∧ mday ≤ daysInMonth year month
  time_valid : hour < 24 ∧ minute < 60 ∧ second < 60

/-- Seconds after 1970-01-01 UTC. -/
def DateTime.instant (t : DateTime) : ℤ :=
  86400 * daysOfCivil t.year t.month t.mday + 3600 * t.hour + 60 * t.minute + t.second - t.offset

/-- A sign, if any, and digits. -/
def readYear (text : List Char) : Option (ℤ × List Char) :=
  let unsigned := if text.head? = some '-' then text.tail else text
  let year : ℤ := Nat.ofDigitChars 10 (unsigned.takeWhile Char.isDigit) 0
  if unsigned.takeWhile Char.isDigit = [] then none
  else some (if text.head? = some '-' then -year else year, unsigned.dropWhile Char.isDigit)

/-- Two digits behind a mark. -/
def readField (mark : Char) : List Char → Option (ℕ × List Char)
  | c :: a :: b :: text =>
    if c = mark ∧ a.isDigit ∧ b.isDigit then some (Nat.ofDigitChars 10 [a, b] 0, text) else none
  | _ => none

/-- `Z`, or hours and minutes with a sign. -/
def readOffset (text : List Char) : Option ℤ := do
  if text = ['Z'] then return 0
  let sign := if text.head? = some '-' then '-' else '+'
  let (hours, text) ← readField sign text
  let (minutes, text) ← readField ':' text
  if text ≠ [] ∨ 24 ≤ hours ∨ 60 ≤ minutes then none
  let seconds : ℤ := 3600 * hours + 60 * minutes
  return if sign = '-' then -seconds else seconds

/-- The date-time that a text denotes, if it denotes one. -/
def parseDateTime (text : List Char) : Option DateTime := do
  let (year, text) ← readYear text
  let (month, text) ← readField '-' text
  let (mday, text) ← readField '-' text
  let (hour, text) ← readField 'T' text
  let (minute, text) ← readField ':' text
  let (second, text) ← readField ':' text
  let offset ← readOffset text
  if h : (1 ≤ month ∧ month ≤ 12 ∧ 1 ≤ mday ∧ mday ≤ daysInMonth year month) ∧
      hour < 24 ∧ minute < 60 ∧ second < 60 then
    some ⟨year, month, mday, hour, minute, second, offset, h.1, h.2⟩
  else none

/-- The instant that a text denotes. -/
def readDateTime (text : String) : Option ℤ :=
  (parseDateTime text.toList).map DateTime.instant

example : ["2024-02-29T12:00:00+00:00", "2024-02-29T12:00:00+02:00", "2023-02-29T12:00:00Z"].map
    readDateTime = [some 1709208000, some 1709200800, none] := by decide +kernel

/-! ### Reading what was written -/

/-- Two digits. -/
def fieldText (n : ℕ) : List Char :=
  [Nat.digitChar (n / 10), Nat.digitChar (n % 10)]

/-- A date-time as it is written, with its offset behind it. -/
def DateTime.text (t : DateTime) (offsetText : List Char) : List Char :=
  (toString t.year).toList ++ '-' :: (fieldText t.month ++ '-' :: (fieldText t.mday ++ 'T' ::
    (fieldText t.hour ++ ':' :: (fieldText t.minute ++ ':' :: (fieldText t.second ++ offsetText)))))

theorem readField_fieldText (mark : Char) {n : ℕ} (h : n < 100) (text : List Char) :
    readField mark (mark :: (fieldText n ++ text)) = some (n, text) := by
  obtain ⟨htens, htensValue, -⟩ := digitChar_spec (n / 10) (by omega)
  obtain ⟨hones, honesValue, -⟩ := digitChar_spec (n % 10) (by omega)
  have hvalue : Nat.ofDigitChars 10 [Nat.digitChar (n / 10), Nat.digitChar (n % 10)] 0 = n := by
    rw [Nat.ofDigitChars_cons, Nat.ofDigitChars_cons, Nat.ofDigitChars_nil, htensValue, honesValue]
    omega
  rw [fieldText, List.cons_append, List.cons_append, List.nil_append, readField,
    if_pos ⟨rfl, htens, hones⟩, hvalue]

/-- A year is read as it is written, in front of the month. -/
theorem readYear_toString (year : ℤ) (text : List Char) :
    readYear ((toString year).toList ++ '-' :: text) = some (year, '-' :: text) := by
  have h : NoDigitFirst ('-' :: text) := rfl
  have hrepr : toString year = year.repr := rfl
  rw [hrepr, Int.repr_eq_if]
  unfold readYear
  by_cases hneg : 0 ≤ year
  · rw [if_pos hneg]
    simp only [Nat.toList_repr, if_neg (head?_toDigits_append _ ('-' :: text)),
      takeWhile_isDigit_toDigits _ h, dropWhile_isDigit_toDigits _ h, if_neg Nat.toDigits_ne_nil,
      Nat.ofDigitChars_ten_toDigits]
    rw [Int.toNat_of_nonneg hneg]
  · have htext : ("-" ++ (-year).toNat.repr).toList ++ '-' :: text
        = '-' :: (Nat.toDigits 10 (-year).toNat ++ '-' :: text) := by
      rw [String.toList_append, Nat.toList_repr]
      rfl
    rw [if_neg hneg, htext]
    simp only [List.head?_cons, if_true, List.tail_cons, takeWhile_isDigit_toDigits _ h,
      dropWhile_isDigit_toDigits _ h, if_neg Nat.toDigits_ne_nil, Nat.ofDigitChars_ten_toDigits]
    rw [Int.toNat_of_nonneg (by omega), Int.neg_neg]

/-- **What is written is read.** -/
theorem parseDateTime_text (t : DateTime) {offsetText : List Char}
    (h : readOffset offsetText = some t.offset) : parseDateTime (t.text offsetText) = some t := by
  obtain ⟨hmonth, hmonth12, hmday, hmdayle⟩ := t.date_valid
  obtain ⟨hhour, hminute, hsecond⟩ := t.time_valid
  have hdays := daysInMonth_le t.year t.month
  unfold parseDateTime DateTime.text
  simp only [readYear_toString, Option.bind_eq_bind, Option.bind_some,
    readField_fieldText '-' (show t.month < 100 by omega),
    readField_fieldText '-' (show t.mday < 100 by omega),
    readField_fieldText 'T' (show t.hour < 100 by omega),
    readField_fieldText ':' (show t.minute < 100 by omega),
    readField_fieldText ':' (show t.second < 100 by omega), h]
  rw [dif_pos ⟨t.date_valid, t.time_valid⟩]

end GdtCache.Lib
