import GdtCache.Model.GdtEntry
import Mathlib.Data.List.DropRight

/-!
# Rendering

The functions of `view/View`: numbers with at most two decimals, and one entry as JSON.

`stringWithoutTrailingZeros` writes into one static `std::stringstream` from its beginning on and
never cuts it off, so the text of a longer number stays behind the new one; the `'\0'` after the
number keeps it out of the result.  `writeNumber` is the function with that buffer; since the
result never depends on what the buffer held (`writeNumber_fst`), `stringWithoutTrailingZeros` is
the call on a fresh one.
-/

namespace GdtCache.View

open GdtCache.Model

/-- `view::OrderDirections` -/
inductive OrderDirections
  | ASC
  | DESC
  deriving DecidableEq, Repr

/-- `orderDirectionFromString`: anything unknown is `ASC`. -/
def orderDirectionFromString (orderDirection : String) : OrderDirections :=
  if orderDirection = "ASC" then .ASC else if orderDirection = "DESC" then .DESC else .ASC

/-! ### Numbers -/

/-- `|number|` in hundredths, to nearest and ties to even, as a stream of precision 2 rounds. -/
def hundredths (number : ℚ) : ℕ :=
  let n := 100 * number.num.natAbs
  let q := n / number.den
  let r := n % number.den
  if 2 * r < number.den ∨ (2 * r = number.den ∧ q % 2 = 0) then q else q + 1

/-- `stream << number` under `configNumberFormat`: fixed notation, two decimals. -/
def printFixed (number : ℚ) : String :=
  let h := hundredths number
  (if number.num < 0 then "-" else "") ++ toString (h / 100) ++ "."
    ++ (if h % 100 < 10 then "0" else "") ++ toString (h % 100)

/-- Trailing zeros go, and then the decimal point if nothing is left behind it. -/
def withoutTrailingZeros (result : List Char) : List Char :=
  -- `find_last_not_of('0')` is `npos` when there are only zeros, and nothing is erased
  let result := if result.all (· = '0') then result else result.rdropWhile (· = '0')
  if result.getLast? = some '.' then result.dropLast else result

/-- One call of `stringWithoutTrailingZeros` on the static buffer, whatever text the stream prints
for the number: its result and the buffer it leaves behind. -/
def writeText (buffer : List Char) (text : String) : String × List Char :=
  let written := text.toList ++ ['\x00']
  let buffer := written ++ buffer.drop written.length
  (String.ofList (withoutTrailingZeros (buffer.takeWhile (· ≠ '\x00'))), buffer)

/-- One call of `stringWithoutTrailingZeros` on the static buffer: its result and the buffer it
leaves behind. -/
def writeNumber (buffer : List Char) (number : ℚ) : String × List Char :=
  writeText buffer (printFixed number)

/-- `stringWithoutTrailingZeros` -/
def stringWithoutTrailingZeros (number : ℚ) : String :=
  (writeNumber [] number).1

example : [12, 100, -5 / 2, 1 / 3, 199 / 1000].map stringWithoutTrailingZeros
    = ["12", "100", "-2.5", "0.33", "0.2"] := by decide +kernel

theorem stringWithoutTrailingZeros_zero : stringWithoutTrailingZeros 0 = "0" := by decide +kernel

/-- What older calls left in the buffer is never seen: the `'\0'` comes first. -/
theorem writeText_fst (buffer : List Char) (text : String) :
    (writeText buffer text).1 = (writeText [] text).1 := by
  have htake : ∀ chars rest : List Char,
      (chars ++ ['\x00'] ++ rest).takeWhile (· ≠ '\x00') = chars.takeWhile (· ≠ '\x00') := by
    intro chars rest
    induction chars with
    | nil => rfl
    | cons c chars ih =>
      by_cases hc : c = '\x00'
      · simp [hc]
      · simpa [hc] using ih
  unfold writeText
  simp only [htake]

theorem writeNumber_fst (buffer : List Char) (number : ℚ) :
    (writeNumber buffer number).1 = stringWithoutTrailingZeros number := by
  rw [stringWithoutTrailingZeros, writeNumber, writeNumber, writeText_fst]

/-! ### Entries -/

/-- `toJsonString<model::GdtEntry>` -/
def toJsonString (data : GdtEntry) : String :=
  "\x7b" ++ "\"id\":" ++ toString data.getId ++ ","
    ++ "\"amount\":" ++ stringWithoutTrailingZeros data.getAmountDecimal ++ ","
    ++ "\"date\":\"" ++ data.getDateString ++ "\","
    ++ "\"email\":\"" ++ data.getEmail ++ "\","
    ++ "\"comment\":\"" ++ data.getComment ++ "\","
    ++ "\"coupon_code\":\"" ++ data.getCouponCode ++ "\","
    ++ "\"gdt_entry_type_id\":" ++ toString data.getGdtEntryTypeId ++ ","
    ++ "\"factor\":" ++ stringWithoutTrailingZeros data.getFactor ++ ","
    ++ "\"amount2\":" ++ stringWithoutTrailingZeros data.getAmount2Decimal ++ ","
    ++ "\"factor2\":" ++ stringWithoutTrailingZeros data.getFactor2 ++ ","
    ++ "\"gdt\":" ++ stringWithoutTrailingZeros data.getGdt
    ++ "\x7d"

end GdtCache.View
