import Mathlib.Algebra.GroupWithZero.Nat
import Mathlib.Data.List.DropRight
import Mathlib.Data.Nat.Log
import Mathlib.Data.Rat.Defs

/-!
# Seconds

`Profiler::seconds` as the views print it: a `double` that is written to a stream with its default
format, six significant digits in the shorter of the two notations.
-/

namespace GdtCache

/-- `n / d` to the nearest integer, ties to even. -/
def roundToEven (n d : ℕ) : ℕ :=
  if 2 * (n % d) < d ∨ (2 * (n % d) = d ∧ n / d % 2 = 0) then n / d else n / d + 1

/-- The power of ten of the first digit of `n / d`. -/
def decimalExponent (n d : ℕ) : ℤ :=
  if d ≤ n then Nat.log 10 (n / d) else -Nat.clog 10 ((d + n - 1) / n)

/-- The fraction of a number: trailing zeros go, and with them the decimal point. -/
def printFraction (digits : List Char) : List Char :=
  let digits := digits.rdropWhile (· = '0')
  if digits = [] then [] else '.' :: digits

/-- The exponent of a number: a sign and at least two digits. -/
def printExponent (x : ℤ) : List Char :=
  'e' :: (if x < 0 then '-' else '+') :: ((if x.natAbs < 10 then ['0'] else [])
    ++ Nat.toDigits 10 x.natAbs)

/-- The digits of a number whose first one counts `10 ^ x`. -/
def printDigits (digits : List Char) (x : ℤ) : List Char :=
  if -4 ≤ x ∧ x < 6 then
    if 0 ≤ x then digits.take (x.toNat + 1) ++ printFraction (digits.drop (x.toNat + 1))
    else '0' :: printFraction (List.replicate (-x - 1).toNat '0' ++ digits)
  else digits.take 1 ++ printFraction (digits.drop 1) ++ printExponent x

/-- `stream << number` for a `double`, in the default format. -/
def printDouble (number : ℚ) : String :=
  let n := number.num.natAbs
  let x := decimalExponent n number.den
  let significand := roundToEven (n * 10 ^ (5 - x).toNat) (number.den * 10 ^ (x - 5).toNat)
  String.ofList ((if number.num < 0 then ['-'] else [])
    -- rounding up may end at the next power of ten
    ++ if significand = 10 ^ 6 then printDigits (Nat.toDigits 10 (10 ^ 5)) (x + 1)
      else printDigits (Nat.toDigits 10 significand) x)

example : [0, 12, 123 / 100000, 12 / 1000000, 9999996 / 10, -5 / 2].map printDouble
    = ["0", "12", "0.00123", "1.2e-05", "1e+06", "-2.5"] := by decide +kernel

end GdtCache
