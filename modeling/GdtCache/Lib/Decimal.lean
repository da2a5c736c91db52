import Mathlib.Data.List.TakeWhile
import Mathlib.Data.Rat.Defs

/-!
# Decimal numbers within a text

A natural number that is written in front of something that does not begin with a digit can be
read back: it is the longest run of digits.  `decimalValue` reads a whole literal with a sign, an
integer part and decimals.
-/

namespace GdtCache.Lib

/-- The text does not begin with a digit. -/
def NoDigitFirst (text : List Char) : Prop :=
  text.head?.any Char.isDigit = false

theorem NoDigitFirst.append {text : List Char} (h : NoDigitFirst text) (hne : text ≠ [])
    (rest : List Char) : NoDigitFirst (text ++ rest) := by
  cases text with
  | nil => exact absurd rfl hne
  | cons c text => exact h

/-- The digits of a number are the longest run of digits in front of such a text. -/
theorem takeWhile_isDigit_toDigits (n : ℕ) {text : List Char} (h : NoDigitFirst text) :
    (Nat.toDigits 10 n ++ text).takeWhile Char.isDigit = Nat.toDigits 10 n := by
  have hdigits : ∀ c ∈ Nat.toDigits 10 n, c.isDigit = true := fun c hc =>
    Nat.isDigit_of_mem_toDigits (by decide) (by decide) hc
  have hrest : text.takeWhile Char.isDigit = [] := by
    cases text with
    | nil => rfl
    | cons c rest =>
      have hc : c.isDigit = false := h
      exact List.takeWhile_cons_of_neg (by simp [hc])
  rw [List.takeWhile_append_of_pos hdigits, hrest, List.append_nil]

/-- And the text is what is behind them. -/
theorem dropWhile_isDigit_toDigits (n : ℕ) {text : List Char} (h : NoDigitFirst text) :
    (Nat.toDigits 10 n ++ text).dropWhile Char.isDigit = text := by
  have happend : (Nat.toDigits 10 n ++ text).takeWhile Char.isDigit
      ++ (Nat.toDigits 10 n ++ text).dropWhile Char.isDigit
      = Nat.toDigits 10 n ++ text := List.takeWhile_append_dropWhile
  rw [takeWhile_isDigit_toDigits n h] at happend
  exact List.append_cancel_left happend

/-- Two numbers in front of such texts are equal if the texts are. -/
theorem toString_append_cancel {m n : ℕ} {a b : String} (ha : NoDigitFirst a.toList)
    (hb : NoDigitFirst b.toList) (h : toString m ++ a = toString n ++ b) : m = n := by
  have hlists : Nat.toDigits 10 m ++ a.toList = Nat.toDigits 10 n ++ b.toList := by
    have h := congrArg String.toList h
    simpa [Nat.toString_eq_repr, Nat.toList_repr] using h
  have hdigits : Nat.toDigits 10 m = Nat.toDigits 10 n := by
    rw [← takeWhile_isDigit_toDigits m ha, ← takeWhile_isDigit_toDigits n hb, hlists]
  rw [← @Nat.ofDigitChars_ten_toDigits m, ← @Nat.ofDigitChars_ten_toDigits n, hdigits]

/-! ### Single digits -/

/-- Digits, by their values. -/
theorem digitChar_spec : ∀ d < 10, (Nat.digitChar d).isDigit = true ∧
    (Nat.digitChar d).toNat - '0'.toNat = d ∧ (Nat.digitChar d = '0' ↔ d = 0) := by
  decide

/-- A number below 100, filled up to two digits. -/
theorem toList_twoDigits {n : ℕ} (h : n < 100) :
    ((if n < 10 then "0" else "") ++ toString n).toList
      = [Nat.digitChar (n / 10), Nat.digitChar (n % 10)] := by
  have htext : (toString n).toList = Nat.toDigits 10 n := Nat.toList_repr
  rw [String.toList_append, htext]
  split_ifs with hlt
  · rw [Nat.toDigits_of_lt_base hlt, Nat.div_eq_of_lt hlt, Nat.mod_eq_of_lt hlt]
    rfl
  · rw [Nat.toDigits_of_base_le (by decide) (by omega), Nat.toDigits_of_lt_base (by omega)]
    rfl

/-! ### Literals with decimals -/

/-- The number a decimal literal stands for: a sign, if any, then digits, then a point with the
decimals behind it, if any. -/
def decimalValue (literal : List Char) : ℚ :=
  let unsigned := if literal.head? = some '-' then literal.tail else literal
  let decimals := (unsigned.dropWhile Char.isDigit).tail
  let value : ℚ := Nat.ofDigitChars 10 (unsigned.takeWhile Char.isDigit) 0
    + (Nat.ofDigitChars 10 decimals 0 : ℚ) / 10 ^ decimals.length
  if literal.head? = some '-' then -value else value

example : decimalValue "-20.5".toList = -41 / 2 := by decide +kernel

theorem head?_toDigits_append (n : ℕ) (text : List Char) :
    (Nat.toDigits 10 n ++ text).head? ≠ some '-' := by
  obtain ⟨d, digits, heq⟩ := List.exists_cons_of_ne_nil (@Nat.toDigits_ne_nil n 10)
  have hd : d.isDigit = true := Nat.isDigit_of_mem_toDigits (by decide) (by decide)
    (heq ▸ List.mem_cons_self)
  rw [heq, List.cons_append, List.head?_cons]
  intro hminus
  rw [Option.some.inj hminus] at hd
  cases hd

/-- The value of a literal by its parts, without a sign. -/
theorem decimalValue_toDigits_append (n : ℕ) {fraction : List Char} (h : NoDigitFirst fraction) :
    decimalValue (Nat.toDigits 10 n ++ fraction)
      = n + (Nat.ofDigitChars 10 fraction.tail 0 : ℚ) / 10 ^ fraction.tail.length := by
  unfold decimalValue
  simp only [if_neg (head?_toDigits_append n fraction), dropWhile_isDigit_toDigits n h,
    takeWhile_isDigit_toDigits n h, Nat.ofDigitChars_ten_toDigits]

theorem decimalValue_cons_minus {literal : List Char} (h : literal.head? ≠ some '-') :
    decimalValue ('-' :: literal) = -decimalValue literal := by
  unfold decimalValue
  simp only [List.head?_cons, if_true, List.tail_cons, if_neg h]

end GdtCache.Lib
