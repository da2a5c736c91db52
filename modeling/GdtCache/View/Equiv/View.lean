import GdtCache.Lib.Decimal
import GdtCache.Lib.Json
import GdtCache.Utils.Profiler
import GdtCache.View.View

/-!
# Numbers are JSON numbers

`stringWithoutTrailingZeros` prints a sign, an integer part and two decimals (`printFixed_eq`), of
which it takes the trailing zeros away (`withoutTrailingZeros_decimals`).  What is left is a JSON
number, and so is a `double` printed in the default format (`isNumber_printDouble`).
-/

namespace GdtCache.View
open GdtCache.Lib GdtCache.Lib.Json

/-! ### Amounts -/

/-- Two decimals lose their trailing zeros, and the decimal point if both are zeros. -/
theorem withoutTrailingZeros_decimals (chars : List Char) {a b : Char} (ha : a ≠ '.')
    (hb : b ≠ '.') :
    withoutTrailingZeros (chars ++ ['.', a, b]) =
      if b = '0' then if a = '0' then chars else chars ++ ['.', a] else chars ++ ['.', a, b] := by
  have hdrop : (chars ++ ['.', a, b]).rdropWhile (· = '0') =
      if b = '0' then if a = '0' then chars ++ ['.'] else chars ++ ['.', a]
      else chars ++ ['.', a, b] := by
    have hab : chars ++ ['.', a, b] = chars ++ ['.'] ++ [a] ++ [b] := by simp
    rw [hab]
    simp only [List.rdropWhile_concat, decide_eq_true_eq]
    split_ifs with hb0 ha0 hpoint
    · exact absurd hpoint (by decide)
    · simp
    · simp
    · simp
  have hall : (chars ++ ['.', a, b]).all (· = '0') = false := by simp
  unfold withoutTrailingZeros
  simp only [hall, Bool.false_eq_true, if_false, hdrop]
  split_ifs <;> simp_all

/-- The two decimals of a number. -/
theorem exists_decimals {r : ℕ} (hr : r < 100) :
    ∃ a b, ((if r < 10 then "0" else "") ++ toString r).toList = [a, b] ∧ a.isDigit = true ∧
      b.isDigit = true := by
  rw [toList_twoDigits hr]
  exact ⟨_, _, rfl, (digitChar_spec (r / 10) (by omega)).1, (digitChar_spec (r % 10) (by omega)).1⟩

/-- A printed number is a sign, an integer part and two decimals. -/
theorem printFixed_eq (number : ℚ) :
    ∃ sign int a b, (sign = [] ∨ sign = ['-']) ∧ IsInt int ∧ a.isDigit = true ∧
      b.isDigit = true ∧ (printFixed number).toList = sign ++ int ++ ['.', a, b] := by
  obtain ⟨a, b, htext, ha, hb⟩ := @exists_decimals (hundredths number % 100) (by omega)
  have hint : (toString (hundredths number / 100)).toList
      = Nat.toDigits 10 (hundredths number / 100) := Nat.toList_repr
  refine ⟨(if number.num < 0 then "-" else "").toList,
    Nat.toDigits 10 (hundredths number / 100), a, b, ?_, isInt_toDigits _, ha, hb, ?_⟩
  · split_ifs
    · exact .inr rfl
    · exact .inl rfl
  · unfold printFixed
    simp only [String.toList_append] at htext ⊢
    rw [List.append_assoc, htext, hint]
    simp

/-- The text in front of the `'\0'` is the whole number. -/
theorem writeText_eq {text : String} {sign int : List Char} {a b : Char}
    (hsign : sign = [] ∨ sign = ['-']) (hint : IsInt int) (ha : a.isDigit = true)
    (hb : b.isDigit = true) (htext : text.toList = sign ++ int ++ ['.', a, b]) :
    (writeText [] text).1 = String.ofList (withoutTrailingZeros text.toList) := by
  have hdigit : ∀ c : Char, c.isDigit = true → decide (c ≠ '\x00') = true := by
    intro c hc
    rw [decide_eq_true_eq]
    rintro rfl
    exact absurd hc (by decide)
  have hnul : ∀ c ∈ text.toList, decide (c ≠ '\x00') = true := by
    intro c hc
    rw [htext] at hc
    simp only [List.mem_append, List.mem_cons, List.not_mem_nil, or_false] at hc
    rcases hc with (hc | hc) | rfl | rfl | rfl
    · rcases hsign with rfl | rfl
      · cases hc
      · obtain rfl := List.mem_singleton.mp hc
        rfl
    · exact hdigit c (hint.1.2 c hc)
    · rfl
    · exact hdigit c ha
    · exact hdigit c hb
  have htake : (text.toList ++ ['\x00']).takeWhile (· ≠ '\x00') = text.toList := by
    rw [List.takeWhile_append_of_pos hnul, List.takeWhile_cons_of_neg (by simp), List.append_nil]
  unfold writeText
  simp only [List.drop_nil, List.append_nil, htake]

theorem stringWithoutTrailingZeros_eq (number : ℚ) :
    stringWithoutTrailingZeros number
      = String.ofList (withoutTrailingZeros (printFixed number).toList) := by
  obtain ⟨sign, int, a, b, hsign, hint, ha, hb, htext⟩ := printFixed_eq number
  exact writeText_eq hsign hint ha hb htext

/-- **Numbers are JSON numbers.** -/
theorem isNumber_stringWithoutTrailingZeros (number : ℚ) :
    IsNumber (stringWithoutTrailingZeros number).toList := by
  obtain ⟨sign, int, a, b, hsign, hint, ha, hb, htext⟩ := printFixed_eq number
  have hpoint : ∀ c : Char, c.isDigit = true → c ≠ '.' := by
    rintro c hc rfl
    exact absurd hc (by decide)
  rw [stringWithoutTrailingZeros_eq, String.toList_ofList, htext,
    withoutTrailingZeros_decimals _ (hpoint a ha) (hpoint b hb)]
  split_ifs
  · exact isNumber_of_isInt hsign hint
  · exact ⟨sign, int, ['.', a], [], hsign, hint, .inr ⟨[a], ⟨by simp, by simpa using ha⟩, rfl⟩,
      .inl rfl, by simp⟩
  · exact ⟨sign, int, ['.', a, b], [], hsign, hint,
      .inr ⟨[a, b], ⟨by simp, by simp [ha, hb]⟩, rfl⟩, .inl rfl, by simp⟩

/-! ### Seconds -/

theorem isFraction_printFraction {digits : List Char} (h : ∀ d ∈ digits, d.isDigit = true) :
    IsFraction (printFraction digits) := by
  have hmem : ∀ d ∈ digits.rdropWhile (· = '0'), d.isDigit = true := fun d hd =>
    h d ((List.rdropWhile_prefix _ _).mem hd)
  unfold printFraction
  simp only
  split_ifs with hnil
  · exact .inl rfl
  · exact .inr ⟨_, ⟨hnil, hmem⟩, rfl⟩

theorem isExponent_printExponent (x : ℤ) : IsExponent (printExponent x) := by
  right
  refine ⟨'e', [if x < 0 then '-' else '+'], _, .inl rfl, ?_, ⟨?_, ?_⟩, rfl⟩
  · split_ifs
    · exact .inr (.inr rfl)
    · exact .inr (.inl rfl)
  · simp [Nat.toDigits_ne_nil]
  · intro d hd
    rcases List.mem_append.mp hd with hd | hd
    · split_ifs at hd
      · obtain rfl := List.mem_singleton.mp hd
        rfl
      · cases hd
    · exact (isDigits_toDigits _).2 d hd

/-- Either notation is a number, with a sign or without one. -/
theorem isNumber_printDigits {sign : List Char} (hsign : sign = [] ∨ sign = ['-']) (n : ℕ) (x : ℤ) :
    IsNumber (sign ++ printDigits (Nat.toDigits 10 n) x) := by
  have hdigits := (isDigits_toDigits n).2
  have hfraction : ∀ k, IsFraction (printFraction ((Nat.toDigits 10 n).drop k)) := fun k =>
    isFraction_printFraction fun d hd => hdigits d (List.mem_of_mem_drop hd)
  unfold printDigits
  split_ifs
  · exact ⟨sign, _, _, [], hsign, isInt_take_toDigits n x.toNat, hfraction (x.toNat + 1), .inl rfl,
      by simp⟩
  · refine ⟨sign, ['0'], _, [], hsign, ⟨⟨by simp, by simp⟩, fun _ => rfl⟩,
      @isFraction_printFraction (List.replicate (-x - 1).toNat '0' ++ Nat.toDigits 10 n) ?_,
      .inl rfl, by simp⟩
    intro d hd
    rcases List.mem_append.mp hd with hd | hd
    · rw [List.eq_of_mem_replicate hd]
      rfl
    · exact hdigits d hd
  · exact ⟨sign, _, _, _, hsign, isInt_take_toDigits n 0, hfraction 1, isExponent_printExponent x,
      by simp⟩

/-- So is every printed `double`. -/
theorem isNumber_printDouble (number : ℚ) : IsNumber (printDouble number).toList := by
  have hsign : (if number.num < 0 then ['-'] else []) = [] ∨
      (if number.num < 0 then ['-'] else []) = ['-'] := by
    split_ifs
    · exact .inr rfl
    · exact .inl rfl
  unfold printDouble
  simp only [String.toList_ofList]
  by_cases hround : roundToEven
      (number.num.natAbs * 10 ^ (5 - decimalExponent number.num.natAbs number.den).toNat)
      (number.den * 10 ^ (decimalExponent number.num.natAbs number.den - 5).toNat) = 10 ^ 6
  · rw [if_pos hround]
    exact isNumber_printDigits hsign _ _
  · rw [if_neg hround]
    exact isNumber_printDigits hsign _ _

/-! ### Entries -/

end GdtCache.View
