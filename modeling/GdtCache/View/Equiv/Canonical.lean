import GdtCache.Lib.Decimal
import GdtCache.Lib.Machine
import GdtCache.View.Equiv.View
import Mathlib.Tactic.Linarith
import Mathlib.Tactic.Ring

/-!
# Rendered numbers are canonical

A stream of precision 2 prints a number as hundredths, `[-]D.dd`; which hundredths is its business.
`numbers` is `stringWithoutTrailingZeros` call after call on its static buffer, over any such
stream.

Whatever was rendered before, a call returns the literal of its own number (`outputs_numbers`), and
that literal is the canonical one of the hundredths (`canonical_literal`): its exact value, no zero
behind the last decimal, and no point without decimals.  `numbers_canonical` puts the two together.
-/

namespace GdtCache.View

open GdtCache.Lib GdtCache.Lib.Json

/-! ### Hundredths -/

/-- What a stream of precision 2 makes of a number.  A negative number that is rounded to zero keeps
its sign. -/
structure Hundredths where
  negative : Bool
  count : ℕ

namespace Hundredths

variable (h : Hundredths)

/-- The number of hundredths. -/
def toInt : ℤ :=
  if h.negative then -h.count else h.count

/-- `[-]D.dd` -/
def text : String :=
  (if h.negative then "-" else "") ++ toString (h.count / 100) ++ "."
    ++ (if h.count % 100 < 10 then "0" else "") ++ toString (h.count % 100)

/-- What `stringWithoutTrailingZeros` returns for it on a fresh buffer. -/
def literal : String :=
  (writeText [] h.text).1

/-- The decimals that stay. -/
def decimals : List Char :=
  if h.count % 10 = 0 then
    if h.count / 10 % 10 = 0 then [] else [Nat.digitChar (h.count / 10 % 10)]
  else [Nat.digitChar (h.count / 10 % 10), Nat.digitChar (h.count % 10)]

/-- The stream of `printFixed` is one of them. -/
theorem text_hundredths (number : ℚ) :
    text ⟨decide (number.num < 0), hundredths number⟩ = printFixed number := by
  unfold text printFixed
  simp only [decide_eq_true_eq]

end Hundredths

/-- A literal of `h` hundredths as it should be. -/
structure Canonical (h : ℤ) (literal : List Char) : Prop where
  isNumber : IsNumber literal
  value : decimalValue literal = h / 100
  /-- All digits in front of the point, at most two behind it, the last of them not a zero, and no
  point without any. -/
  shape : ∃ sign decimals, (sign = [] ∨ sign = ['-']) ∧ (∀ d ∈ decimals, d.isDigit = true) ∧
    decimals.length ≤ 2 ∧ decimals.getLast? ≠ some '0' ∧
    literal = sign ++ Nat.toDigits 10 (h.natAbs / 100)
      ++ if decimals = [] then [] else '.' :: decimals

/-! ### Digits -/

/-- The two decimals of a text, by their digits. -/
theorem toList_decimals (n : ℕ) :
    ((if n % 100 < 10 then "0" else "") ++ toString (n % 100)).toList
      = [Nat.digitChar (n / 10 % 10), Nat.digitChar (n % 10)] := by
  have htens : n % 100 / 10 = n / 10 % 10 := by omega
  have hones : n % 100 % 10 = n % 10 := by omega
  rw [toList_twoDigits (Nat.mod_lt n (by decide)), htens, hones]

namespace Hundredths

variable (h : Hundredths)

theorem decimals_spec : (∀ d ∈ h.decimals, d.isDigit = true) ∧ h.decimals.length ≤ 2 ∧
    h.decimals.getLast? ≠ some '0' ∧
    (Nat.ofDigitChars 10 h.decimals 0 : ℚ) / 10 ^ h.decimals.length
      = ((h.count % 100 : ℕ) : ℚ) / 100 := by
  obtain ⟨htens, htensValue, htensZero⟩ := digitChar_spec (h.count / 10 % 10) (by omega)
  obtain ⟨hones, honesValue, honesZero⟩ := digitChar_spec (h.count % 10) (by omega)
  unfold decimals
  split_ifs with hones0 htens0
  · have hzero : h.count % 100 = 0 := by omega
    simp [hzero]
  · have hsplit : h.count % 100 = 10 * (h.count / 10 % 10) := by omega
    refine ⟨by simpa using htens, by simp, by simpa using fun heq => htens0 (htensZero.mp heq), ?_⟩
    rw [Nat.ofDigitChars_cons, Nat.ofDigitChars_nil, htensValue, hsplit]
    push_cast [List.length_singleton]
    ring
  · have hsplit : h.count % 100 = 10 * (h.count / 10 % 10) + h.count % 10 := by omega
    refine ⟨by simp [htens, hones], by simp,
      by simpa using fun heq => hones0 (honesZero.mp heq), ?_⟩
    rw [Nat.ofDigitChars_cons, Nat.ofDigitChars_cons, Nat.ofDigitChars_nil, htensValue, honesValue,
      hsplit]
    push_cast [List.length_cons, List.length_nil]
    ring

theorem sign_cases :
    (if h.negative then ['-'] else []) = [] ∨ (if h.negative then ['-'] else []) = ['-'] := by
  split_ifs
  · exact .inr rfl
  · exact .inl rfl

/-- The literal is the text without the decimals that go. -/
theorem toList_literal :
    h.literal.toList = (if h.negative then ['-'] else []) ++ Nat.toDigits 10 (h.count / 100)
      ++ if h.decimals = [] then [] else '.' :: h.decimals := by
  obtain ⟨htens, -, htensZero⟩ := digitChar_spec (h.count / 10 % 10) (by omega)
  obtain ⟨hones, -, honesZero⟩ := digitChar_spec (h.count % 10) (by omega)
  have hpoint : ∀ c : Char, c.isDigit = true → c ≠ '.' := by
    rintro c hc rfl
    exact absurd hc (by decide)
  have htext : h.text.toList = (if h.negative then ['-'] else []) ++ Nat.toDigits 10 (h.count / 100)
      ++ ['.', Nat.digitChar (h.count / 10 % 10), Nat.digitChar (h.count % 10)] := by
    have hdecimals := toList_decimals h.count
    have hint : (toString (h.count / 100)).toList = Nat.toDigits 10 (h.count / 100) :=
      Nat.toList_repr
    unfold text
    rw [String.append_assoc, String.toList_append, hdecimals, String.toList_append,
      String.toList_append, hint]
    split_ifs <;> simp
  unfold literal
  rw [writeText_eq h.sign_cases (isInt_toDigits _) htens hones htext, String.toList_ofList, htext,
    withoutTrailingZeros_decimals _ (hpoint _ htens) (hpoint _ hones)]
  unfold decimals
  rw [if_congr honesZero rfl rfl, if_congr htensZero rfl rfl]
  split_ifs <;> simp_all

/-- **The literal is canonical.** -/
theorem canonical_literal : Canonical h.toInt h.literal.toList := by
  obtain ⟨hdigits, hlength, hlast, hvalue⟩ := h.decimals_spec
  have hcount : h.toInt.natAbs = h.count := by
    unfold toInt
    split_ifs <;> simp
  have hfraction : NoDigitFirst (if h.decimals = [] then [] else '.' :: h.decimals) := by
    split_ifs <;> rfl
  have htail : (if h.decimals = [] then [] else '.' :: h.decimals).tail = h.decimals := by
    split_ifs with hnil
    · rw [hnil, List.tail_nil]
    · rfl
  have habs : decimalValue (Nat.toDigits 10 (h.count / 100)
      ++ if h.decimals = [] then [] else '.' :: h.decimals) = (h.count : ℚ) / 100 := by
    have hsplit : (h.count : ℚ) = 100 * (h.count / 100 : ℕ) + (h.count % 100 : ℕ) := by
      exact_mod_cast (Nat.div_add_mod h.count 100).symm
    rw [decimalValue_toDigits_append _ hfraction, htail, hvalue, hsplit]
    ring
  refine ⟨?_, ?_, ?_⟩
  · rw [h.toList_literal]
    refine ⟨_, _, _, [], h.sign_cases, isInt_toDigits _, ?_, .inl rfl, (List.append_nil _).symm⟩
    split_ifs with hnil
    · exact .inl rfl
    · exact .inr ⟨_, ⟨hnil, hdigits⟩, rfl⟩
  · rw [h.toList_literal, List.append_assoc]
    unfold toInt
    by_cases hneg : h.negative = true
    · rw [if_pos hneg, if_pos hneg, List.singleton_append,
        decimalValue_cons_minus (head?_toDigits_append _ _), habs]
      push_cast
      ring
    · rw [if_neg hneg, if_neg hneg, List.nil_append, habs]
      push_cast
      rfl
  · exact ⟨_, h.decimals, h.sign_cases, hdigits, hlength, hlast, hcount ▸ h.toList_literal⟩

end Hundredths

/-- The stream that rounds to nearest is a case. -/
theorem stringWithoutTrailingZeros_eq_literal (number : ℚ) :
    stringWithoutTrailingZeros number
      = Hundredths.literal ⟨decide (number.num < 0), hundredths number⟩ := by
  unfold Hundredths.literal
  rw [Hundredths.text_hundredths, ← writeNumber]
  rfl

/-! ### Call after call -/

/-- `stringWithoutTrailingZeros` on its static buffer, over a stream that prints `print number` for
a number. -/
def numbers {ν : Type*} (print : ν → Hundredths) : Machine (List Char) ν String where
  next buffer number := (writeText buffer (print number).text).2
  out buffer number := (writeText buffer (print number).text).1

/-- No call sees an earlier one. -/
theorem outputs_numbers {ν : Type*} (print : ν → Hundredths) (buffer : List Char) (calls : List ν) :
    (numbers print).outputs buffer calls = calls.map fun number => (print number).literal := by
  induction calls generalizing buffer with
  | nil => rfl
  | cons number calls ih =>
    have hcall : (numbers print).out buffer number = (print number).literal :=
      writeText_fst buffer _
    rw [Machine.outputs, hcall, ih, List.map_cons]

/-- **Canonical and free of history.**  In every sequence of calls, from every buffer, each call
returns the canonical literal of the hundredths that its own number is printed as, and different
hundredths have different literals. -/
theorem numbers_canonical {ν : Type*} (print : ν → Hundredths) (buffer : List Char)
    (calls : List ν) :
    ((numbers print).outputs buffer calls = calls.map fun number => (print number).literal) ∧
      (∀ number, Canonical (print number).toInt (print number).literal.toList) ∧
      ∀ number number', (print number).toInt ≠ (print number').toInt →
        (print number).literal ≠ (print number').literal := by
  refine ⟨outputs_numbers print buffer calls, fun number => (print number).canonical_literal, ?_⟩
  intro number number' hne heq
  have hvalue := (print number).canonical_literal.value
  rw [heq, (print number').canonical_literal.value] at hvalue
  have hcast : ((print number').toInt : ℚ) = (print number).toInt := by linarith
  exact hne (Int.cast_injective hcast).symm

end GdtCache.View
