import Mathlib.Algebra.BigOperators.Group.List.Basic
import Mathlib.Algebra.GroupWithZero.Nat
import Mathlib.Data.String.Basic

/-!
# Sizes in bytes

The size of a string in UTF-8 is what `std::string::size` counts.  It adds up over everything a text
is put together from; numbers take a byte for each digit.
-/

namespace GdtCache.Lib

/-- Characters of one byte each. -/
theorem utf8ByteSize_ofList_of_ascii {chars : List Char} (h : ∀ c ∈ chars, c.utf8Size = 1) :
    (String.ofList chars).utf8ByteSize = chars.length := by
  rw [String.utf8ByteSize_ofList]
  induction chars with
  | nil => rfl
  | cons c chars ih =>
    rw [String.utf8Len_cons, ih fun x hx => h x (List.mem_cons_of_mem c hx),
      h c List.mem_cons_self, List.length_cons]

/-- A text that repeats a character of one byte. -/
theorem utf8ByteSize_replicate {c : Char} (hc : c.utf8Size = 1) (n : ℕ) :
    (String.ofList (List.replicate n c)).utf8ByteSize = n := by
  rw [utf8ByteSize_ofList_of_ascii fun x hx => by rw [List.eq_of_mem_replicate hx, hc],
    List.length_replicate]

/-- A separator of one byte between texts. -/
theorem utf8ByteSize_intercalate {separator : String} (h : separator.utf8ByteSize = 1)
    (texts : List String) :
    (separator.intercalate texts).utf8ByteSize
      = (texts.map String.utf8ByteSize).sum + (texts.length - 1) := by
  induction texts with
  | nil =>
    rw [String.intercalate_nil]
    rfl
  | cons text texts ih =>
    cases texts with
    | nil =>
      rw [String.intercalate_singleton]
      simp
    | cons text' texts =>
      rw [String.intercalate_cons_cons, String.utf8ByteSize_append, String.utf8ByteSize_append, ih,
        h]
      simp only [List.map_cons, List.sum_cons, List.length_cons]
      omega

/-- A digit takes one byte. -/
theorem utf8Size_of_isDigit {c : Char} (h : c.isDigit = true) : c.utf8Size = 1 := by
  obtain ⟨-, hhi⟩ := Char.isDigit_iff_toNat.mp h
  rw [Char.utf8Size_eq_one_iff, UInt32.le_iff_toNat_le]
  exact hhi.trans (by decide)

theorem utf8ByteSize_toString_nat (n : ℕ) :
    (toString n).utf8ByteSize = (Nat.toDigits 10 n).length := by
  rw [Nat.toString_eq_ofList_toDigits]
  exact utf8ByteSize_ofList_of_ascii fun c hc =>
    utf8Size_of_isDigit (Nat.isDigit_of_mem_toDigits (by decide) (by decide) hc)

/-- Numbers below `10 ^ k` take at most `k` bytes. -/
theorem utf8ByteSize_toString_nat_le {n k : ℕ} (hk : 0 < k) (h : n < 10 ^ k) :
    (toString n).utf8ByteSize ≤ k := by
  rw [utf8ByteSize_toString_nat]
  exact (Nat.length_toDigits_le_iff (by decide) hk).mpr h

/-- Integers take one more for their sign. -/
theorem utf8ByteSize_toString_int_le {n : ℤ} {k : ℕ} (hk : 0 < k) (h : n.natAbs < 10 ^ k) :
    (toString n).utf8ByteSize ≤ k + 1 := by
  have hrepr : toString n = n.repr := rfl
  rw [hrepr, Int.repr_eq_if]
  split_ifs with hneg
  · have hle : n.toNat.repr.utf8ByteSize ≤ k := utf8ByteSize_toString_nat_le hk (by omega)
    omega
  · have hle : (-n).toNat.repr.utf8ByteSize ≤ k := utf8ByteSize_toString_nat_le hk (by omega)
    have hsign : ("-" : String).utf8ByteSize = 1 := rfl
    rw [String.utf8ByteSize_append, hsign]
    omega

end GdtCache.Lib
