import Mathlib.Algebra.BigOperators.Group.List.Basic
import Mathlib.Algebra.GroupWithZero.Nat

/-!
# The longest initial segment that fits

Pieces are taken from the front of a list as long as what is used stays within a limit; the first
piece that does not fit ends it.
-/

namespace GdtCache.Lib

/-- How many pieces are taken. -/
def fitCount (limit : ℕ) : ℕ → List ℕ → ℕ
  | _, [] => 0
  | used, size :: sizes =>
    if limit < used + size then 0 else fitCount limit (used + size) sizes + 1

/-- The first `k` pieces fit, and the next one does not. -/
structure LongestFit (limit used : ℕ) (sizes : List ℕ) (k : ℕ) : Prop where
  le : k ≤ sizes.length
  fits : used + (sizes.take k).sum ≤ limit
  full : ∀ size, sizes[k]? = some size → limit < used + (sizes.take k).sum + size

/-- The pieces that are taken are those in front of the first that does not fit, also where not even
what is used already stays within the limit. -/
theorem fitCount_spec {limit : ℕ} {sizes : List ℕ} :
    ∀ used, fitCount limit used sizes ≤ sizes.length ∧
      (∀ j < fitCount limit used sizes, used + (sizes.take (j + 1)).sum ≤ limit) ∧
      (fitCount limit used sizes < sizes.length →
        limit < used + (sizes.take (fitCount limit used sizes + 1)).sum) := by
  induction sizes with
  | nil =>
    intro used
    exact ⟨Nat.le_refl 0, by simp [fitCount], by simp [fitCount]⟩
  | cons size sizes ih =>
    intro used
    rw [fitCount]
    split_ifs with hfull
    · exact ⟨Nat.zero_le _, by simp, fun _ => by simpa using hfull⟩
    · obtain ⟨hle, hfits, hlast⟩ := ih (used + size)
      refine ⟨Nat.succ_le_succ hle, fun j hj => ?_, fun hlt => ?_⟩
      · rw [List.take_succ_cons, List.sum_cons, ← Nat.add_assoc]
        cases j with
        | zero => simpa using hfull
        | succ j => exact hfits j (Nat.lt_of_succ_lt_succ hj)
      · rw [List.take_succ_cons, List.sum_cons, ← Nat.add_assoc]
        exact hlast (Nat.lt_of_succ_lt_succ hlt)

theorem fitCount_longestFit {limit : ℕ} {sizes : List ℕ} {used : ℕ} (hused : used ≤ limit) :
    LongestFit limit used sizes (fitCount limit used sizes) := by
  obtain ⟨hle, hfits, hlast⟩ := @fitCount_spec limit sizes used
  refine ⟨hle, ?_, fun size hsize => ?_⟩
  · cases hk : fitCount limit used sizes with
    | zero => simpa using hused
    | succ k => exact hfits k (by omega)
  · obtain ⟨hlt, rfl⟩ := List.getElem?_eq_some_iff.mp hsize
    have hfull := hlast hlt
    rwa [List.take_succ_eq_append_getElem hlt, List.sum_append, List.sum_singleton,
      ← Nat.add_assoc] at hfull

/-- A shorter segment takes no more than a longer one. -/
theorem sum_take_le (sizes : List ℕ) {k l : ℕ} (h : k ≤ l) :
    (sizes.take k).sum ≤ (sizes.take l).sum := by
  have hsplit : (sizes.take l).sum = (sizes.take k).sum + ((sizes.take l).drop k).sum := by
    have htake : (sizes.take l).take k = sizes.take k := by
      rw [List.take_take, Nat.min_eq_left h]
    rw [← htake, ← List.sum_append, List.take_append_drop]
  omega

/-- There is only one longest segment. -/
theorem LongestFit.eq {limit used : ℕ} {sizes : List ℕ} {k l : ℕ}
    (hk : LongestFit limit used sizes k) (hl : LongestFit limit used sizes l) : k = l := by
  -- the shorter one could take one more piece of the longer one
  have hnot : ∀ {k l}, LongestFit limit used sizes k → LongestFit limit used sizes l → ¬ k < l := by
    intro k l hk hl hlt
    have hklen : k < sizes.length := Nat.lt_of_lt_of_le hlt hl.le
    have hfull := hk.full _ (List.getElem?_eq_getElem hklen)
    have hsum := sum_take_le sizes hlt
    rw [List.take_succ_eq_append_getElem hklen, List.sum_append, List.sum_singleton] at hsum
    have hfits := hl.fits
    omega
  rcases Nat.lt_trichotomy k l with hlt | heq | hlt
  · exact absurd hlt (hnot hk hl)
  · exact heq
  · exact absurd hlt (hnot hl hk)

/-- If all pieces fit, all are taken. -/
theorem longestFit_length {limit used : ℕ} {sizes : List ℕ} (h : used + sizes.sum ≤ limit) :
    LongestFit limit used sizes sizes.length :=
  ⟨Nat.le_refl _, by rwa [List.take_length], by simp⟩

end GdtCache.Lib
