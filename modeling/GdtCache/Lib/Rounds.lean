import Mathlib.Logic.Function.Iterate

/-!
# Rounds of a loop that may go wrong

One round of a loop as a function to `Option`, with `none` where nothing can be said of it any more.
`rounds` is some rounds of it.  `rounds_chain` follows a loop along a sequence of states, and
`isSome_rounds_of_fixed` says that a loop that comes to a state that a round leaves as it is has
never gone wrong before and never will.
-/

namespace GdtCache.Lib

variable {σ : Type*} {f : σ → Option σ}

/-- Some rounds. -/
def rounds (f : σ → Option σ) (n : ℕ) (s : Option σ) : Option σ :=
  (fun s : Option σ => s.bind f)^[n] s

@[simp] theorem rounds_zero (s : Option σ) : rounds f 0 s = s := rfl

theorem rounds_succ (n : ℕ) (s : σ) : rounds f (n + 1) (some s) = rounds f n (f s) := rfl

theorem rounds_add (m n : ℕ) (s : Option σ) : rounds f (m + n) s = rounds f m (rounds f n s) :=
  Function.iterate_add_apply _ m n s

/-- What went wrong stays so. -/
theorem rounds_none (n : ℕ) : rounds f n none = none :=
  Function.iterate_fixed rfl n

theorem rounds_of_fixed {s : σ} (h : f s = some s) (n : ℕ) : rounds f n (some s) = some s :=
  Function.iterate_fixed h n

/-- A loop whose rounds lead from each state of a sequence to the next. -/
theorem rounds_chain {c : ℕ → σ} {n : ℕ} (h : ∀ a < n, f (c a) = some (c (a + 1))) :
    rounds f n (some (c 0)) = some (c n) := by
  induction n with
  | zero => rfl
  | succ n ih =>
    calc
      rounds f (n + 1) (some (c 0)) = rounds f (1 + n) (some (c 0)) := by rw [Nat.add_comm]
      _ = rounds f 1 (some (c n)) := by
        rw [rounds_add, ih fun a ha => h a (Nat.lt_succ_of_lt ha)]
      _ = some (c (n + 1)) := h n (Nat.lt_succ_self n)

/-- A loop that comes to rest never goes wrong. -/
theorem isSome_rounds_of_fixed {s : Option σ} {n : ℕ} {e : σ} (hend : rounds f n s = some e)
    (hfixed : f e = some e) (m : ℕ) : (rounds f m s).isSome := by
  rcases Nat.le_total m n with hle | hle
  · obtain ⟨k, rfl⟩ := Nat.exists_eq_add_of_le' hle
    rw [rounds_add] at hend
    cases hm : rounds f m s with
    | none =>
      rw [hm, rounds_none] at hend
      cases hend
    | some e' => rfl
  · obtain ⟨k, rfl⟩ := Nat.exists_eq_add_of_le' hle
    rw [rounds_add, hend, rounds_of_fixed hfixed]
    rfl

end GdtCache.Lib
