import Mathlib.Data.List.Pairwise
import Mathlib.Algebra.Order.Ring.Int
import Mathlib.Tactic.Linarith

/-!
# Throttling by a time stamp

A piece of work is attempted at clock times that never go back.  An attempt runs when more than
`period` has passed since the stamp and nothing else keeps it from running; a run either leaves
its own time behind as the new stamp or forgets to.

`runTimes` lists the times at which work ran.  The promise of a throttle is `Spaced`: any two of
them are more than `period` apart, and the first is so from the stamp it started with.
`spaced_runTimes_iff` says exactly when the promise is kept: whenever a run leaves the old stamp
standing, no later attempt that could run comes within `period` of it.
-/

namespace GdtCache.Lib

/-- One attempt to run the throttled work. -/
structure Attempt where
  /-- The clock at the attempt. -/
  now : ℤ
  /-- Nothing but the stamp keeps the work from running. -/
  free : Bool
  /-- A run at this attempt leaves `now` behind as the new stamp. -/
  stamps : Bool

namespace Throttle

variable (period : ℤ)

/-- The attempt runs when the stamp is `last`. -/
def Runs (last : ℤ) (a : Attempt) : Prop :=
  period < a.now - last ∧ a.free = true

instance (last : ℤ) (a : Attempt) : Decidable (Runs period last a) :=
  inferInstanceAs (Decidable (_ ∧ _))

/-- The stamp after the attempt. -/
def stampAfter (last : ℤ) (a : Attempt) : ℤ :=
  if Runs period last a ∧ a.stamps = true then a.now else last

/-- The times at which work runs, from the stamp `last` on. -/
def runTimes : ℤ → List Attempt → List ℤ
  | _, [] => []
  | last, a :: as =>
    if Runs period last a then a.now :: runTimes (stampAfter period last a) as
    else runTimes (stampAfter period last a) as

/-- Any two of the times, the earlier first, are more than `period` apart. -/
def Spaced (times : List ℤ) : Prop :=
  times.Pairwise fun t t' => period < t' - t

/-- Whenever a run leaves the old stamp standing, no later attempt that could run comes within
`period` of it. -/
def Settled : ℤ → List Attempt → Prop
  | _, [] => True
  | last, a :: as =>
    (Runs period last a → a.stamps = false → ∀ b ∈ as, b.free = true → period < b.now - a.now) ∧
      Settled (stampAfter period last a) as

/-- The clock does not go back, from `last` on. -/
def Clocked (last : ℤ) (as : List Attempt) : Prop :=
  (last :: as.map Attempt.now).Pairwise (· ≤ ·)

variable {period}

theorem Clocked.head {last : ℤ} {a : Attempt} {as : List Attempt} (h : Clocked last (a :: as)) :
    last ≤ a.now ∧ Clocked a.now as := by
  unfold Clocked at h ⊢
  rw [List.map_cons, List.pairwise_cons] at h
  exact ⟨h.1 a.now (by simp), h.2⟩

theorem Clocked.le {last : ℤ} {as : List Attempt} (h : Clocked last as) :
    ∀ b ∈ as, last ≤ b.now := by
  intro b hb
  unfold Clocked at h
  rw [List.pairwise_cons] at h
  exact h.1 b.now (List.mem_map_of_mem hb)

theorem Clocked.mono {last last' : ℤ} {as : List Attempt} (h : Clocked last as)
    (hle : last' ≤ last) : Clocked last' as := by
  unfold Clocked at h ⊢
  rw [List.pairwise_cons] at h ⊢
  exact ⟨fun t ht => hle.trans (h.1 t ht), h.2⟩

theorem le_stampAfter {last : ℤ} {a : Attempt} (h : last ≤ a.now) :
    last ≤ stampAfter period last a ∧ stampAfter period last a ≤ a.now := by
  unfold stampAfter
  split_ifs
  · exact ⟨h, le_rfl⟩
  · exact ⟨le_rfl, h⟩

theorem Clocked.tail {last : ℤ} {a : Attempt} {as : List Attempt} (h : Clocked last (a :: as)) :
    Clocked (stampAfter period last a) as :=
  h.head.2.mono (le_stampAfter h.head.1).2

/-- Work only runs more than `period` after the stamp. -/
theorem lt_of_mem_runTimes {as : List Attempt} :
    ∀ {last : ℤ}, Clocked last as → ∀ t ∈ runTimes period last as, period < t - last := by
  induction as with
  | nil => intro last _ t ht; simp [runTimes] at ht
  | cons a as ih =>
    intro last hc t ht
    have hstamp := (@le_stampAfter period last a hc.head.1).1
    have hrest : ∀ t ∈ runTimes period (stampAfter period last a) as, period < t - last := by
      intro t ht
      have := ih hc.tail t ht
      omega
    rw [runTimes] at ht
    split_ifs at ht with hrun
    · rcases List.mem_cons.mp ht with rfl | ht
      · exact hrun.1
      · exact hrest t ht
    · exact hrest t ht

/-- Work only runs at attempts that are free to. -/
theorem exists_of_mem_runTimes {as : List Attempt} :
    ∀ {last : ℤ}, ∀ t ∈ runTimes period last as, ∃ b ∈ as, b.free = true ∧ b.now = t := by
  induction as with
  | nil => intro last t ht; simp [runTimes] at ht
  | cons a as ih =>
    intro last t ht
    have hrest : ∀ t ∈ runTimes period (stampAfter period last a) as,
        ∃ b ∈ a :: as, b.free = true ∧ b.now = t := by
      intro t ht
      obtain ⟨b, hb, hfree, hnow⟩ := ih t ht
      exact ⟨b, List.mem_cons_of_mem _ hb, hfree, hnow⟩
    rw [runTimes] at ht
    split_ifs at ht with hrun
    · rcases List.mem_cons.mp ht with rfl | ht
      · exact ⟨a, List.mem_cons_self, hrun.2, rfl⟩
      · exact hrest t ht
    · exact hrest t ht

/-- While an outdated stamp stands, the first free attempt runs: if every run is then more than
`period` after `t`, so is every free attempt. -/
theorem lt_of_free {t : ℤ} {as : List Attempt} :
    ∀ {last : ℤ}, period < t - last → Clocked t as →
      (∀ t' ∈ runTimes period last as, period < t' - t) →
      ∀ b ∈ as, b.free = true → period < b.now - t := by
  induction as with
  | nil => intro last _ _ _ b hb; simp at hb
  | cons a as ih =>
    intro last hlast hc hruns b hb hfree
    obtain ⟨hta, hca⟩ := hc.head
    by_cases ha : a.free = true
    · -- `a` runs, and every later attempt is no earlier than `a`
      have hrun : Runs period last a := ⟨by omega, ha⟩
      have hat : period < a.now - t := hruns a.now (by rw [runTimes, if_pos hrun]; simp)
      have hab : a.now ≤ b.now := by
        rcases List.mem_cons.mp hb with rfl | hb
        · exact le_rfl
        · exact hca.le b hb
      omega
    · have hrun : ¬ Runs period last a := fun h => ha h.2
      have hstamp : stampAfter period last a = last := if_neg fun h => hrun h.1
      rcases List.mem_cons.mp hb with rfl | hb
      · exact absurd hfree ha
      · refine ih hlast (hca.mono hta) ?_ b hb hfree
        rw [runTimes, if_neg hrun, hstamp] at hruns
        exact hruns

/-- **When a throttle keeps its promise.** -/
theorem spaced_runTimes_iff {as : List Attempt} :
    ∀ {last : ℤ}, Clocked last as →
      (Spaced period (last :: runTimes period last as) ↔ Settled period last as) := by
  induction as with
  | nil => intro last _; simp [runTimes, Settled, Spaced]
  | cons a as ih =>
    intro last hc
    have hih := @ih (stampAfter period last a) hc.tail
    by_cases hrun : Runs period last a
    · have hlast : ∀ t ∈ runTimes period last (a :: as), period < t - last :=
        lt_of_mem_runTimes hc
      rw [runTimes, if_pos hrun] at hlast
      rw [runTimes, if_pos hrun, Settled, ← hih]
      unfold Spaced
      rw [List.pairwise_cons, List.pairwise_cons, List.pairwise_cons]
      constructor
      · rintro ⟨-, hfirst, hpair⟩
        refine ⟨fun _ hstamps => ?_, ?_, hpair⟩
        · have hstamp : stampAfter period last a = last := if_neg (by simp [hstamps])
          rw [hstamp] at hfirst
          exact lt_of_free hrun.1 hc.head.2 hfirst
        · exact lt_of_mem_runTimes hc.tail
      · rintro ⟨hsettled, -, hpair⟩
        refine ⟨hlast, fun t ht => ?_, hpair⟩
        cases hstamps : a.stamps with
        | true =>
          have hstamp : stampAfter period last a = a.now := if_pos ⟨hrun, hstamps⟩
          rw [hstamp] at ht
          exact lt_of_mem_runTimes hc.head.2 t ht
        | false =>
          obtain ⟨b, hb, hfree, rfl⟩ := exists_of_mem_runTimes t ht
          exact hsettled hrun hstamps b hb hfree
    · have hstamp : stampAfter period last a = last := if_neg fun h => hrun h.1
      rw [hstamp] at hih
      rw [runTimes, if_neg hrun, Settled, hstamp, hih]
      simp [hrun]

end Throttle

end GdtCache.Lib
