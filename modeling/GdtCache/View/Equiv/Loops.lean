import GdtCache.View.Equiv.GdtEntryList
import GdtCache.View.Loops

/-!
# The loops of a page are safe

While the loops run, their variables go through a sequence: in round `a` of the skip loop the
iterator stands on element `a` (`skipState`), and in round `b` of the collect loop on the `b`-th
element of the page (`collectState`).  The guard keeps the offset below the size, so both loops stay
within the list, and end (`loops_safe`).
-/

namespace GdtCache.View.GdtEntryList

open GdtCache.Lib GdtCache.Model

variable {entries : List GdtEntry} {page count : Int32} {order : OrderDirections}

/-! ### The loop variable -/

theorem ofNat_succ (a : ℕ) : Int32.ofNat a + 1 = Int32.ofNat (a + 1) := by
  rw [Int32.ofNat_add]
  rfl

/-- The test of a loop. -/
theorem ofNat_lt_iff {a : ℕ} {bound : Int32} (ha : a < 2 ^ 31) :
    Int32.ofNat a < bound ↔ a < bound.toInt.toNat := by
  rw [Int32.lt_iff_toInt_lt, Int32.toInt_ofNat_of_lt ha]
  omega

/-! ### The skip loop -/

/-- Before round `a` of the skip loop. -/
def skipState (entries : List GdtEntry) (order : OrderDirections) (a : ℕ) : Loops :=
  ⟨.skipping, Int32.ofNat a, iteratorAt entries.length order a, a, 0, []⟩

/-- Before round `b` of the collect loop, after `skipped` moves. -/
def collectState (entries : List GdtEntry) (order : OrderDirections) (skipped b : ℕ) : Loops :=
  ⟨.collecting, Int32.ofNat b, iteratorAt entries.length order (skipped + b), skipped, b,
    ((oriented entries order).drop skipped).take b⟩

theorem round_skipState {a : ℕ} (ha : a < ((page - 1) * count).toInt.toNat)
    (hlength : a + 1 < entries.length) :
    Loops.round entries page count order (skipState entries order a)
      = some (skipState entries order (a + 1)) := by
  have hhi := ((page - 1) * count).toInt_lt
  unfold Loops.round skipState
  simp only
  rw [if_pos ((ofNat_lt_iff (by omega)).mpr ha), advance_iteratorAt order hlength, ofNat_succ]
  rfl

/-- The skip loop ends where the page begins. -/
theorem round_skipState_last :
    Loops.round entries page count order
        (skipState entries order ((page - 1) * count).toInt.toNat)
      = some (collectState entries order ((page - 1) * count).toInt.toNat 0) := by
  have hhi := ((page - 1) * count).toInt_lt
  unfold Loops.round skipState
  simp only
  rw [if_neg fun h => absurd ((ofNat_lt_iff (by omega)).mp h) (by omega)]
  unfold collectState
  rw [List.take_zero]
  rfl

theorem rounds_skip (hguard : ((page - 1) * count).toInt.toNat < entries.length) :
    rounds (Loops.round entries page count order) (((page - 1) * count).toInt.toNat + 1)
        (some (skipState entries order 0))
      = some (collectState entries order ((page - 1) * count).toInt.toNat 0) := by
  have hchain := @rounds_chain _ (Loops.round entries page count order)
    (skipState entries order) ((page - 1) * count).toInt.toNat
    fun a ha => round_skipState ha (by omega)
  rw [Nat.add_comm, rounds_add, hchain]
  exact round_skipState_last

/-! ### The collect loop -/

/-- The element that is read is the next one of the page. -/
theorem getElem?_collectState {skipped b : ℕ} (hlength : skipped + b < entries.length) :
    ∃ e, entries[iteratorAt entries.length order (skipped + b)]? = some e ∧
      ((oriented entries order).drop skipped).take b ++ [e]
        = ((oriented entries order).drop skipped).take (b + 1) := by
  have horiented := length_oriented entries order
  have hb : b < ((oriented entries order).drop skipped).length := by
    rw [List.length_drop]
    omega
  refine ⟨((oriented entries order).drop skipped)[b], ?_, ?_⟩
  · rw [getElem?_iteratorAt order hlength, List.getElem?_eq_getElem (by omega), List.getElem_drop]
  · rw [List.take_succ_eq_append_getElem hb]

/-- A round in the middle of the list. -/
theorem round_collectState {skipped b : ℕ} (hb : b < count.toInt.toNat)
    (hlength : skipped + b + 1 < entries.length) :
    Loops.round entries page count order (collectState entries order skipped b)
      = some (collectState entries order skipped (b + 1)) := by
  have hcount := count.toInt_lt
  obtain ⟨e, hread, htake⟩ :=
    @getElem?_collectState entries order skipped b (by omega)
  have hadvance := advance_iteratorAt order hlength
  unfold Loops.round collectState
  simp only
  rw [if_pos ((ofNat_lt_iff (by omega)).mpr hb), hread, Option.bind_some, htake, ofNat_succ]
  cases order with
  | ASC =>
    have hne : iteratorAt entries.length .ASC (skipped + b + 1) ≠ entries.length := by
      simp only [iteratorAt]
      omega
    simp only [advance] at hadvance
    simp only [hadvance, Option.map_some, if_neg hne]
    rfl
  | DESC =>
    have hne : iteratorAt entries.length .DESC (skipped + b) ≠ 0 := by
      simp only [iteratorAt]
      omega
    simp only [advance] at hadvance
    simp only [if_neg hne, hadvance, Option.map_some]
    rfl

/-- What the loops leave behind, safely. -/
def EndsSafely (entries : List GdtEntry) (l : Loops) (written : List GdtEntry) : Prop :=
  l.phase = .ended ∧ l.skipMoves ≤ entries.length ∧ l.collectMoves ≤ entries.length ∧
    l.out = written

/-- When the count is reached, the loop ends. -/
theorem round_collectState_full {skipped : ℕ}
    (hlength : skipped + count.toInt.toNat < entries.length) :
    ∃ l, Loops.round entries page count order
        (collectState entries order skipped count.toInt.toNat) = some l ∧
      EndsSafely entries l (((oriented entries order).drop skipped).take count.toInt.toNat) := by
  have hcount := count.toInt_lt
  refine ⟨{ collectState entries order skipped count.toInt.toNat with phase := .ended }, ?_, rfl,
    ?_, ?_, rfl⟩
  · unfold Loops.round collectState
    simp only
    rw [if_neg fun h => absurd ((ofNat_lt_iff (by omega)).mp h) (by omega)]
  · show skipped ≤ entries.length
    omega
  · show count.toInt.toNat ≤ entries.length
    omega

/-- At the last element of the list it ends as well. -/
theorem round_collectState_last {skipped b : ℕ} (hb : b < count.toInt.toNat)
    (hlength : skipped + b + 1 = entries.length) :
    ∃ l, Loops.round entries page count order (collectState entries order skipped b) = some l ∧
      EndsSafely entries l (((oriented entries order).drop skipped).take count.toInt.toNat) := by
  have hcount := count.toInt_lt
  have hall : ((oriented entries order).drop skipped).take (b + 1)
      = ((oriented entries order).drop skipped).take count.toInt.toNat := by
    have hrest : ((oriented entries order).drop skipped).length = b + 1 := by
      rw [List.length_drop, length_oriented]
      omega
    rw [List.take_of_length_le hrest.le, List.take_of_length_le (by omega)]
  obtain ⟨e, hread, htake⟩ :=
    @getElem?_collectState entries order skipped b (by omega)
  have htest : Int32.ofNat b < count := (ofNat_lt_iff (by omega)).mpr hb
  cases order with
  | ASC =>
    -- the iterator gets to the end, and the loop breaks after the increment
    have hinc : increment entries.length (iteratorAt entries.length .ASC (skipped + b))
        = some entries.length := by
      have hlt : iteratorAt entries.length .ASC (skipped + b) < entries.length := by
        simp only [iteratorAt]
        omega
      rw [increment, if_pos hlt]
      exact congrArg some hlength
    refine ⟨⟨.ended, Int32.ofNat b, entries.length, skipped, b + 1, _⟩, ?_, rfl, ?_, ?_, hall⟩
    · unfold Loops.round collectState
      simp only
      rw [if_pos htest, hread, Option.bind_some, htake, hinc, Option.map_some, if_pos rfl]
    · show skipped ≤ entries.length
      omega
    · show b + 1 ≤ entries.length
      omega
  | DESC =>
    -- the iterator is at the beginning, and the loop breaks before the decrement
    have hzero : iteratorAt entries.length .DESC (skipped + b) = 0 := by
      simp only [iteratorAt]
      omega
    refine ⟨⟨.ended, Int32.ofNat b, 0, skipped, b, _⟩, ?_, rfl, ?_, ?_, hall⟩
    · unfold Loops.round collectState
      simp only
      rw [if_pos htest, hread, Option.bind_some, htake, hzero, if_pos rfl]
    · show skipped ≤ entries.length
      omega
    · show b ≤ entries.length
      omega

/-- From every round on, the collect loop ends: by induction on what is left of the count. -/
theorem rounds_collect {skipped : ℕ} :
    ∀ left b, b + left = count.toInt.toNat → skipped + b < entries.length →
      ∃ n l, rounds (Loops.round entries page count order) n
          (some (collectState entries order skipped b)) = some l ∧
        EndsSafely entries l (((oriented entries order).drop skipped).take count.toInt.toNat) := by
  intro left
  induction left with
  | zero =>
    intro b hb hlength
    obtain rfl : b = count.toInt.toNat := hb
    obtain ⟨l, hround, hl⟩ := @round_collectState_full entries page count order skipped hlength
    exact ⟨1, l, hround, hl⟩
  | succ left ih =>
    intro b hb hlength
    -- the list may end before the count is reached
    rcases Nat.eq_or_lt_of_le (Nat.succ_le_of_lt hlength) with hlast | hnext
    · obtain ⟨l, hround, hl⟩ :=
        @round_collectState_last entries page count order skipped b (by omega) hlast
      exact ⟨1, l, hround, hl⟩
    · obtain ⟨n, l, hrounds, hl⟩ := ih (b + 1) (by omega) hnext
      refine ⟨n + 1, l, ?_, hl⟩
      rw [rounds_succ, round_collectState (by omega) hnext, hrounds]

/-! ### Both loops -/

theorem startIterator_of_guard (hguard : sizeT ((page - 1) * count) < entries.length) :
    Loops.start entries page count order
      = some (if 1 < page then skipState entries order 0 else collectState entries order 0 0) := by
  unfold Loops.start
  rw [if_pos hguard, startIterator_eq order (by omega), Option.map_some]
  unfold skipState collectState
  split_ifs
  · rfl
  · rw [List.take_zero]
    rfl

/-- **The loops are safe.**  For every list, page, count and order, no round of the loops reads or
increments the end iterator or decrements the begin iterator; they come to their end after at most
as many moves in each loop as the list has elements, and have written the entries of the page. -/
theorem loops_safe (entries : List GdtEntry) (page count : Int32) (order : OrderDirections) :
    (∀ n, (Loops.after entries page count order n).isSome) ∧
      ∃ n l, Loops.after entries page count order n = some l ∧ l.phase = .ended ∧
        l.skipMoves ≤ entries.length ∧ l.collectMoves ≤ entries.length ∧
        l.out = pageEntries entries page count order := by
  have hends : ∃ n l, Loops.after entries page count order n = some l ∧
      EndsSafely entries l (pageEntries entries page count order) := by
    rw [pageEntries_eq]
    split_ifs with hguard hpage
    · -- a page behind the first one
      have hle := toNat_le_sizeT ((page - 1) * count)
      have hskip := @rounds_skip entries page count order (by omega)
      obtain ⟨n, l, hcollect, hl⟩ := @rounds_collect entries page count order
        ((page - 1) * count).toInt.toNat count.toInt.toNat 0 (by omega) (by omega)
      refine ⟨n + (((page - 1) * count).toInt.toNat + 1), l, ?_, hl⟩
      rw [Loops.after, startIterator_of_guard hguard, if_pos hpage, rounds_add, hskip, hcollect]
    · obtain ⟨n, l, hcollect, hl⟩ := @rounds_collect entries page count order 0
        count.toInt.toNat 0 (by omega) (by omega)
      refine ⟨n, l, ?_, hl⟩
      rw [Loops.after, startIterator_of_guard hguard, if_neg hpage, hcollect]
    · -- the guard does not let the loops run
      refine ⟨0, ⟨.ended, 0, 0, 0, 0, []⟩, ?_, rfl, Nat.zero_le _, Nat.zero_le _, rfl⟩
      rw [Loops.after, rounds_zero, Loops.start, if_neg hguard]
  obtain ⟨n, l, hafter, hended, hl⟩ := hends
  have hfixed : Loops.round entries page count order l = some l := by
    rw [Loops.round, hended]
  exact ⟨isSome_rounds_of_fixed hafter hfixed, n, l, hafter, hended, hl⟩

end GdtCache.View.GdtEntryList
