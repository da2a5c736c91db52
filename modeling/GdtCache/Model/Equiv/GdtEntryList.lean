import GdtCache.Model.GdtEntryList
import Mathlib.Algebra.BigOperators.Group.List.Basic
import Mathlib.Algebra.Order.Ring.Rat

/-!
# What every `GdtEntryList` keeps

The fields of a `GdtEntryList` are only changed by its methods, so an object of the class is one
its methods can build (`Built`).  Of such a list the counter is the number of entries
(`Built.totalCount`) and the running sum is their sum (`Built.gdtSum`): `insertGdtEntry` always
finds a place, because it only searches when the last entry is newer than the new one.

A list that is filled by `addGdtEntry` alone holds the entries in the order they came
(`foldl_addGdtEntry_mGdtEntries`).
-/

namespace GdtCache.Model.GdtEntryList

/-- The sum of the entries' gdt. -/
def sumOf (entries : List GdtEntry) : ℚ :=
  (entries.map GdtEntry.getGdt).sum

/-- The lists the methods of the class can build. -/
inductive Built : GdtEntryList → Prop
  | new (now : ℤ) : Built (new now)
  | reset {l : GdtEntryList} : Built l → Built l.reset
  | addGdtEntry {l : GdtEntryList} (now : ℤ) (gdtEntry : GdtEntry) :
    Built l → Built (l.addGdtEntry now gdtEntry)
  | insertGdtEntry {l : GdtEntryList} (gdtEntry : GdtEntry) :
    Built l → Built (l.insertGdtEntry gdtEntry)

/-- The search loop inserts as soon as some entry is not older. -/
theorem insertBefore_perm {gdtEntry : GdtEntry} {entries : List GdtEntry}
    (h : ∃ e ∈ entries, gdtEntry.getDate ≤ e.getDate) :
    (insertBefore gdtEntry entries).Perm (gdtEntry :: entries) := by
  induction entries with
  | nil => simp at h
  | cons e es ih =>
    rw [insertBefore]
    split_ifs with hle
    · exact List.Perm.refl _
    · have hrest : ∃ e ∈ es, gdtEntry.getDate ≤ e.getDate := by
        obtain ⟨x, hx, hxle⟩ := h
        rcases List.mem_cons.mp hx with rfl | hx
        · exact absurd hxle hle
        · exact ⟨x, hx, hxle⟩
      exact ((ih hrest).cons e).trans (List.Perm.swap gdtEntry e es)

/-- `insertGdtEntry` adds its entry, wherever it puts it. -/
theorem insertGdtEntry_perm (l : GdtEntryList) (gdtEntry : GdtEntry) :
    (l.insertGdtEntry gdtEntry).mGdtEntries.Perm (gdtEntry :: l.mGdtEntries) := by
  show (if _ then _ else _ : List GdtEntry).Perm _
  split_ifs with h
  · exact List.perm_append_singleton gdtEntry l.mGdtEntries
  · apply insertBefore_perm
    cases hlast : l.mGdtEntries.getLast? with
    | none => simp [hlast] at h
    | some e =>
      have hnew : gdtEntry.getDate < e.getDate := by simpa [hlast] using h
      exact ⟨e, List.mem_of_getLast? hlast, hnew.le⟩

/-- **The counter counts.** -/
theorem Built.totalCount {l : GdtEntryList} (h : l.Built) :
    l.mTotalCount = l.mGdtEntries.length := by
  induction h with
  | new now => rfl
  | reset _ _ => rfl
  | addGdtEntry now gdtEntry _ ih => simp [GdtEntryList.addGdtEntry, ih]
  | @insertGdtEntry l gdtEntry _ ih =>
    rw [(insertGdtEntry_perm l gdtEntry).length_eq]
    simp [GdtEntryList.insertGdtEntry, ih]

/-- **The running sum sums.** -/
theorem Built.gdtSum {l : GdtEntryList} (h : l.Built) :
    l.mTotalGDTSum = sumOf l.mGdtEntries := by
  induction h with
  | new now => rfl
  | reset _ _ => rfl
  | addGdtEntry now gdtEntry _ ih => simp [GdtEntryList.addGdtEntry, ih, sumOf]
  | @insertGdtEntry l gdtEntry _ ih =>
    rw [sumOf, ((insertGdtEntry_perm l gdtEntry).map GdtEntry.getGdt).sum_eq]
    simp [GdtEntryList.insertGdtEntry, ih, sumOf, add_comm]

/-! ### Filling a list -/

theorem Built.foldl_addGdtEntry {l : GdtEntryList} (h : l.Built) (now : ℤ)
    (entries : List GdtEntry) : (entries.foldl (GdtEntryList.addGdtEntry now) l).Built := by
  induction entries generalizing l with
  | nil => exact h
  | cons e entries ih => exact ih (h.addGdtEntry now e)

/-- A list filled by `addGdtEntry` holds the entries in the order they came. -/
theorem foldl_addGdtEntry_mGdtEntries (now : ℤ) (entries : List GdtEntry) (l : GdtEntryList) :
    (entries.foldl (GdtEntryList.addGdtEntry now) l).mGdtEntries = l.mGdtEntries ++ entries := by
  induction entries generalizing l with
  | nil => simp
  | cons e entries ih => rw [List.foldl_cons, ih]; simp [GdtEntryList.addGdtEntry]

end GdtCache.Model.GdtEntryList
