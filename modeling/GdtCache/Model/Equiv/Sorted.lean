import GdtCache.Lib.Machine
import GdtCache.Model.Equiv.GdtEntryList

/-!
# The order of a `GdtEntryList`

`insertGdtEntry` appends where it can and searches for a place otherwise, with another comparison;
`addGdtEntry` appends without looking.  `operations` is the list under any sequence of the methods
that change it, and `given` is what they have been given since the last `reset`.

As long as `addGdtEntry` gets entries that are not older than the last one, the list is ordered by
date at any time, and it is what was given, each entry as often as it was given (`ordered_of_run`).
-/

namespace GdtCache.Model.GdtEntryList

open GdtCache.Lib

/-- The methods that change the entries. -/
inductive Operation
  | reset
  | insertGdtEntry (gdtEntry : GdtEntry)
  | addGdtEntry (now : ℤ) (gdtEntry : GdtEntry)

/-- One call. -/
def apply (l : GdtEntryList) : Operation → GdtEntryList
  | .reset => l.reset
  | .insertGdtEntry gdtEntry => l.insertGdtEntry gdtEntry
  | .addGdtEntry now gdtEntry => l.addGdtEntry now gdtEntry

/-- A list, call after call. -/
def operations : Machine GdtEntryList Operation Unit where
  next := apply
  out _ _ := ()

/-- What a call adds to the entries given since the last `reset`. -/
def give (entries : List GdtEntry) : Operation → List GdtEntry
  | .reset => []
  | .insertGdtEntry gdtEntry => entries ++ [gdtEntry]
  | .addGdtEntry _ gdtEntry => entries ++ [gdtEntry]

/-- The entries given since the last `reset`. -/
def given (calls : List Operation) : List GdtEntry :=
  calls.foldl give []

/-- `addGdtEntry` gets an entry that is not older than the last one. -/
def InOrder (l : GdtEntryList) : Operation → Prop
  | .addGdtEntry _ gdtEntry =>
    ∀ e, l.mGdtEntries.getLast? = some e → e.getDate ≤ gdtEntry.getDate
  | _ => True

/-- Ordered by date. -/
def Ordered (entries : List GdtEntry) : Prop :=
  entries.Pairwise fun a b => a.getDate ≤ b.getDate

/-! ### Order -/

/-- In an ordered list no entry is newer than the last one. -/
theorem Ordered.le_getLast? {entries : List GdtEntry} (h : Ordered entries) {last : GdtEntry}
    (hlast : entries.getLast? = some last) : ∀ e ∈ entries, e.getDate ≤ last.getDate := by
  obtain ⟨front, rfl⟩ := List.getLast?_eq_some_iff.mp hlast
  intro e he
  rcases List.mem_append.mp he with he | he
  · exact (List.pairwise_append.mp h).2.2 e he last (List.mem_singleton_self last)
  · rw [List.mem_singleton.mp he]

theorem Ordered.append_singleton {entries : List GdtEntry} (h : Ordered entries)
    {gdtEntry : GdtEntry}
    (hlast : ∀ e, entries.getLast? = some e → e.getDate ≤ gdtEntry.getDate) :
    Ordered (entries ++ [gdtEntry]) := by
  refine List.pairwise_append.mpr ⟨h, List.pairwise_singleton _ _, ?_⟩
  intro e he new hnew
  rw [List.mem_singleton.mp hnew]
  have hsome := List.getLast?_eq_some_getLast (List.ne_nil_of_mem he)
  exact (h.le_getLast? hsome e he).trans (hlast _ hsome)

theorem mem_insertBefore {gdtEntry x : GdtEntry} {entries : List GdtEntry}
    (h : x ∈ insertBefore gdtEntry entries) : x = gdtEntry ∨ x ∈ entries := by
  induction entries with
  | nil => cases h
  | cons e es ih =>
    rw [insertBefore] at h
    split_ifs at h
    · exact List.mem_cons.mp h
    · rcases List.mem_cons.mp h with rfl | h
      · exact .inr List.mem_cons_self
      · exact (ih h).imp_right (List.mem_cons_of_mem e)

/-- Wherever the search stops, what is before it is older. -/
theorem Ordered.insertBefore {entries : List GdtEntry} (h : Ordered entries) (gdtEntry : GdtEntry) :
    Ordered (insertBefore gdtEntry entries) := by
  induction entries with
  | nil => exact List.Pairwise.nil
  | cons e es ih =>
    obtain ⟨hhead, htail⟩ := List.pairwise_cons.mp h
    rw [GdtEntryList.insertBefore]
    split_ifs with hle
    · refine List.pairwise_cons.mpr ⟨fun x hx => ?_, h⟩
      rcases List.mem_cons.mp hx with rfl | hx
      · exact hle
      · exact hle.trans (hhead x hx)
    · refine List.pairwise_cons.mpr ⟨fun x hx => ?_, ih htail⟩
      rcases mem_insertBefore hx with rfl | hx
      · exact (not_le.mp hle).le
      · exact hhead x hx

/-- One call keeps the order. -/
theorem Ordered.apply {l : GdtEntryList} {call : Operation} (h : Ordered l.mGdtEntries)
    (hcall : InOrder l call) : Ordered (l.apply call).mGdtEntries := by
  cases call with
  | reset => exact List.Pairwise.nil
  | insertGdtEntry gdtEntry =>
    show Ordered (if _ then _ else _)
    split_ifs with hlast
    · refine h.append_singleton fun e he => ?_
      simpa [he] using hlast
    · exact h.insertBefore gdtEntry
  | addGdtEntry now gdtEntry => exact h.append_singleton hcall

/-! ### Nothing lost, nothing twice -/

theorem apply_perm {l : GdtEntryList} {entries : List GdtEntry} (h : l.mGdtEntries.Perm entries)
    (call : Operation) : (l.apply call).mGdtEntries.Perm (give entries call) := by
  cases call with
  | reset => exact List.Perm.refl _
  | insertGdtEntry gdtEntry =>
    exact (insertGdtEntry_perm l gdtEntry).trans
      ((h.cons gdtEntry).trans (List.perm_append_singleton gdtEntry entries).symm)
  | addGdtEntry now gdtEntry => exact h.append_right [gdtEntry]

theorem run_perm {l : GdtEntryList} {entries : List GdtEntry} (h : l.mGdtEntries.Perm entries)
    (calls : List Operation) :
    (operations.run l calls).mGdtEntries.Perm (calls.foldl give entries) := by
  induction calls generalizing l entries with
  | nil => exact h
  | cons call calls ih => exact ih (apply_perm h call)

theorem Built.apply {l : GdtEntryList} (h : l.Built) (call : Operation) : (l.apply call).Built := by
  cases call with
  | reset => exact h.reset
  | insertGdtEntry gdtEntry => exact h.insertGdtEntry gdtEntry
  | addGdtEntry now gdtEntry => exact h.addGdtEntry now gdtEntry

/-- **What every list is.**  After any sequence of calls in which `addGdtEntry` gets no entry that
is older than the last one, a list is ordered by date, it holds exactly what it was given since the
last `reset`, and its counter and its sum are those of its entries. -/
theorem ordered_of_run (now : ℤ) (calls : List Operation)
    (h : operations.Always InOrder (new now) calls) :
    Ordered (operations.run (new now) calls).getGdtEntries ∧
      (operations.run (new now) calls).getGdtEntries.Perm (given calls) ∧
      (operations.run (new now) calls).getTotalCount
        = (operations.run (new now) calls).getGdtEntries.length ∧
      (operations.run (new now) calls).getGdtSum
        = sumOf (operations.run (new now) calls).getGdtEntries := by
  have hbuilt : (operations.run (new now) calls).Built :=
    Machine.run_induction (Built.new now) fun call _ l hl => hl.apply call
  have hordered : Ordered (operations.run (new now) calls).mGdtEntries :=
    h.run_induction (I := fun l : GdtEntryList => Ordered l.mGdtEntries) .nil
      fun l call hl hcall => hl.apply hcall
  exact ⟨hordered, run_perm (List.Perm.refl _) calls, hbuilt.totalCount, hbuilt.gdtSum⟩

/-- An entry is put in front of a newer one, and a third one is added behind both. -/
theorem ordered_of_insert_insert_add :
    let entry := fun date : ℤ => GdtEntry.new (fun _ => 0) date 500 date "" "" "" "" "" 1 1 1 0 1 20
    Ordered (operations.run (new 0) [.insertGdtEntry (entry 20), .insertGdtEntry (entry 10),
      .addGdtEntry 5 (entry 30)]).getGdtEntries := by
  intro entry
  refine (ordered_of_run 0 [.insertGdtEntry (entry 20), .insertGdtEntry (entry 10),
    .addGdtEntry 5 (entry 30)] ⟨trivial, trivial, ?_, trivial⟩).1
  intro e he
  obtain rfl : entry 20 = e := Option.some.inj he
  exact of_decide_eq_true rfl

end GdtCache.Model.GdtEntryList
