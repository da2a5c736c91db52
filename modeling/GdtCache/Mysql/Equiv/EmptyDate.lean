import GdtCache.Mysql.Equiv.GdtEntry

/-!
# Rows with an empty date

For a row with an empty date `getAll` reports the name of its type, and a type without a name throws
instead.  So one such row ends the load of all customers, while `getByCustomer` takes it as any
other row.  Without it the two build the same lists (`getAll_agrees_iff`).
-/

namespace GdtCache.Mysql.GdtEntry

open GdtCache.Lib GdtCache.Model

variable {timeZone : TimeZone} {clock : Clock}

/-! ### Types with a name -/

/-- The types with a name are those from `1` to `9`. -/
theorem getGdtEntryTypeString_ok_iff (id : ℤ) :
    (∃ name, Model.GdtEntry.getGdtEntryTypeString (.ofInt id) = .ok name) ↔ 1 ≤ id ∧ id ≤ 9 := by
  unfold GdtEntryType.ofInt
  split
  case h_10 => simp [Model.GdtEntry.getGdtEntryTypeString]
  case h_11 =>
    simp only [Model.GdtEntry.getGdtEntryTypeString, reduceCtorEq, exists_false, false_iff]
    grind
  all_goals simp [Model.GdtEntry.getGdtEntryTypeString]

/-- An empty date of the row can be reported. -/
def Reportable (row : GdtEntryRow) : Prop :=
  row.date = 0 → 1 ≤ row.gdt_entry_type_id ∧ row.gdt_entry_type_id ≤ 9

/-! ### When the load returns -/

theorem addRow_ok_iff (gdtEntries : EmailGdtEntriesListMap) (row : GdtEntryRow) :
    (∃ gdtEntries', addRow timeZone clock gdtEntries row = .ok gdtEntries') ↔ Reportable row := by
  unfold addRow Reportable
  split_ifs with hdate
  · rw [← getGdtEntryTypeString_ok_iff]
    cases Model.GdtEntry.getGdtEntryTypeString (.ofInt row.gdt_entry_type_id) with
    | error ex => simp [hdate, bind, Except.bind]
    | ok name => simp [hdate, bind, Except.bind, pure, Except.pure]
  · exact iff_of_true ⟨_, rfl⟩ fun h => absurd h hdate

theorem foldlM_addRow_ok_iff (rows : List GdtEntryRow) :
    ∀ gdtEntries : EmailGdtEntriesListMap,
      (∃ gdtEntries', rows.foldlM (addRow timeZone clock) gdtEntries = .ok gdtEntries') ↔
        ∀ row ∈ rows, Reportable row := by
  induction rows with
  | nil =>
    intro gdtEntries
    exact iff_of_true ⟨gdtEntries, rfl⟩ (by simp)
  | cons row rows ih =>
    intro gdtEntries
    have hrow := @addRow_ok_iff timeZone clock gdtEntries row
    rw [List.forall_mem_cons, List.foldlM_cons, ← hrow]
    cases addRow timeZone clock gdtEntries row with
    | error ex => simp [bind, Except.bind]
    | ok gdtEntries₁ =>
      have hrest := ih gdtEntries₁
      simp only [bind, Except.bind, Except.ok.injEq, exists_eq', true_and]
      exact hrest

/-- **When `getAll` returns**: when the query does and every empty date can be reported. -/
theorem getAll_ok_iff (connection : Database) :
    (∃ gdtEntries, getAll timeZone clock connection = .ok gdtEntries) ↔
      (∀ row ∈ connection.gdtEntries.rows, Reportable row) ∧
        connection.gdtEntries.failure = none := by
  have hrows := @foldlM_addRow_ok_iff timeZone clock connection.gdtEntries.rows ∅
  unfold getAll
  simp only [ResultSet.map_eq_ok_iff, exists_and_right, hrows]

/-! ### Both ways to a customer's list -/

/-- A customer's list is the one of the other query, whatever lies behind the buffers of that one,
if and only if the customer's rows are intact. -/
theorem lookup_agrees_iff {collation : Sql.Collation} {tables : Tables}
    {gdtEntries : EmailGdtEntriesListMap}
    (hgetAll : getAll timeZone clock (tables.answer collation) = .ok gdtEntries) (customerId : ℤ) :
    (∀ behind, ∃ l, getByCustomer timeZone clock customerId
          ((tables.answer collation).withMemory behind) = .ok (some l) ∧
        gdtEntries.lookup customerId = if l.getGdtEntries = [] then none else some (some l)) ↔
      Intact (tables.gdt_entries.filter fun row => row.customer_id = customerId) := by
  have hlookup := lookup_of_getAll hgetAll clock.created customerId
  have hrows : (tables.answer collation).gdtEntries.rows = tables.gdt_entries := rfl
  rw [hrows] at hlookup
  generalize hown : (tables.gdt_entries.filter fun row => row.customer_id = customerId) = rows
    at hlookup ⊢
  have hreceived : ∀ behind,
      (((tables.answer collation).withMemory behind).gdtEntriesByCustomer customerId).rows
        = fetchRows behind .empty rows := fun behind => by rw [← hown]; rfl
  constructor
  · intro h
    by_contra hintact
    rw [← intact_empty_cons_iff] at hintact
    obtain ⟨behind, before, row, row', after, column, rfl, hfetch, hgarbled⟩ :=
      exists_memory rows .empty hintact
    obtain ⟨l, hl, hsame⟩ := h behind
    obtain ⟨hfill, -⟩ := getByCustomer_eq_ok_iff.mp hl
    rw [hreceived, hfetch, Option.some.injEq] at hfill
    subst hfill
    have hentries := @fill_mGdtEntries timeZone clock clock.created (before ++ row' :: after)
    rw [hlookup, if_neg (by simp), if_neg (by rw [GdtEntryList.getGdtEntries, hentries]; simp)]
      at hsame
    -- the same lists would have the same entries
    have hsame := congrArg GdtEntryList.mGdtEntries (Option.some.inj (Option.some.inj hsame))
    rw [fill_mGdtEntries, hentries, List.map_append, List.map_append, List.map_cons,
      List.map_cons] at hsame
    exact entry_ne_of_garbled hgarbled timeZone
      (List.cons.inj (List.append_cancel_left hsame)).1.symm
  · intro hintact behind
    have hfetch : fetchRows behind .empty rows = rows :=
      fetchRows_of_isChain rows behind .empty ((intact_empty_cons_iff rows).mpr hintact)
    refine ⟨_, getByCustomer_eq_ok_iff.mpr ⟨rfl, rfl⟩, ?_⟩
    have hentries := @fill_mGdtEntries timeZone clock clock.created rows
    rw [hlookup, hreceived, hfetch, GdtEntryList.getGdtEntries, hentries]
    simp only [List.map_eq_nil_iff]

/-- **When one row cannot block the cache.**  `getAll` returns, with the list `getByCustomer` would
return for every customer that has any entries, whatever lies behind its buffers, if and only if no
row has an empty date and a type without a name, and the rows of every customer are intact. -/
theorem getAll_agrees_iff (collation : Sql.Collation) (timeZone : TimeZone) (clock : Clock)
    (tables : Tables) :
    (∀ behind, ∃ gdtEntries, getAll timeZone clock (tables.answer collation) = .ok gdtEntries ∧
        ∀ customerId, ∃ l,
          getByCustomer timeZone clock customerId ((tables.answer collation).withMemory behind)
              = .ok (some l) ∧
            gdtEntries.lookup customerId
              = if l.getGdtEntries = [] then none else some (some l)) ↔
      (∀ row ∈ tables.gdt_entries, row.date = 0 →
          1 ≤ row.gdt_entry_type_id ∧ row.gdt_entry_type_id ≤ 9) ∧
        ∀ customerId,
          Intact (tables.gdt_entries.filter fun row => row.customer_id = customerId) := by
  have hok := @getAll_ok_iff timeZone clock (tables.answer collation)
  constructor
  · intro h
    obtain ⟨gdtEntries, hgetAll, -⟩ := h fun _ _ _ => 0
    refine ⟨(hok.mp ⟨gdtEntries, hgetAll⟩).1, fun customerId => ?_⟩
    refine (lookup_agrees_iff hgetAll customerId).mp fun behind => ?_
    obtain ⟨gdtEntries', hgetAll', hlists⟩ := h behind
    rw [hgetAll, Except.ok.injEq] at hgetAll'
    rw [hgetAll']
    exact hlists customerId
  · rintro ⟨hrows, hintact⟩ behind
    obtain ⟨gdtEntries, hgetAll⟩ := hok.mpr ⟨hrows, rfl⟩
    exact ⟨gdtEntries, hgetAll, fun customerId =>
      (lookup_agrees_iff hgetAll customerId).mpr (hintact customerId) behind⟩

/-- A row with an empty date and the type `42` keeps the entries of all customers from being
loaded. -/
theorem getAll_blocked :
    ¬ ∀ (collation : Sql.Collation) (timeZone : TimeZone) (clock : Clock) (tables : Tables),
      ∃ gdtEntries, getAll timeZone clock (tables.answer collation) = .ok gdtEntries ∧
        ∀ customerId, ∃ l,
          getByCustomer timeZone clock customerId (tables.answer collation) = .ok (some l) ∧
            gdtEntries.lookup customerId
              = if l.getGdtEntries = [] then none else some (some l) := by
  intro h
  let odd : GdtEntryRow := ⟨2, 100, 0, "", "", "", "", "", 8, 42, 1, 0, 1, 100⟩
  obtain ⟨gdtEntries, hgetAll, -⟩ := h .ascii (fun _ => 0) ⟨0, fun _ => 0⟩ ⟨[], [odd]⟩
  have hodd := (getAll_ok_iff _).mp ⟨gdtEntries, hgetAll⟩
  exact absurd (hodd.1 odd (List.mem_singleton_self _) rfl) (by decide)

end GdtCache.Mysql.GdtEntry
