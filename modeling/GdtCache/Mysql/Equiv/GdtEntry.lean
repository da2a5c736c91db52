import GdtCache.Model.Equiv.GdtEntryList
import GdtCache.Mysql.Equiv.Statement
import GdtCache.Mysql.GdtEntry

/-!
# What the two builders build

A row becomes an entry of its customer, and both `getByCustomer` and `getAll` fill a new list with
rows one after another (`fill`): `getByCustomer` with all rows of its result, `getAll`, for every
customer that has any, with exactly the customer's own (`lookup_of_getAll`).  A result that ends
by an exception builds nothing.

No text of a row is lost on the way: another text makes another entry (`entry_ne_of_garbled`).
-/

namespace GdtCache.Mysql.GdtEntry

open GdtCache.Lib GdtCache.Model GdtCache.Model.GdtEntryList

/-- A list made at `created` and filled with rows. -/
def fill (timeZone : TimeZone) (clock : Clock) (created : ℤ) (rows : List GdtEntryRow) :
    GdtEntryList :=
  rows.foldl (fun l row => l.addGdtEntry (clock.arrival row) (entry timeZone row)) (.new created)

section

variable {timeZone : TimeZone} {clock : Clock}

/-! ### Filling a list -/

theorem fill_append (created : ℤ) (rows : List GdtEntryRow) (row : GdtEntryRow) :
    fill timeZone clock created (rows ++ [row])
      = (fill timeZone clock created rows).addGdtEntry (clock.arrival row)
          (entry timeZone row) := by
  unfold fill
  rw [List.foldl_append]
  rfl

theorem fill_built (created : ℤ) (rows : List GdtEntryRow) :
    (fill timeZone clock created rows).Built := by
  induction rows using List.reverseRecOn with
  | nil => exact .new created
  | append_singleton rows row ih =>
    rw [fill_append]
    exact ih.addGdtEntry _ _

theorem fill_mGdtEntries (created : ℤ) (rows : List GdtEntryRow) :
    (fill timeZone clock created rows).mGdtEntries = rows.map (entry timeZone) := by
  induction rows using List.reverseRecOn with
  | nil => rfl
  | append_singleton rows row ih =>
    rw [fill_append, List.map_append, ← ih]
    rfl

/-- The first row overwrites the time at which the list was made. -/
theorem fill_created {rows : List GdtEntryRow} (h : rows ≠ []) (created created' : ℤ) :
    fill timeZone clock created rows = fill timeZone clock created' rows := by
  cases rows with
  | nil => exact absurd rfl h
  | cons row rows => rfl

/-! ### `getByCustomer` -/

theorem getByCustomer_eq_ok_iff {customerId : ℤ} {connection : Database}
    {gdtEntries : GdtEntryListPtr} :
    getByCustomer timeZone clock customerId connection = .ok gdtEntries ↔
      some (fill timeZone clock clock.created (connection.gdtEntriesByCustomer customerId).rows)
          = gdtEntries ∧
        (connection.gdtEntriesByCustomer customerId).failure = none := by
  have hmap := @ResultSet.map_pure_eq_ok_iff _ _
    (connection.gdtEntriesByCustomer customerId)
    (fun (l : GdtEntryList) row => l.addGdtEntry (clock.arrival row) (entry timeZone row))
    (.new clock.created)
  unfold getByCustomer
  constructor
  · intro h
    cases hrows : (connection.gdtEntriesByCustomer customerId).map
        (fun (l : GdtEntryList) row =>
          .ok (l.addGdtEntry (clock.arrival row) (entry timeZone row)))
        (.new clock.created) with
    | error ex => rw [hrows] at h; cases h
    | ok l =>
      rw [hrows] at h
      obtain ⟨hfold, hfailure⟩ := hmap.mp hrows
      cases h
      exact ⟨congrArg some hfold, hfailure⟩
  · rintro ⟨rfl, hfailure⟩
    rw [hmap.mpr ⟨rfl, hfailure⟩]
    rfl

/-! ### `getAll` -/

/-- A row whose empty date can be reported goes to the list of its customer. -/
theorem addRow_eq_ok {gdtEntries gdtEntries' : EmailGdtEntriesListMap} {row : GdtEntryRow}
    (h : addRow timeZone clock gdtEntries row = .ok gdtEntries') :
    gdtEntries' = UnorderedMap.accumulate GdtEntryRow.customer_id (some (GdtEntryList.new 0))
      (fun p row => p.map fun l => l.addGdtEntry (clock.arrival row) (entry timeZone row))
      gdtEntries row := by
  have hassign : gdtEntries' = ((gdtEntries.insertNew row.customer_id
      (some (GdtEntryList.new (clock.arrival row)))).assign row.customer_id
        (((gdtEntries.insertNew row.customer_id
          (some (GdtEntryList.new (clock.arrival row)))).lookup row.customer_id).join.map
            fun l => l.addGdtEntry (clock.arrival row) (entry timeZone row))) := by
    unfold addRow at h
    split_ifs at h with hdate
    · cases htype : Model.GdtEntry.getGdtEntryTypeString (.ofInt row.gdt_entry_type_id) with
      | error ex => rw [htype] at h; cases h
      | ok type => rw [htype] at h; cases h; rfl
    · cases h; rfl
  -- a list that is new to the map is empty, whenever it was made: the first row sets its time
  rw [hassign]
  apply Finmap.ext_lookup
  intro k
  unfold UnorderedMap.accumulate
  simp only [UnorderedMap.lookup_assign, UnorderedMap.lookup_insertNew, if_pos]
  split_ifs with hk
  · cases gdtEntries.lookup row.customer_id with
    | none => rfl
    | some p => rfl
  · rfl

/-- If no row callback threw, the loop grouped its rows. -/
theorem foldlM_addRow_eq_ok {rows : List GdtEntryRow} :
    ∀ {gdtEntries gdtEntries' : EmailGdtEntriesListMap},
      rows.foldlM (addRow timeZone clock) gdtEntries = .ok gdtEntries' →
        gdtEntries' = rows.foldl
          (UnorderedMap.accumulate GdtEntryRow.customer_id (some (GdtEntryList.new 0))
            fun p row => p.map fun l => l.addGdtEntry (clock.arrival row) (entry timeZone row))
          gdtEntries := by
  induction rows with
  | nil => intro gdtEntries gdtEntries' h; cases h; rfl
  | cons row rows ih =>
    intro gdtEntries gdtEntries' h
    rw [List.foldlM_cons] at h
    cases hrow : addRow timeZone clock gdtEntries row with
    | error ex => rw [hrow] at h; cases h
    | ok gdtEntries₁ =>
      -- the rest of the loop goes on from the map after this row
      rw [hrow] at h
      rw [List.foldl_cons, ← addRow_eq_ok hrow]
      exact ih h

/-- Filling through a pointer fills the list behind it. -/
theorem foldl_map_addGdtEntry (rows : List GdtEntryRow) (l : GdtEntryList) :
    rows.foldl (fun p row =>
        Option.map (fun l => l.addGdtEntry (clock.arrival row) (entry timeZone row)) p) (some l)
      = some (rows.foldl
          (fun l row => l.addGdtEntry (clock.arrival row) (entry timeZone row)) l) := by
  induction rows generalizing l with
  | nil => rfl
  | cons row rows ih => exact ih _

/-- **What `getAll` builds**: for every customer with rows, a list of exactly these. -/
theorem lookup_of_getAll {connection : Database} {gdtEntries : EmailGdtEntriesListMap}
    (h : getAll timeZone clock connection = .ok gdtEntries) (created customerId : ℤ) :
    gdtEntries.lookup customerId =
      if (connection.gdtEntries.rows.filter fun row => row.customer_id = customerId) = [] then none
      else some (some (fill timeZone clock created
        (connection.gdtEntries.rows.filter fun row => row.customer_id = customerId))) := by
  obtain ⟨hfold, -⟩ := ResultSet.map_eq_ok_iff.mp h
  -- the loop begins with the empty map, so a bucket holds nothing but rows of this result
  rw [foldlM_addRow_eq_ok hfold, UnorderedMap.lookup_foldl_accumulate, Finmap.lookup_empty]
  split_ifs with hnil
  · rfl
  · rw [Option.getD_none, foldl_map_addGdtEntry, fill_created hnil created 0]
    rfl

/-- `getAll` only returns the rows of a result that ended properly. -/
theorem failure_of_getAll {connection : Database} {gdtEntries : EmailGdtEntriesListMap}
    (h : getAll timeZone clock connection = .ok gdtEntries) :
    connection.gdtEntries.failure = none :=
  (ResultSet.map_eq_ok_iff.mp h).2

end

/-! ### Lost rows -/

/-- No row of the customer is lost with the connection. -/
def KeepsRows (customerId : ℤ) (connection : Database) : Prop :=
  ∀ row ∈ connection.gdtEntries.lost, row.customer_id ≠ customerId

/-- Then the customer's rows are all there. -/
theorem KeepsRows.filter_append {customerId : ℤ} {connection : Database}
    (h : KeepsRows customerId connection) :
    ((connection.gdtEntries.rows ++ connection.gdtEntries.lost).filter
        fun row => row.customer_id = customerId)
      = connection.gdtEntries.rows.filter fun row => row.customer_id = customerId := by
  have hnone : (connection.gdtEntries.lost.filter fun row => row.customer_id = customerId) = [] :=
    List.filter_eq_nil_iff.mpr fun row hrow => by simpa using h row hrow
  rw [List.filter_append, hnone, List.append_nil]

/-! ### Garbled rows -/

theorem getFullComment_inj_comment {comment comment' : String} (h : comment ≠ "")
    (h' : comment' ≠ "") {source project : String}
    (heq : Model.GdtEntry.getFullComment comment source project
      = Model.GdtEntry.getFullComment comment' source project) : comment = comment' := by
  unfold Model.GdtEntry.getFullComment at heq
  by_cases hsource : source = "" <;> by_cases hproject : project = "" <;>
    simpa [hsource, hproject, h, h', String.append_assoc] using heq

theorem getFullComment_inj_source {source source' : String} (h : source ≠ "") (h' : source' ≠ "")
    {comment project : String}
    (heq : Model.GdtEntry.getFullComment comment source project
      = Model.GdtEntry.getFullComment comment source' project) : source = source' := by
  unfold Model.GdtEntry.getFullComment at heq
  by_cases hcomment : comment = "" <;> by_cases hproject : project = "" <;>
    simpa [hcomment, hproject, h, h', String.append_assoc] using heq

theorem getFullComment_inj_project {project project' : String} (h : project ≠ "")
    (h' : project' ≠ "") {comment source : String}
    (heq : Model.GdtEntry.getFullComment comment source project
      = Model.GdtEntry.getFullComment comment source project') : project = project' := by
  unfold Model.GdtEntry.getFullComment at heq
  by_cases hcomment : comment = "" <;> by_cases hsource : source = "" <;>
    simpa [hcomment, hsource, h, h', String.append_assoc] using heq

/-- A garbled text shows in the entry. -/
theorem entry_ne_of_garbled {row row' : GdtEntryRow} {column : TextColumn}
    (h : Garbled row row' column) (timeZone : TimeZone) :
    entry timeZone row' ≠ entry timeZone row := by
  have hempty : row.text column ≠ "" := by
    intro hempty
    have hlong := h.long
    rw [hempty] at hlong
    exact absurd hlong (by decide)
  obtain ⟨text, hrow', hne, hne'⟩ : ∃ text,
      row' = row.withTexts (Function.update row.text column text) ∧ text ≠ row.text column ∧
        text ≠ "" := ⟨_, h.eq_withTexts, h.text_ne, h.ne_empty⟩
  subst hrow'
  intro heq
  -- the column of the text says which field of the entry it has come to
  cases column with
  | email => exact hne (congrArg Model.GdtEntry.mEmail heq)
  | comment =>
    exact hne (getFullComment_inj_comment hne' hempty (congrArg Model.GdtEntry.mComment heq))
  | source =>
    exact hne (getFullComment_inj_source hne' hempty (congrArg Model.GdtEntry.mComment heq))
  | project =>
    exact hne (getFullComment_inj_project hne' hempty (congrArg Model.GdtEntry.mComment heq))
  | coupon_code => exact hne (congrArg Model.GdtEntry.mCouponCode heq)

end GdtCache.Mysql.GdtEntry
