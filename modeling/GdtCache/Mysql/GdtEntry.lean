import GdtCache.Model.GdtEntryList
import GdtCache.Mysql.Connection

/-!
# Gdt entries from the database

`mysql::GdtEntry`: the list of one customer, and the lists of all customers from one query.
Both read the clock once for every list they make and once for every row.
-/

namespace GdtCache.Mysql.GdtEntry

open GdtCache.Lib GdtCache.Model

/-- The clock while a result is read. -/
structure Clock where
  /-- When `getByCustomer` makes its list. -/
  created : ℤ
  /-- When a row arrives. -/
  arrival : GdtEntryRow → ℤ

/-- The constructor call on the columns of a row. -/
def entry (timeZone : TimeZone) (row : GdtEntryRow) : Model.GdtEntry :=
  .new timeZone row.id row.amount row.date row.email row.comment row.source row.project
    row.coupon_code row.customer_id row.gdt_entry_type_id row.factor row.amount2 row.factor2 row.gdt

/-- `getByCustomer`, with the rows as the prepared statement hands them on. -/
def getByCustomer (timeZone : TimeZone) (clock : Clock) (customerId : ℤ) (connection : Database) :
    Except Exception GdtEntryListPtr := do
  let gdtEntries ← (connection.gdtEntriesByCustomer customerId).map
    (fun (gdtEntries : GdtEntryList) row =>
      .ok (gdtEntries.addGdtEntry (clock.arrival row) (entry timeZone row)))
    (GdtEntryList.new clock.created)
  return some gdtEntries

/-- The row callback of `getAll`.  Reporting an empty date looks up the name of the entry's type,
which throws for a type without one. -/
def addRow (timeZone : TimeZone) (clock : Clock) (gdtEntries : EmailGdtEntriesListMap)
    (row : GdtEntryRow) : Except Exception EmailGdtEntriesListMap := do
  let gdtEntry := entry timeZone row
  if row.date = 0 then
    let _ ← Model.GdtEntry.getGdtEntryTypeString (.ofInt row.gdt_entry_type_id)
  -- `find`, and `insert` if the customer is new
  let gdtEntries := gdtEntries.insertNew gdtEntry.getCustomerId
    (some (GdtEntryList.new (clock.arrival row)))
  -- `it->second->addGdtEntry(entry)`; all pointers of this map are made here
  let it := (gdtEntries.lookup gdtEntry.getCustomerId).join
  return gdtEntries.assign gdtEntry.getCustomerId
    (it.map fun l => l.addGdtEntry (clock.arrival row) gdtEntry)

/-- `getAll` -/
def getAll (timeZone : TimeZone) (clock : Clock) (connection : Database) :
    Except Exception EmailGdtEntriesListMap :=
  connection.gdtEntries.map (addRow timeZone clock) ∅

end GdtCache.Mysql.GdtEntry
