import GdtCache.Lib.SqlText
import GdtCache.Lithium.Statement
import GdtCache.Utils.Exception
import Mathlib.Data.Rat.Defs

/-!
# The database

What the program sees of a `mysql_connection`: each of its four queries gives rows one after
another and then ends, either properly or by an exception (`ResultSet`).  Preparing a statement,
executing it, fetching a row and converting its columns can all throw; whichever does, the rows
before it have been handed to the callback already.

Lithium has its own weak points between the server and the callback.  A query in text form takes a
lost connection for the end of its rows (`TextResult`), and a prepared statement hands on texts that
are not always the ones that were sent (`StatementResult`).

`Database` is one answer to each query, with nothing assumed about how the answers fit together.
`Tables.answer` is the database whose answers are the complete contents of two tables.
-/

namespace GdtCache.Mysql

open GdtCache.Lib

variable {α β : Type}

/-- The result of a query. -/
structure ResultSet (α : Type) where
  /-- The rows that arrive. -/
  rows : List α
  /-- What is thrown after them, if anything. -/
  failure : Option Exception := none

namespace ResultSet

/-- `rows.map(callback)`, for a callback that works on a captured variable. -/
def map (rows : ResultSet α) (callback : β → α → Except Exception β) (captured : β) :
    Except Exception β := do
  let captured ← rows.rows.foldlM callback captured
  match rows.failure with
  | none => return captured
  | some ex => throw ex

/-- `read_optional`: the first row, if there is one. -/
def readOptional (rows : ResultSet α) : Except Exception (Option α) :=
  match rows.rows, rows.failure with
  | row :: _, _ => return some row
  | [], none => return none
  | [], some ex => throw ex

/-- `map` returns when every callback did and the rows ended properly. -/
theorem map_eq_ok_iff {rows : ResultSet α} {callback : β → α → Except Exception β}
    {captured result : β} :
    rows.map callback captured = .ok result ↔
      rows.rows.foldlM callback captured = .ok result ∧ rows.failure = none := by
  unfold map
  cases hfold : rows.rows.foldlM callback captured with
  | error ex => simp [bind, Except.bind]
  | ok b => cases hfailure : rows.failure <;> simp [bind, Except.bind, pure, throw, throwThe,
      MonadExceptOf.throw, Except.pure]

/-- A callback that cannot throw leaves only the query itself to fail. -/
theorem map_pure_eq_ok_iff {rows : ResultSet α} {step : β → α → β} {captured result : β} :
    rows.map (fun b a => .ok (step b a)) captured = .ok result ↔
      rows.rows.foldl step captured = result ∧ rows.failure = none := by
  have hfold : rows.rows.foldlM (fun b a => (Except.ok (step b a) : Except Exception β)) captured
      = .ok (rows.rows.foldl step captured) := List.foldlM_pure
  rw [map_eq_ok_iff, hfold, Except.ok.injEq]

end ResultSet

/-- `mysql_result`.  Nothing checks why `mysql_fetch_row` has no more rows, so the connection may be
lost before the last one. -/
structure TextResult (α : Type) extends ResultSet α where
  /-- The rows that were lost with the connection. -/
  lost : List α := []

/-! ### The queries -/

/-- A row of the `gdt_entries` queries: the columns of `GDT_ENTRY_SELECT_STRING`. -/
structure GdtEntryRow where
  id : ℤ
  amount : ℤ
  /-- `IFNULL(UNIX_TIMESTAMP(date), 0)` -/
  date : ℤ
  email : String
  comment : String
  source : String
  project : String
  coupon_code : String
  customer_id : ℤ
  gdt_entry_type_id : ℤ
  factor : ℚ
  amount2 : ℤ
  factor2 : ℚ
  /-- `amount * factor * factor2 + amount2` -/
  gdt : ℚ
  deriving DecidableEq

/-- The columns that are bound to a `std::string`. -/
inductive TextColumn
  | email
  | comment
  | source
  | project
  | coupon_code
  deriving DecidableEq

namespace GdtEntryRow

def text (row : GdtEntryRow) : TextColumn → String
  | .email => row.email
  | .comment => row.comment
  | .source => row.source
  | .project => row.project
  | .coupon_code => row.coupon_code

/-- The row with other texts. -/
def withTexts (row : GdtEntryRow) (text : TextColumn → String) : GdtEntryRow :=
  { row with
    email := text .email
    comment := text .comment
    source := text .source
    project := text .project
    coupon_code := text .coupon_code }

/-- `row_object` before the first row. -/
def empty : GdtEntryRow :=
  ⟨0, 0, 0, "", "", "", "", "", 0, 0, 0, 0, 0, 0⟩

end GdtEntryRow

/-- What lies behind the buffers of the columns when a row arrives. -/
abbrev Memory := ℕ → TextColumn → ℕ → UInt8

/-- The rows a prepared statement hands to its callback. -/
def fetchRows : Memory → GdtEntryRow → List GdtEntryRow → List GdtEntryRow
  | _, _, [] => []
  | behind, rowObject, row :: rows =>
    row.withTexts (fun column =>
        Lithium.fetchText (rowObject.text column) (row.text column) (behind 0 column))
      -- the texts of the row object have the sizes of this row now, even where they are wrong
      :: fetchRows (fun n => behind (n + 1)) row rows

/-- `mysql_statement_result` -/
structure StatementResult where
  /-- What the server sends. -/
  sent : ResultSet GdtEntryRow
  behind : Memory := fun _ _ _ => 0

/-- What `map` hands to the callback. -/
def StatementResult.received (result : StatementResult) : ResultSet GdtEntryRow where
  rows := fetchRows result.behind .empty result.sent.rows
  failure := result.sent.failure

/-- One answer to each query. -/
structure Database where
  /-- `SELECT_CONTACTS` -/
  contacts : TextResult (String × ℤ)
  /-- `SELECT_CONTACT_BY_EMAIL` -/
  contactsByEmail : String → ResultSet ℤ
  /-- `GDT_ENTRY_SELECT_STRING`, ordered by date. -/
  gdtEntries : TextResult GdtEntryRow
  /-- `GDT_ENTRY_SELECT_STRING` for one customer, ordered by date, as a prepared statement. -/
  gdtEntriesStatement : ℤ → StatementResult

/-- `GDT_ENTRY_SELECT_STRING` for one customer, as the callback gets it. -/
def Database.gdtEntriesByCustomer (connection : Database) (customerId : ℤ) :
    ResultSet GdtEntryRow :=
  (connection.gdtEntriesStatement customerId).received

/-! ### Two tables -/

/-- A row of the table `contacts`. -/
structure ContactRow where
  email : String
  customer_id : ℤ
  deriving DecidableEq

/-- The contents of the two tables, each in the order in which a query visits it. -/
structure Tables where
  contacts : List ContactRow
  gdt_entries : List GdtEntryRow

/-- `LOWER(TRIM(email))` -/
def normalised (collation : Sql.Collation) (email : String) : String :=
  Sql.lower collation (Sql.trim email)

/-- The answers of a server that answers every query in full, and keeps its connections. -/
def Tables.answer (collation : Sql.Collation) (tables : Tables) : Database where
  contacts :=
    { rows := tables.contacts.map fun row => (normalised collation row.email, row.customer_id) }
  contactsByEmail email :=
    { rows := (tables.contacts.filter fun row =>
        Sql.like collation row.email (normalised collation email)).map ContactRow.customer_id }
  gdtEntries := { rows := tables.gdt_entries }
  gdtEntriesStatement customerId :=
    { sent := { rows := tables.gdt_entries.filter fun row => row.customer_id = customerId } }

/-- The same answers, while something else lies behind the buffers. -/
def Database.withMemory (connection : Database) (behind : Memory) : Database :=
  { connection with
    gdtEntriesStatement := fun customerId =>
      { connection.gdtEntriesStatement customerId with behind := behind } }

end GdtCache.Mysql
