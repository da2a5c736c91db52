import GdtCache.CacheServer.Basic
import GdtCache.Lib.Machine
import Mathlib.Logic.Function.Basic

/-!
# The cache and the states of the database

The database goes through numbered states, and every query gives the contents of the state it is run
in, unless it fails.  `main` loads the cache and then starts the worker, which calls `run` and
`runTask`, one call after another.  A query and the assignment of its result are steps of their own,
and the database may change between any two steps.

Each stored customer id and each stored list comes with the number of the state it was read from.
-/

namespace GdtCache.CacheServer

open GdtCache.Lib GdtCache.Model GdtCache.Mysql

/-- Who called `loadFromDb`. -/
inductive LoadCaller
  | initializeFromDb
  /-- `reloadCacheAfterTimeout`, with its `now`. -/
  | reloadCacheAfterTimeout (now : ℤ)

/-- What the thread does next.  A result that is not assigned yet comes with the number of the state
it was read from. -/
inductive WorkPosition
  /-- `main` has not called `initializeFromDb` yet. -/
  | start
  /-- The worker is between two calls. -/
  | idle
  /-- `mysql::Customer::getAll(connection)` -/
  | queryContacts (caller : LoadCaller)
  /-- `mEmailCustomerIds = ` -/
  | assignContacts (caller : LoadCaller) (ids : UnorderedMap String ℤ) (state : ℕ)
  /-- `mysql::GdtEntry::getAll(connection)` -/
  | queryLists (caller : LoadCaller)
  /-- `mGdtEntriesByEmails = std::move(gdtEntriesByEmail)` -/
  | assignLists (caller : LoadCaller) (lists : EmailGdtEntriesListMap) (state : ℕ)
  /-- `mysql::Customer::getByEmail(email, connection)` -/
  | queryCustomer (email : String)
  /-- The customer of the email is inserted or assigned. -/
  | assignCustomer (email : String) (customerId : ℤ) (state : ℕ)
  /-- `mysql::GdtEntry::getByCustomer(customerId, connection)` -/
  | queryList (customerId : ℤ)
  /-- The list of the customer is inserted or assigned. -/
  | assignList (customerId : ℤ) (list : GdtEntryListPtr) (state : ℕ)
  /-- The program has ended. -/
  | ended

/-- The cache, the thread that fills it, and the database. -/
structure Numbered where
  server : CacheServer
  position : WorkPosition
  /-- The number of the state the database is in. -/
  dbState : ℕ
  /-- The state the customer id of an email was read from. -/
  idState : String → ℕ
  /-- The state the list of a customer was read from. -/
  listState : ℤ → ℕ

/-- A step. -/
inductive NumberedEvent
  | databaseChanges
  | initializeFromDb
  /-- `UpdateCacheWorker::run`; the mutex of the update is free or not. -/
  | run (now : ℤ) (lockFree : Bool)
  /-- `UpdateCacheWorker::runTask` -/
  | runTask (email : String) (now : ℤ)
  /-- The thread does what comes next.  A query may fail. -/
  | step (failure : Option Exception) (clock : Mysql.GdtEntry.Clock) (now : ℤ)

/-- Before the first call. -/
def Numbered.new : Numbered :=
  ⟨CacheServer.new, .start, 0, fun _ => 0, fun _ => 0⟩

/-- A connection that fails. -/
def lost (ex : Exception) : Database where
  contacts := { rows := [], failure := some ex }
  contactsByEmail _ := { rows := [], failure := some ex }
  gdtEntries := { rows := [], failure := some ex }
  gdtEntriesStatement _ := { sent := { rows := [], failure := some ex } }

namespace Numbered

/-- `loadFromDb` has thrown. -/
def loadThrows (w : Numbered) : LoadCaller → Numbered
  | .initializeFromDb => { w with position := .ended }
  | .reloadCacheAfterTimeout now =>
    { w with server := { w.server with mLastUpdateGdtEntries := now }, position := .idle }

/-- `loadFromDb` has returned; behind `initializeFromDb` the worker is started. -/
def loadReturns (w : Numbered) (now : ℤ) : LoadCaller → Numbered
  | .initializeFromDb =>
    { w with server := { w.server with mLastUpdateGdtEntries := now }, position := .idle }
  | .reloadCacheAfterTimeout _ => { w with position := .idle }

/-- What the thread does next. -/
def step (timeZone : TimeZone) (connection : Database) (clock : Mysql.GdtEntry.Clock) (now : ℤ)
    (w : Numbered) : Numbered :=
  match w.position with
  | .queryContacts caller =>
    match Customer.getAll connection with
    | .error _ => w.loadThrows caller
    | .ok ids => { w with position := .assignContacts caller ids w.dbState }
  | .assignContacts caller ids state =>
    { w with
      server := { w.server with mEmailCustomerIds := ids }
      idState := fun _ => state
      position := .queryLists caller }
  | .queryLists caller =>
    match GdtEntry.getAll timeZone clock connection with
    | .error _ => w.loadThrows caller
    | .ok lists => { w with position := .assignLists caller lists w.dbState }
  | .assignLists caller lists state =>
    { w with
      server := { w.server with mGdtEntriesByEmails := lists }
      listState := fun _ => state }.loadReturns now caller
  | .queryCustomer email =>
    match Customer.getByEmail email connection with
    | .error _ => { w with position := .idle }
    | .ok customerId =>
      if customerId = 0 then { w with position := .idle }
      else { w with position := .assignCustomer email customerId w.dbState }
  | .assignCustomer email customerId state =>
    { w with
      server := { w.server with
        mEmailCustomerIds := w.server.mEmailCustomerIds.upsert email customerId }
      idState := Function.update w.idState email state
      position := .queryList customerId }
  | .queryList customerId =>
    match GdtEntry.getByCustomer timeZone clock customerId connection with
    | .error _ => { w with position := .idle }
    | .ok list => { w with position := .assignList customerId list w.dbState }
  | .assignList customerId list state =>
    { w with
      server := { w.server with
        mGdtEntriesByEmails := w.server.mGdtEntriesByEmails.upsert customerId list }
      listState := Function.update w.listState customerId state
      position := .idle }
  | _ => w

/-- The state a step leads to.  A call does not begin before the last one is over. -/
def next (config : Config) (timeZone : TimeZone) (states : ℕ → Database) (w : Numbered) :
    NumberedEvent → Numbered
  | .databaseChanges => { w with dbState := w.dbState + 1 }
  | .initializeFromDb =>
    match w.position with
    | .start => { w with position := .queryContacts .initializeFromDb }
    | _ => w
  | .run now lockFree =>
    match w.position with
    | .idle =>
      if w.server.timeoutElapsed config
          ⟨states w.dbState, now, ⟨now, fun _ => now⟩, lockFree, false⟩ && lockFree then
        { w with position := .queryContacts (.reloadCacheAfterTimeout now) }
      else w
    | _ => w
  | .runTask email now =>
    match w.position with
    | .idle =>
      if email.isEmpty || w.server.isFresh config
          ⟨states w.dbState, email, now, ⟨now, fun _ => now⟩⟩ then w
      else { w with position := .queryCustomer email }
    | _ => w
  | .step failure clock now => w.step timeZone (failure.elim (states w.dbState) lost) clock now

end Numbered

/-- The steps in any order. -/
def numbered (config : Config) (timeZone : TimeZone) (states : ℕ → Database) :
    Machine Numbered NumberedEvent Unit where
  next := Numbered.next config timeZone states
  out _ _ := ()

end GdtCache.CacheServer
