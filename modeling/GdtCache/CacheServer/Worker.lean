import GdtCache.CacheServer.Basic
import GdtCache.Lib.Machine

/-!
# The cache and its worker

Which emails are refreshed is up to the queue: a request pushes a task, the worker takes the oldest
one, and later runs it.  Requests and loads may come in between, and requests also between the two
assignments of a load.  A step shows which of the functions that ask the database about contacts
and customers it called.
-/

namespace GdtCache

open GdtCache.Lib GdtCache.Model GdtCache.Mysql

namespace CacheServer

/-- A call of a function of the database. -/
inductive DbCall
  /-- `Customer::getAll` returned the map. -/
  | getAll (ids : UnorderedMap String ℤ)
  | getByEmail (email : String)
  | getByCustomer (customerId : ℤ)

/-- The first half of `loadFromDb`. -/
def loadContacts (connection : Database) (s : CacheServer) : CacheServer :=
  match Customer.getAll connection with
  | .error _ => s
  | .ok ids => { s with mEmailCustomerIds := ids }

/-- The second half of `loadFromDb`. -/
def loadEntries (timeZone : TimeZone) (connection : Database) (clock : Mysql.GdtEntry.Clock)
    (s : CacheServer) : CacheServer :=
  match GdtEntry.getAll timeZone clock connection with
  | .error _ => s
  | .ok lists => { s with mGdtEntriesByEmails := lists }

/-- The calls of `loadFromDb`. -/
def loadCalls (connection : Database) : List DbCall :=
  match Customer.getAll connection with
  | .error _ => []
  | .ok ids => [.getAll ids]

/-- The calls of `reloadGdtEntry`. -/
def refreshCalls (config : Config) (call : RefreshCall) (s : CacheServer) : List DbCall :=
  if s.isFresh config call then []
  else
    match Customer.getByEmail call.email call.connection with
    | .error _ => [.getByEmail call.email]
    | .ok customerId =>
      if customerId = 0 then [.getByEmail call.email]
      else [.getByEmail call.email, .getByCustomer customerId]

end CacheServer

/-- What a task meets when it is run. -/
structure TaskCall where
  connection : Database
  /-- The clock when the cached list is checked. -/
  now : ℤ
  /-- The clock while the result is read. -/
  clock : Mysql.GdtEntry.Clock

/-- The refresh a task asks for. -/
def UpdateGdtEntryList.refresh (task : UpdateGdtEntryList) (call : TaskCall) :
    CacheServer.RefreshCall :=
  ⟨call.connection, task.mEmail, call.now, call.clock⟩

/-- `UpdateGdtEntryList::run` -/
def UpdateGdtEntryList.run (config : Config) (timeZone : TimeZone) (task : UpdateGdtEntryList)
    (call : TaskCall) (s : CacheServer) : CacheServer :=
  if task.mEmail.isEmpty then s else (s.reloadGdtEntry config timeZone (task.refresh call)).2

/-- The calls of `UpdateGdtEntryList::run`. -/
def UpdateGdtEntryList.calls (config : Config) (task : UpdateGdtEntryList) (call : TaskCall)
    (s : CacheServer) : List CacheServer.DbCall :=
  if task.mEmail.isEmpty then [] else s.refreshCalls config (task.refresh call)

namespace CacheServer

/-- The cache, and the task the worker has taken and not run yet. -/
structure Working where
  server : CacheServer
  task : Option UpdateGdtEntryList

/-- A step. -/
inductive WorkingEvent
  | serve (c : Circumstances) (request : ApiRequest)
  | initializeFromDb (connection : Database) (clock : Mysql.GdtEntry.Clock) (now : ℤ)
  | reloadCacheAfterTimeout (call : ReloadCall)
  /-- The first half of a load that other steps come into. -/
  | loadContacts (connection : Database)
  /-- The second half of such a load. -/
  | loadEntries (connection : Database) (clock : Mysql.GdtEntry.Clock)
  /-- The worker takes the oldest task. -/
  | takeTask
  /-- The worker runs the task it has taken. -/
  | runTask (call : TaskCall)

/-- Before the first call. -/
def Working.new : Working :=
  ⟨CacheServer.new, none⟩

/-- `mTasks.front()` and `mTasks.pop()`, if the worker has run the task before. -/
def Working.takeTask (w : Working) : Working :=
  match w.task, w.server.mUpdateCacheWorker.mTasks with
  | none, task :: tasks => ⟨{ w.server with mUpdateCacheWorker := ⟨tasks⟩ }, some task⟩
  | _, _ => w

/-- The steps in any order. -/
def working (config : Config) (timeZone : TimeZone) :
    Machine Working WorkingEvent (List DbCall) where
  next w
    | .serve c request => { w with server := (w.server.serve config c request).2 }
    | .initializeFromDb connection clock now =>
      { w with server := (w.server.initializeFromDb timeZone connection clock now).2 }
    | .reloadCacheAfterTimeout call =>
      { w with server := (w.server.reloadCacheAfterTimeout config timeZone call).server }
    | .loadContacts connection => { w with server := w.server.loadContacts connection }
    | .loadEntries connection clock =>
      { w with server := w.server.loadEntries timeZone connection clock }
    | .takeTask => w.takeTask
    | .runTask call =>
      match w.task with
      | none => w
      | some task => ⟨task.run config timeZone call w.server, none⟩
  out w
    | .initializeFromDb connection _ _ => loadCalls connection
    | .reloadCacheAfterTimeout call =>
      if (w.server.reloadCacheAfterTimeout config timeZone call).loadStart.isSome then
        loadCalls call.connection
      else []
    | .loadContacts connection => loadCalls connection
    | .runTask call =>
      match w.task with
      | none => []
      | some task => task.calls config call w.server
    | _ => []

end CacheServer

end GdtCache
