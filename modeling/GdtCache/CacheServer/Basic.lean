import GdtCache.BackgroundTasks.UpdateGdtEntryList
import GdtCache.Mysql.Customer
import GdtCache.Mysql.GdtEntry
import GdtCache.View.GdtEntryList

/-!
# The cache

`CacheServer` with the functions that read or write its two maps: the handlers of API requests, the
refresh of one email, the full reload and its throttle.

Every function takes what it meets besides the cache as parameters: the readings of the clock, the
answers of the database, and whether a lock it tries for is free.  What is only logged is left out.
A handler's response and the changed cache come as a pair, as do the status of an update and the
changed cache.

`serve` takes it for granted that the task it pushes could be made; `served` makes it first.
-/

namespace GdtCache

open GdtCache.Lib GdtCache.Model GdtCache.Mysql GdtCache.View

/-- `task::UpdateGdtEntryList` -/
structure UpdateGdtEntryList where
  mEmail : String
  deriving DecidableEq

/-- `UpdateCacheWorker`: the tasks wait in a queue, the oldest first. -/
structure UpdateCacheWorker where
  mTasks : List UpdateGdtEntryList

/-- `CacheServer` -/
structure CacheServer where
  /-- Lists of entries by customer id. -/
  mGdtEntriesByEmails : EmailGdtEntriesListMap
  mEmailCustomerIds : UnorderedMap String ℤ
  mLastUpdateGdtEntries : ℤ
  mUpdateCacheWorker : UpdateCacheWorker

namespace CacheServer

/-- `CacheServer::UpdateStatus` -/
inductive UpdateStatus
  | OK
  | ERROR
  | SKIPPED
  | RUNNING
  deriving DecidableEq, Repr

/-- The constructor. -/
def new : CacheServer where
  mGdtEntriesByEmails := ∅
  mEmailCustomerIds := ∅
  mLastUpdateGdtEntries := 0
  mUpdateCacheWorker := ⟨[]⟩

/-- `std::make_shared<task::UpdateGdtEntryList>(email)`; `none` where its constructor is undefined.
The loop of the constructor has ended after as many rounds as the email has bytes, and one more. -/
def makeTask (email : String) : Option UpdateGdtEntryList :=
  (BackgroundTasks.UpdateGdtEntryList.Construction.after (Lithium.textBytes email)
    (email.utf8ByteSize + 1)).map fun _ => ⟨email⟩

/-- `mUpdateCacheWorker.pushTask` for the task that `makeTask` makes of an email. -/
def pushTask (s : CacheServer) (email : String) : CacheServer :=
  { s with mUpdateCacheWorker := ⟨s.mUpdateCacheWorker.mTasks ++ [⟨email⟩]⟩ }

/-! ### Requests -/

/-- What a request meets besides the cache. -/
structure Circumstances where
  /-- The clock. -/
  now : ℤ
  /-- The seconds used, as the response prints them. -/
  timeUsed : String
  /-- A printed `float` or `double` is short. -/
  timeUsed_short : timeUsed.utf8ByteSize ≤ 64
  /-- `mGdtEntriesAccessMutex` was free within 100 ms. -/
  locked : Bool

/-- The lookup both handlers begin with: from the email to the customer, from there to the list. -/
def gdtEntryList (s : CacheServer) (email : String) : GdtEntryListPtr :=
  match s.mEmailCustomerIds.lookup email with
  | none => none
  | some customerId => (s.mGdtEntriesByEmails.lookup customerId).join

/-- The size of lithium's output buffer. -/
def outputBufferSize : ℕ := 50 * 1024

/-- A response of `listPerEmailApi` that may be too big for the output buffer. -/
def checkOverflow (count : Int32) (resultJsonString : String) : String :=
  if outputBufferSize < resultJsonString.utf8ByteSize then
    "\x7b\"state\":\"error\",\"error\":\"output to big, please retry with less count\",\"details\":"
      ++ "\x7b\"count\":" ++ toString count.toInt
      ++ ",\"overflow\":" ++ toString (resultJsonString.utf8ByteSize - outputBufferSize)
      ++ "\x7d\x7d"
  else resultJsonString

/-- `listPerEmailApi` -/
def listPerEmailApi (config : Config) (c : Circumstances) (email : String) (page count : Int32)
    (order : OrderDirections) (s : CacheServer) : Except HttpError String × CacheServer :=
  if c.locked then
    match s.gdtEntryList email with
    | none =>
      (.ok ("\x7b\"state\":\"success\",\"count\":0,\"gdtEntries\":[],\"gdtSum\":0,\"timeUsed\":"
          ++ c.timeUsed ++ "\x7d"),
        if emailValid email then s.pushTask email else s)
    | some gdtEntryList =>
      (.ok (checkOverflow count
          (View.GdtEntryList.toJsonString gdtEntryList c.timeUsed page count order)),
        if gdtEntryList.canUpdate config c.now then s.pushTask email else s)
  else
    -- the 504 thrown here is no `std::exception` and ends in `catch(...)`
    (.error (.internalServerError "unknown 2"), s)

/-- `sumPerEmailApi` -/
def sumPerEmailApi (config : Config) (c : Circumstances) (email : String) (s : CacheServer) :
    Except HttpError String × CacheServer :=
  if c.locked then
    match s.gdtEntryList email with
    | none =>
      (.ok ("\x7b\"state\":\"success\",\"sum\":0,\"time\":" ++ c.timeUsed ++ "\x7d"),
        if emailValid email then s.pushTask email else s)
    | some gdtEntryList =>
      (.ok ("\x7b\"state\":\"success\",\"sum\":"
          ++ stringWithoutTrailingZeros gdtEntryList.getGdtSum
          ++ ",\"time\":" ++ c.timeUsed ++ "\x7d"),
        if gdtEntryList.canUpdate config c.now then s.pushTask email else s)
  else
    -- this handler has a `catch` for it, which throws it again
    (.error ⟨504, "timeout mutex 100ms"⟩, s)

/-- The requests that are answered from the cache, with the email as the routes hand it on. -/
inductive ApiRequest
  | list (email : String) (page count : Int32) (order : OrderDirections)
  | sum (email : String)

/-- The email a request asks for. -/
def ApiRequest.email : ApiRequest → String
  | .list email _ _ _ => email
  | .sum email => email

/-- The handler of a request. -/
def serve (config : Config) (c : Circumstances) (request : ApiRequest) (s : CacheServer) :
    Except HttpError String × CacheServer :=
  match request with
  | .list email page count order => s.listPerEmailApi config c email page count order
  | .sum email => s.sumPerEmailApi config c email

/-- Both handlers make a task for such an email. -/
def refreshDue (config : Config) (now : ℤ) (email : String) (s : CacheServer) : Bool :=
  match s.gdtEntryList email with
  | none => emailValid email
  | some gdtEntryList => gdtEntryList.canUpdate config now

/-- The handler of a request with the task it makes; `none` where the task is undefined. -/
def served (config : Config) (c : Circumstances) (request : ApiRequest) (s : CacheServer) :
    Option (Except HttpError String × CacheServer) :=
  if c.locked && s.refreshDue config c.now request.email then
    (makeTask request.email).map fun _ => s.serve config c request
  else some (s.serve config c request)

/-! ### Full reload -/

/-- `loadFromDb`.  The email map is assigned before the second query begins. -/
def loadFromDb (timeZone : TimeZone) (connection : Database) (clock : Mysql.GdtEntry.Clock)
    (s : CacheServer) : Except Exception Unit × CacheServer :=
  match Customer.getAll connection with
  | .error ex => (.error ex, s)
  | .ok emailCustomerIds =>
    let s := { s with mEmailCustomerIds := emailCustomerIds }
    match GdtEntry.getAll timeZone clock connection with
    | .error ex => (.error ex, s)
    | .ok gdtEntriesByEmail => (.ok (), { s with mGdtEntriesByEmails := gdtEntriesByEmail })

/-- `initializeFromDb`; `main` ends the program if it throws. -/
def initializeFromDb (timeZone : TimeZone) (connection : Database) (clock : Mysql.GdtEntry.Clock)
    (now : ℤ) (s : CacheServer) : Except Exception Unit × CacheServer :=
  match s.loadFromDb timeZone connection clock with
  | (.error ex, s) => (.error ex, s)
  | (.ok (), s) => (.ok (), { s with mLastUpdateGdtEntries := now })

/-- What one call of `reloadCacheAfterTimeout` meets. -/
structure ReloadCall where
  connection : Database
  /-- The clock when the function begins. -/
  now : ℤ
  /-- The clock while the results are read. -/
  clock : Mysql.GdtEntry.Clock
  /-- `mGdtEntriesUpdateMutex` is free. -/
  lockFree : Bool
  ignoreTimeout : Bool

/-- The call goes on to try for the lock. -/
def timeoutElapsed (config : Config) (call : ReloadCall) (s : CacheServer) : Bool :=
  decide (config.maxCacheTimeout < call.now - s.mLastUpdateGdtEntries) || call.ignoreTimeout

/-- What one call of `reloadCacheAfterTimeout` does. -/
structure ReloadOutcome where
  status : UpdateStatus
  /-- When it began to execute `loadFromDb`, if it did. -/
  loadStart : Option ℤ
  server : CacheServer

/-- `reloadCacheAfterTimeout` -/
def reloadCacheAfterTimeout (config : Config) (timeZone : TimeZone) (call : ReloadCall)
    (s : CacheServer) : ReloadOutcome :=
  if s.timeoutElapsed config call then
    if call.lockFree then
      match s.loadFromDb timeZone call.connection call.clock with
      -- this `return` leaves the time stamp as it was
      | (.ok (), s) => ⟨.OK, some call.now, s⟩
      | (.error _, s) => ⟨.SKIPPED, some call.now, { s with mLastUpdateGdtEntries := call.now }⟩
    else ⟨.RUNNING, none, s⟩
  else ⟨.SKIPPED, none, s⟩

/-! ### Refresh of one email -/

/-- What one call of `reloadGdtEntry` meets. -/
structure RefreshCall where
  connection : Database
  email : String
  /-- The clock when the cached list is checked. -/
  now : ℤ
  /-- The clock while the result is read. -/
  clock : Mysql.GdtEntry.Clock

/-- The email has a list that may not be updated yet.  A null pointer would be dereferenced here;
the cache never stores one. -/
def isFresh (config : Config) (call : RefreshCall) (s : CacheServer) : Bool :=
  match s.mEmailCustomerIds.lookup call.email with
  | none => false
  | some customerId =>
    match s.mGdtEntriesByEmails.lookup customerId with
    | some (some gdtEntryList) => !gdtEntryList.canUpdate config call.now
    | _ => false

/-- `reloadGdtEntry`.  The email is mapped to its customer before the entries are queried. -/
def reloadGdtEntry (config : Config) (timeZone : TimeZone) (call : RefreshCall) (s : CacheServer) :
    UpdateStatus × CacheServer :=
  if s.isFresh config call then (.SKIPPED, s)
  else
    match Customer.getByEmail call.email call.connection with
    | .error _ => (.ERROR, s)
    | .ok customerId =>
      -- nobody's email: what is cached for it stays
      if customerId = 0 then (.OK, s)
      else
        let s := { s with mEmailCustomerIds := s.mEmailCustomerIds.upsert call.email customerId }
        match GdtEntry.getByCustomer timeZone call.clock customerId call.connection with
        | .error _ => (.ERROR, s)
        | .ok gdtEntriesList =>
          (.OK, { s with
            mGdtEntriesByEmails := s.mGdtEntriesByEmails.upsert customerId gdtEntriesList })

end CacheServer

end GdtCache
