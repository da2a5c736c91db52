import GdtCache.CacheServer.AllowedIps
import GdtCache.CacheServer.Basic
import GdtCache.Lib.Machine
import Mathlib.Logic.Function.Basic

/-!
# Calls that return a status

`updateAllowedIps` and `reloadCacheAfterTimeout` are called from the worker thread and from any
number of request handlers.  Here a call is taken apart: it reads the clock and tests its timeout,
tries for `mGdtEntriesUpdateMutex`, works as long as it owns the mutex, and returns.  The work may
end with an exception at any point.  The steps of all threads come in any order, and so do the
refreshes the worker's tasks ask for.

The mutex never fails a try while it is free.
-/

namespace GdtCache.CacheServer

open GdtCache.Lib GdtCache.Model GdtCache.Mysql

/-! ### Calls -/

/-- The two functions. -/
inductive UpdateFunction
  | updateAllowedIps
  | reloadCacheAfterTimeout
  deriving DecidableEq

/-- What a call meets while it owns the mutex. -/
inductive Work
  | updateAllowedIps (call : UpdateIpsCall)
  | reloadCacheAfterTimeout (connection : Database) (clock : Mysql.GdtEntry.Clock)

/-- A call of one of the functions. -/
structure StatusCall where
  work : Work
  /-- The clock when the function begins. -/
  now : ℤ
  ignoreTimeout : Bool

def Work.function : Work → UpdateFunction
  | updateAllowedIps _ => .updateAllowedIps
  | reloadCacheAfterTimeout _ _ => .reloadCacheAfterTimeout

/-- The function that is called. -/
def StatusCall.function (call : StatusCall) : UpdateFunction :=
  call.work.function

/-- A step of the work. -/
inductive WorkStep
  /-- A critical section on the table of allowed addresses. -/
  | write (w : Write)
  /-- The contacts are read and assigned. -/
  | contacts (connection : Database)
  /-- The entries are read and their lists assigned. -/
  | entries (connection : Database) (clock : Mysql.GdtEntry.Clock)

/-- The work, if nothing is thrown. -/
def Work.steps (config : Config) : Work → List WorkStep
  | updateAllowedIps call => (call.writes config.allowedHosts.length).map .write
  | reloadCacheAfterTimeout connection clock => [.contacts connection, .entries connection clock]

/-! ### Threads -/

/-- How far a thread has got with a call. -/
inductive Phase
  | idle
  /-- The timeout has been tested, and the mutex comes next. -/
  | locking (call : StatusCall)
  /-- The thread owns the mutex; some steps are done and the rest is still to do. -/
  | working (call : StatusCall) (done rest : List WorkStep)

/-- What the threads share, and how far each of them has got. -/
structure Updates (ι : Type) where
  server : CacheServer
  table : AllowedIps
  mLastUpdateAllowedIps : ℤ
  mGdtEntriesUpdateMutex : Option ι
  phase : ι → Phase

/-- Where a call ended. -/
inductive Ending
  | whiteListing
  | timeout
  | tryLock
  /-- Some steps were done; then it was finished, or something was thrown. -/
  | work (done : List WorkStep) (threw : Bool)

/-- A call that returns. -/
structure Return (ι : Type) where
  thread : ι
  call : StatusCall
  status : UpdateStatus
  ending : Ending

/-- A step of a thread. -/
inductive UpdateEvent (ι : Type)
  | call (i : ι) (call : StatusCall)
  | tryLock (i : ι)
  | work (i : ι)
  /-- The end of the work, with what `std::time` tells. -/
  | finish (i : ι) (now : ℤ)
  /-- Something throws: a container, a string, a lock, the database. -/
  | throw (i : ι)
  /-- The worker refreshes an email. -/
  | runTask (call : RefreshCall)

namespace Updates

variable {ι : Type}

/-- Before the first call. -/
def start (server : CacheServer) (table : AllowedIps) : Updates ι where
  server := server
  table := table
  mLastUpdateAllowedIps := 0
  mGdtEntriesUpdateMutex := none
  phase _ := .idle

/-- The test of the timeout. -/
def elapsed (config : Config) (call : StatusCall) (s : Updates ι) : Bool :=
  match call.function with
  | .updateAllowedIps =>
    decide (60 * 60 < call.now - s.mLastUpdateAllowedIps) || call.ignoreTimeout
  | .reloadCacheAfterTimeout =>
    decide (config.maxCacheTimeout < call.now - s.server.mLastUpdateGdtEntries)
      || call.ignoreTimeout

/-- A step of the work; `none` if the database throws. -/
def execute (config : Config) (timeZone : TimeZone) (s : Updates ι) :
    WorkStep → Option (Updates ι)
  | .write w => some { s with table := w.apply config.allowedHosts.length s.table }
  | .contacts connection =>
    match Customer.getAll connection with
    | .error _ => none
    | .ok ids => some { s with server := { s.server with mEmailCustomerIds := ids } }
  | .entries connection clock =>
    match Mysql.GdtEntry.getAll timeZone clock connection with
    | .error _ => none
    | .ok lists => some { s with server := { s.server with mGdtEntriesByEmails := lists } }

variable [DecidableEq ι]

def setPhase (s : Updates ι) (i : ι) (phase : Phase) : Updates ι :=
  { s with phase := Function.update s.phase i phase }

/-- The thread gives the mutex back and returns. -/
def release (s : Updates ι) (i : ι) : Updates ι :=
  { s with mGdtEntriesUpdateMutex := none }.setPhase i .idle

/-- An exception leaves the work and is caught. -/
def unwind (s : Updates ι) (i : ι) (call : StatusCall) (done : List WorkStep) :
    Updates ι × Option (Return ι) :=
  let s := s.release i
  let s :=
    match call.function with
    | .updateAllowedIps => s
    | .reloadCacheAfterTimeout =>
      { s with server := { s.server with mLastUpdateGdtEntries := call.now } }
  (s, some ⟨i, call, .SKIPPED, .work done true⟩)

/-- One step: the state it leads to, and the call that returns with it.  A thread that is not where
the step begins does nothing. -/
def react (config : Config) (timeZone : TimeZone) (s : Updates ι) :
    UpdateEvent ι → Updates ι × Option (Return ι)
  | .call i call =>
    match s.phase i with
    | .idle =>
      if call.function = .updateAllowedIps ∧ config.ipWhiteListing = false then
        (s, some ⟨i, call, .OK, .whiteListing⟩)
      else if s.elapsed config call then (s.setPhase i (.locking call), none)
      else (s, some ⟨i, call, .SKIPPED, .timeout⟩)
    | _ => (s, none)
  | .tryLock i =>
    match s.phase i with
    | .locking call =>
      match s.mGdtEntriesUpdateMutex with
      | none =>
        ({ s with mGdtEntriesUpdateMutex := some i }.setPhase i
          (.working call [] (call.work.steps config)), none)
      | some _ => (s.setPhase i .idle, some ⟨i, call, .RUNNING, .tryLock⟩)
    | _ => (s, none)
  | .work i =>
    match s.phase i with
    | .working call done (step :: rest) =>
      match s.execute config timeZone step with
      | some s => (s.setPhase i (.working call (done ++ [step]) rest), none)
      | none => s.unwind i call done
    | _ => (s, none)
  | .finish i now =>
    match s.phase i with
    | .working call done [] =>
      let s := s.release i
      let s :=
        match call.function with
        | .updateAllowedIps => { s with mLastUpdateAllowedIps := now }
        | .reloadCacheAfterTimeout => s
      (s, some ⟨i, call, .OK, .work done false⟩)
    | _ => (s, none)
  | .throw i =>
    match s.phase i with
    | .working call done _ => s.unwind i call done
    | _ => (s, none)
  | .runTask call => ({ s with server := (s.server.reloadGdtEntry config timeZone call).2 }, none)

end Updates

/-- The threads' steps in any order. -/
def updates (ι : Type) [DecidableEq ι] (config : Config) (timeZone : TimeZone) :
    Machine (Updates ι) (UpdateEvent ι) (Option (Return ι)) where
  next s e := (s.react config timeZone e).1
  out s e := (s.react config timeZone e).2

end GdtCache.CacheServer
