import GdtCache.BackgroundTasks.WorkerThread
import GdtCache.Model.Config

/-!
# What the worker uses

`UpdateCacheWorker::run` and `runTask`, and the functions they call, as far as these read `g_Config`
or copy `mDBConnection`.  What the functions do to the cache is modelled with the cache; here the
tests on the way to the next use come out as they may.
-/

namespace GdtCache.BackgroundTasks

open GdtCache.Model

/-- What a statement uses. -/
inductive Use
  /-- `run` is called. -/
  | run
  /-- `runTask` is called. -/
  | runTask
  /-- `g_Config` is read. -/
  | config
  /-- `mDBConnection` is copied. -/
  | connection
  deriving DecidableEq

/-- Where the worker is in `run` or `runTask`. -/
inductive Body
  /-- In neither, or past the last use. -/
  | idle
  /-- `cs->updateAllowedIps()`, which tests `g_Config->ipWhiteListing` -/
  | updateAllowedIps
  /-- `g_Config->allowedHosts.size()` -/
  | hostsCount
  /-- `g_Config->allowedHosts[i]`, with some hosts behind it -/
  | allowedHost (rest : ℕ)
  /-- `cs->reloadCacheAfterTimeout(mDBConnection)`, which reads `g_Config->maxCacheTimeout` -/
  | reloadCacheAfterTimeout
  /-- `task->run(mDBConnection)` -/
  | taskRun (email : String)
  /-- `reloadGdtEntry(connection, mEmail)` -/
  | reloadGdtEntry
  /-- `canUpdate()`, which reads `g_Config->minCacheTimeout` -/
  | canUpdate
  deriving DecidableEq

namespace Body

/-- What comes next is used. -/
def uses : Body → List Use
  | updateAllowedIps => [.config]
  | hostsCount => [.config]
  | allowedHost _ => [.config]
  | reloadCacheAfterTimeout => [.connection, .config]
  | taskRun _ => [.connection]
  | canUpdate => [.config]
  | idle => []
  | reloadGdtEntry => []

/-- The loop over the hosts. -/
def hosts : ℕ → Body
  | 0 => reloadCacheAfterTimeout
  | rest + 1 => allowedHost rest

/-- The next statement.  It may not go on as far as it can: the last update is not old enough, the
mutex is not free, something throws, or no list is there for an email. -/
def next (config : Config) (goesOn : Bool) : Body → Body
  | updateAllowedIps =>
    if config.ipWhiteListing && goesOn then hostsCount else reloadCacheAfterTimeout
  | hostsCount => if goesOn then hosts config.allowedHosts.length else reloadCacheAfterTimeout
  | allowedHost rest => if goesOn then hosts rest else reloadCacheAfterTimeout
  | reloadCacheAfterTimeout => idle
  | taskRun email => if email.isEmpty then idle else reloadGdtEntry
  | reloadGdtEntry => if goesOn then canUpdate else idle
  | canUpdate => idle
  | idle => idle

/-- The thread moves, and may enter a body. -/
def enter (body : Body) (before after : ThreadPosition String) : Body :=
  match before, after with
  | .exitTest, .run => updateAllowedIps
  | .unlockTask _, .runTask email => taskRun email
  | _, _ => body

end Body

end GdtCache.BackgroundTasks
