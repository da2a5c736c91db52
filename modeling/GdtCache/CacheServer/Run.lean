import GdtCache.CacheServer.Basic
import GdtCache.Lib.Machine

/-!
# Runs of the cache

The cache as a machine: an input is one call of a public function together with everything the
call meets, the database included, so that the database may answer every call differently.  A
call is one step here; `Publication` takes a load apart.
-/

namespace GdtCache.CacheServer

open GdtCache.Lib GdtCache.Model GdtCache.Mysql

/-- A call. -/
inductive Action
  | serve (c : Circumstances) (request : ApiRequest)
  | loadFromDb (connection : Database) (clock : Mysql.GdtEntry.Clock)
  | initializeFromDb (connection : Database) (clock : Mysql.GdtEntry.Clock) (now : ℤ)
  | reloadCacheAfterTimeout (call : ReloadCall)
  | reloadGdtEntry (call : RefreshCall)

/-- What a call returns.  A reload also tells when it began to execute `loadFromDb`. -/
inductive Output
  | response (response : Except HttpError String)
  | loaded (result : Except Exception Unit)
  | reloaded (status : UpdateStatus) (loadStart : Option ℤ)
  | refreshed (status : UpdateStatus)

/-- When a reload began to execute `loadFromDb`, if the output is one that did. -/
def Output.loadStart : Output → Option ℤ
  | .reloaded _ loadStart => loadStart
  | _ => none

/-- The cache under a sequence of calls. -/
def machine (config : Config) (timeZone : TimeZone) : Machine CacheServer Action Output where
  next s
    | .serve c request => (s.serve config c request).2
    | .loadFromDb connection clock => (s.loadFromDb timeZone connection clock).2
    | .initializeFromDb connection clock now => (s.initializeFromDb timeZone connection clock now).2
    | .reloadCacheAfterTimeout call => (s.reloadCacheAfterTimeout config timeZone call).server
    | .reloadGdtEntry call => (s.reloadGdtEntry config timeZone call).2
  out s
    | .serve c request => .response (s.serve config c request).1
    | .loadFromDb connection clock => .loaded (s.loadFromDb timeZone connection clock).1
    | .initializeFromDb connection clock now =>
      .loaded (s.initializeFromDb timeZone connection clock now).1
    | .reloadCacheAfterTimeout call =>
      .reloaded (s.reloadCacheAfterTimeout config timeZone call).status
        (s.reloadCacheAfterTimeout config timeZone call).loadStart
    | .reloadGdtEntry call => .refreshed (s.reloadGdtEntry config timeZone call).1

/-- The states the cache gets into from start-up on. -/
def Reachable (config : Config) (timeZone : TimeZone) (s : CacheServer) : Prop :=
  ∃ actions, (machine config timeZone).run new actions = s

end GdtCache.CacheServer
