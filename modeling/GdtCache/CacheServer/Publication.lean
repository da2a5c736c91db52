import GdtCache.CacheServer.Basic
import GdtCache.Lib.Machine

/-!
# A load among requests

`loadFromDb` runs in the worker thread while requests are handled in others.  It assigns the email
map without the mutex the handlers take, runs the second query, and takes the mutex only to move
the lists.  Here the two assignments are steps of their own, and any handler may run before,
between and after them.
-/

namespace GdtCache.CacheServer

open GdtCache.Lib GdtCache.Model GdtCache.Mysql

/-- How far `loadFromDb` has got. -/
inductive LoadPoint
  /-- Before `mEmailCustomerIds` is assigned. -/
  | beforeContacts
  /-- Before the lists are moved into `mGdtEntriesByEmails`. -/
  | beforeEntries
  /-- It has returned or thrown. -/
  | ended
  deriving DecidableEq

/-- The cache while a load is under way. -/
structure Loading where
  server : CacheServer
  point : LoadPoint

/-- An atomic step of a thread: the next one of the load, or a request. -/
inductive Event
  | load
  | serve (c : Circumstances) (request : ApiRequest)

/-- The next step of `loadFromDb`. -/
def Loading.load (timeZone : TimeZone) (connection : Database) (clock : Mysql.GdtEntry.Clock)
    (l : Loading) : Loading :=
  match l.point with
  | .beforeContacts =>
    match Customer.getAll connection with
    | .error _ => { l with point := .ended }
    | .ok ids => ⟨{ l.server with mEmailCustomerIds := ids }, .beforeEntries⟩
  | .beforeEntries =>
    match GdtEntry.getAll timeZone clock connection with
    | .error _ => { l with point := .ended }
    | .ok lists => ⟨{ l.server with mGdtEntriesByEmails := lists }, .ended⟩
  | .ended => l

/-- The threads' steps in any order.  A request shows its response. -/
def loading (config : Config) (timeZone : TimeZone) (connection : Database)
    (clock : Mysql.GdtEntry.Clock) : Machine Loading Event (Option (Except HttpError String)) where
  next l
    | .load => l.load timeZone connection clock
    | .serve c request => { l with server := (l.server.serve config c request).2 }
  out l
    | .load => none
    | .serve c request => some (l.server.serve config c request).1

/-- A load that is about to begin. -/
def Loading.start (s : CacheServer) : Loading :=
  ⟨s, .beforeContacts⟩

end GdtCache.CacheServer
