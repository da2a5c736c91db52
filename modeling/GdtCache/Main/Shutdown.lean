import GdtCache.BackgroundTasks.UpdateCacheWorker

/-!
# Shutdown

`http_serve` returns, `main` deletes `g_Config` and sets it to `nullptr`, and then the cache is
destroyed, which is a static object: of its worker first the body of `~UpdateCacheWorker` runs, then
`mDBConnection` is destroyed, and then `~WorkerThread` stops the thread.  The steps of `main`, of
the worker and of the threads that push tasks come in any order.
-/

namespace GdtCache

open GdtCache.Lib GdtCache.Model GdtCache.BackgroundTasks

/-- What a pointer points to. -/
inductive Pointer
  | valid
  | deleted
  | null
  deriving DecidableEq

/-- What `main` does next. -/
inductive MainPosition
  /-- It is in `http_serve`. -/
  | serve
  /-- `delete g_Config` -/
  | deleteConfig
  /-- `g_Config = nullptr` -/
  | resetConfig
  /-- the body of `~UpdateCacheWorker` -/
  | updateCacheWorker
  /-- the destruction of `mDBConnection` -/
  | mDBConnection
  /-- `~WorkerThread` -/
  | workerThread
  deriving DecidableEq

/-- The worker and what it uses, and how far `main` has got. -/
structure Shutdown (ι : Type) where
  worker : WorkerThread String ι
  body : Body
  g_Config : Pointer
  /-- Whether `mDBConnection` exists. -/
  mDBConnection : Bool
  main : MainPosition

/-- A step. -/
inductive ShutdownEvent (ι : Type)
  /-- A step of the worker or of a thread that pushes a task. -/
  | worker (e : Event String ι)
  /-- The worker's next statement in `run` or `runTask`. -/
  | body (goesOn : Bool)
  | main

namespace Shutdown

variable {ι : Type}

/-- While requests are served; the thread has been started. -/
def serving : Shutdown ι where
  worker := { WorkerThread.new 60 with thread := .lock }
  body := .idle
  g_Config := .valid
  mDBConnection := true
  main := .serve

/-- Steps of the worker's class that may come: a call of `run` or `runTask` ends after its last
statement, `runTask` only returns `REMOVE`, and the destructor is left to `main`. -/
def permits (s : Shutdown ι) : Event String ι → Bool
  | .runEnds _ => s.body = .idle
  | .runTaskEnds (.ok .RE_SCHEDULE) => false
  | .runTaskEnds _ => s.body = .idle
  | .destructor => false
  | _ => true

variable [DecidableEq ι]

/-- The next statement of `main`. -/
def mainStep (s : Shutdown ι) : Shutdown ι :=
  match s.main with
  | .serve => { s with main := .deleteConfig }
  | .deleteConfig => { s with g_Config := .deleted, main := .resetConfig }
  | .resetConfig => { s with g_Config := .null, main := .updateCacheWorker }
  | .updateCacheWorker => { s with main := .mDBConnection }
  | .mDBConnection => { s with mDBConnection := false, main := .workerThread }
  | .workerThread => { s with worker := s.worker.next .destructor }

/-- The state a step leads to. -/
def next (config : Config) (s : Shutdown ι) : ShutdownEvent ι → Shutdown ι
  | .worker e =>
    if s.permits e then
      { s with
        worker := s.worker.next e
        body := s.body.enter s.worker.thread (s.worker.next e).thread }
    else s
  | .body goesOn => { s with body := s.body.next config goesOn }
  | .main => s.mainStep

omit [DecidableEq ι] in
/-- What a step of the worker uses. -/
def uses (s : Shutdown ι) : ShutdownEvent ι → List Use
  | .worker .thread =>
    match s.worker.thread with
    | .exitTest => if s.worker.mExitSignal then [] else [.run]
    | .unlockTask _ => [.runTask]
    | _ => []
  | .body _ => s.body.uses
  | _ => []

end Shutdown

/-- The steps in any order. -/
def shutdown (ι : Type) [DecidableEq ι] (config : Config) :
    Machine (Shutdown ι) (ShutdownEvent ι) (List Use) where
  next := Shutdown.next config
  out := Shutdown.uses

end GdtCache
