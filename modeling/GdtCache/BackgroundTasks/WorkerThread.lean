import GdtCache.Lib.Machine
import GdtCache.Utils.Exception
import Mathlib.Data.Int.Notation
import Mathlib.Logic.Function.Basic

/-!
# The worker thread

`WorkerThread<T>`: a thread that waits on a condition, calls `run`, and then works off a queue of
tasks other threads push.  A step is one statement of the thread in `threadFunction`, of a thread
in `pushTask`, or of the owner in the destructor, and the steps come in any order.  A step that
locks a mutex does nothing while the mutex is owned, and so does a step that does not come next.

Reads and writes of a single member are steps of their own, although the test of `mTasks.size()`
is not guarded.
-/

namespace GdtCache.BackgroundTasks

open GdtCache.Lib

/-- `WorkerThread::TaskControl` -/
inductive TaskControl
  | RE_SCHEDULE
  | REMOVE
  deriving DecidableEq

/-- Where the thread is in `threadFunction`: what it does next. -/
inductive ThreadPosition (T : Type)
  /-- The thread has not been started. -/
  | notStarted
  /-- `std::unique_lock _lock(mMainThreadMutex)` -/
  | lock
  /-- It goes into the wait, and owns `mMainThreadMutex` until then. -/
  | wait
  /-- It is in the wait. -/
  | waiting
  /-- The wait is over, and `mMainThreadMutex` is locked again. -/
  | relock
  /-- `if(mExitSignal) {return;}` -/
  | exitTest
  /-- It is in `run()`. -/
  | run
  /-- `while(mTasks.size())` -/
  | sizeTest
  /-- `if(mExitSignal) {return; }`, in the loop -/
  | taskExitTest
  /-- `std::unique_lock _lockTask(mTasksMutex)` -/
  | lockTask
  /-- `task = mTasks.front()` -/
  | front
  /-- `mTasks.pop()` -/
  | pop (task : T)
  /-- `_lockTask.unlock()` -/
  | unlockTask (task : T)
  /-- It is in `runTask(task)`. -/
  | runTask (task : T)
  /-- `_lockTask.lock()` -/
  | relockTask (task : T)
  /-- `mTasks.push(task)` -/
  | pushAgain (task : T)
  /-- `_lockTask` is destroyed. -/
  | unlockAgain
  /-- It has returned. -/
  | returned
  /-- It took an element from an empty queue; there is no telling what it does. -/
  | undefined
  deriving DecidableEq

/-- Where another thread is in `pushTask`. -/
inductive CallerPosition (T : Type)
  | idle
  /-- `mTasksMutex.lock()` -/
  | lock (task : T)
  /-- `mTasks.push(task)` -/
  | push (task : T)
  /-- `mTasksMutex.unlock()` -/
  | unlock
  /-- `mMainThreadCondition.notify_one()` -/
  | notify
  deriving DecidableEq

/-- Where the owner is in `~WorkerThread`. -/
inductive DestructorPosition
  | notEntered
  /-- `mMainThreadMutex.lock()` -/
  | lock
  /-- `mExitSignal = true` -/
  | setExitSignal
  /-- `mMainThreadMutex.unlock()` -/
  | unlock
  /-- `mMainThreadCondition.notify_all()` -/
  | notify
  /-- `if(mMainThread.joinable()) mMainThread.join()` -/
  | join
  | done
  deriving DecidableEq

/-- Who owns a mutex. -/
inductive Owner (ι : Type)
  | thread
  | caller (i : ι)
  | destructor
  deriving DecidableEq

/-- The members, and how far everybody has got. -/
structure WorkerThread (T ι : Type) where
  mCallFrequencySeconds : ℤ
  mMainThreadMutex : Option (Owner ι)
  mExitSignal : Bool
  mTasks : List T
  mTasksMutex : Option (Owner ι)
  thread : ThreadPosition T
  /-- How often `run` threw in a row. -/
  errorCount : ℕ
  callers : ι → CallerPosition T
  destructor : DestructorPosition

/-- A step. -/
inductive Event (T ι : Type)
  | startThread
  /-- The thread does what comes next. -/
  | thread
  /-- The wait ends because `mCallFrequencySeconds` are over. -/
  | timeout
  /-- The wait ends for no reason. -/
  | spuriousWakeUp
  | runEnds (result : Except Exception Unit)
  | runTaskEnds (result : Except Exception TaskControl)
  /-- Thread `i` calls `pushTask`. -/
  | pushTask (i : ι) (task : T)
  /-- Thread `i` does what comes next. -/
  | caller (i : ι)
  /-- The owner enters the destructor, or does what comes next there. -/
  | destructor

/-- What a step does to the tasks. -/
inductive Output (T : Type)
  /-- A caller pushes a task. -/
  | pushed (task : T)
  /-- The thread takes a task from the queue. -/
  | taken (task : T)
  /-- The thread calls `runTask`. -/
  | started (task : T)
  /-- The thread pushes a task back. -/
  | rescheduled (task : T)
  | nothing

namespace WorkerThread

variable {T ι : Type}

/-- The constructor. -/
def new (callFrequencySeconds : ℤ) : WorkerThread T ι where
  mCallFrequencySeconds := callFrequencySeconds
  mMainThreadMutex := none
  mExitSignal := false
  mTasks := []
  mTasksMutex := none
  thread := .notStarted
  errorCount := 0
  callers _ := .idle
  destructor := .notEntered

/-- `notify_one` and `notify_all`: nobody but the thread is ever in the wait. -/
def notify (s : WorkerThread T ι) : WorkerThread T ι :=
  match s.thread with
  | .waiting => { s with thread := .relock }
  | _ => s

/-- The thread locks `mMainThreadMutex`. -/
def lockMain (s : WorkerThread T ι) (next : ThreadPosition T) : WorkerThread T ι :=
  match s.mMainThreadMutex with
  | none => { s with mMainThreadMutex := some .thread, thread := next }
  | some _ => s

/-- The thread locks `mTasksMutex`. -/
def lockTasks (s : WorkerThread T ι) (next : ThreadPosition T) : WorkerThread T ι :=
  match s.mTasksMutex with
  | none => { s with mTasksMutex := some .thread, thread := next }
  | some _ => s

/-- The thread leaves `threadFunction`, which unlocks `mMainThreadMutex`. -/
def leave (s : WorkerThread T ι) : WorkerThread T ι :=
  { s with mMainThreadMutex := none, thread := .returned }

/-- The next statement of `threadFunction`. -/
def threadStep (s : WorkerThread T ι) : WorkerThread T ι :=
  match s.thread with
  | .lock => s.lockMain .wait
  | .wait => { s with mMainThreadMutex := none, thread := .waiting }
  | .relock => s.lockMain .exitTest
  | .exitTest => if s.mExitSignal then s.leave else { s with thread := .run }
  | .sizeTest => { s with thread := if s.mTasks.isEmpty then .wait else .taskExitTest }
  | .taskExitTest => if s.mExitSignal then s.leave else { s with thread := .lockTask }
  | .lockTask => s.lockTasks .front
  | .front =>
    match s.mTasks with
    | task :: _ => { s with thread := .pop task }
    | [] => { s with thread := .undefined }
  | .pop task =>
    match s.mTasks with
    | _ :: tasks => { s with mTasks := tasks, thread := .unlockTask task }
    | [] => { s with thread := .undefined }
  | .unlockTask task => { s with mTasksMutex := none, thread := .runTask task }
  | .relockTask task => s.lockTasks (.pushAgain task)
  | .pushAgain task => { s with mTasks := s.mTasks ++ [task], thread := .unlockAgain }
  | .unlockAgain => { s with mTasksMutex := none, thread := .sizeTest }
  | _ => s

/-- `run` is over.  After more than a hundred exceptions in a row the thread ends. -/
def runEnds (s : WorkerThread T ι) (result : Except Exception Unit) : WorkerThread T ι :=
  match s.thread, result with
  | .run, .ok () => { s with errorCount := 0, thread := .sizeTest }
  | .run, .error _ =>
    let errorCount := s.errorCount + 1
    if 100 < errorCount then { s with errorCount := errorCount }.leave
    else { s with errorCount := errorCount, thread := .sizeTest }
  | _, _ => s

/-- `runTask` is over; what it throws is only logged. -/
def runTaskEnds (s : WorkerThread T ι) (result : Except Exception TaskControl) :
    WorkerThread T ι :=
  match s.thread, result with
  | .runTask task, .ok .RE_SCHEDULE => { s with thread := .relockTask task }
  | .runTask _, .ok .REMOVE => { s with thread := .sizeTest }
  | .runTask _, .error _ => { s with thread := .sizeTest }
  | _, _ => s

/-- The next statement of `~WorkerThread`. -/
def destructorStep (s : WorkerThread T ι) : WorkerThread T ι :=
  match s.destructor with
  | .notEntered => { s with destructor := .lock }
  | .lock =>
    match s.mMainThreadMutex with
    | none => { s with mMainThreadMutex := some .destructor, destructor := .setExitSignal }
    | some _ => s
  | .setExitSignal => { s with mExitSignal := true, destructor := .unlock }
  | .unlock => { s with mMainThreadMutex := none, destructor := .notify }
  | .notify => { s.notify with destructor := .join }
  | .join =>
    match s.thread with
    | .notStarted | .returned => { s with destructor := .done }
    | _ => s
  | .done => s

section Callers

variable [DecidableEq ι]

def setCaller (s : WorkerThread T ι) (i : ι) (position : CallerPosition T) : WorkerThread T ι :=
  { s with callers := Function.update s.callers i position }

/-- The next statement of `pushTask`. -/
def callerStep (s : WorkerThread T ι) (i : ι) : WorkerThread T ι :=
  match s.callers i with
  | .idle => s
  | .lock task =>
    match s.mTasksMutex with
    | none => { s with mTasksMutex := some (.caller i) }.setCaller i (.push task)
    | some _ => s
  | .push task => { s with mTasks := s.mTasks ++ [task] }.setCaller i .unlock
  | .unlock => { s with mTasksMutex := none }.setCaller i .notify
  | .notify => s.notify.setCaller i .idle

/-- The state a step leads to. -/
def next (s : WorkerThread T ι) : Event T ι → WorkerThread T ι
  | .startThread =>
    match s.thread with
    | .notStarted => { s with thread := .lock }
    | _ => s
  | .thread => s.threadStep
  | .timeout =>
    match s.thread with
    | .waiting => if s.mCallFrequencySeconds = 0 then s else { s with thread := .relock }
    | _ => s
  | .spuriousWakeUp => s.notify
  | .runEnds result => s.runEnds result
  | .runTaskEnds result => s.runTaskEnds result
  | .pushTask i task =>
    match s.callers i with
    | .idle => s.setCaller i (.lock task)
    | _ => s
  | .caller i => s.callerStep i
  | .destructor => s.destructorStep

end Callers

/-- What a step does to the tasks. -/
def out (s : WorkerThread T ι) : Event T ι → Output T
  | .thread =>
    match s.thread with
    | .pop task => .taken task
    | .unlockTask task => .started task
    | .pushAgain task => .rescheduled task
    | _ => .nothing
  | .caller i =>
    match s.callers i with
    | .push task => .pushed task
    | _ => .nothing
  | _ => .nothing

end WorkerThread

/-- The steps in any order. -/
def machine (T ι : Type) [DecidableEq ι] :
    Machine (WorkerThread T ι) (Event T ι) (Output T) where
  next := WorkerThread.next
  out := WorkerThread.out

end GdtCache.BackgroundTasks
