import GdtCache.BackgroundTasks.WorkerThread
import GdtCache.Lib.Fifo

/-!
# The queue of the worker thread

`next_moves` says what a step does to the thread and to the queue.  The thread only gets to the
queue's front after it has seen the queue non-empty, and since then nobody else has taken anything
(`Moves.placed`), so each of its steps is one of a queue (`Moves.step`), and the tasks leave in the
order they came in, each of them once (`run_fifo`).
-/

namespace GdtCache.BackgroundTasks

open GdtCache.Lib

variable {T ι : Type}

/-! ### What a step does -/

/-- From a position of the thread and a queue, a step leads to another position and queue. -/
inductive Moves (mExitSignal : Bool) : Event T ι → ThreadPosition T → List T → Output T →
    ThreadPosition T → List T → Prop
  | stay (e p q) : Moves mExitSignal e p q .nothing p q
  | push (i p q task) : Moves mExitSignal (.caller i) p q (.pushed task) p (q ++ [task])
  | start (q) : Moves mExitSignal .startThread .notStarted q .nothing .lock q
  | lock (q) : Moves mExitSignal .thread .lock q .nothing .wait q
  | wait (q) : Moves mExitSignal .thread .wait q .nothing .waiting q
  | wake (e q) : Moves mExitSignal e .waiting q .nothing .relock q
  | relock (q) : Moves mExitSignal .thread .relock q .nothing .exitTest q
  | exit (q) (h : mExitSignal = true) : Moves mExitSignal .thread .exitTest q .nothing .returned q
  | run (q) (h : mExitSignal = false) : Moves mExitSignal .thread .exitTest q .nothing .run q
  | runEnds (result q) : Moves mExitSignal (.runEnds result) .run q .nothing .sizeTest q
  | giveUp (result q) : Moves mExitSignal (.runEnds result) .run q .nothing .returned q
  | noTask : Moves mExitSignal .thread .sizeTest [] .nothing .wait []
  | someTask (task q) :
    Moves mExitSignal .thread .sizeTest (task :: q) .nothing .taskExitTest (task :: q)
  | taskExit (q) (h : mExitSignal = true) :
    Moves mExitSignal .thread .taskExitTest q .nothing .returned q
  | taskGoOn (q) (h : mExitSignal = false) :
    Moves mExitSignal .thread .taskExitTest q .nothing .lockTask q
  | lockTask (q) : Moves mExitSignal .thread .lockTask q .nothing .front q
  | front (task q) : Moves mExitSignal .thread .front (task :: q) .nothing (.pop task) (task :: q)
  | frontOfEmpty : Moves mExitSignal .thread .front [] .nothing .undefined []
  | pop (task head q) :
    Moves mExitSignal .thread (.pop task) (head :: q) (.taken task) (.unlockTask task) q
  | popOfEmpty (task) : Moves mExitSignal .thread (.pop task) [] (.taken task) .undefined []
  | startTask (task q) :
    Moves mExitSignal .thread (.unlockTask task) q (.started task) (.runTask task) q
  | reschedule (task q) : Moves mExitSignal (.runTaskEnds (.ok .RE_SCHEDULE)) (.runTask task) q
    .nothing (.relockTask task) q
  | taskEnds (result task q) :
    Moves mExitSignal (.runTaskEnds result) (.runTask task) q .nothing .sizeTest q
  | relockTask (task q) :
    Moves mExitSignal .thread (.relockTask task) q .nothing (.pushAgain task) q
  | pushAgain (task q) :
    Moves mExitSignal .thread (.pushAgain task) q (.rescheduled task) .unlockAgain (q ++ [task])
  | unlockAgain (q) : Moves mExitSignal .thread .unlockAgain q .nothing .sizeTest q

section

variable (s : WorkerThread T ι)

theorem lockMain_moves {p' : ThreadPosition T}
    (h : Moves s.mExitSignal (.thread : Event T ι) s.thread s.mTasks .nothing p' s.mTasks) :
    Moves s.mExitSignal (.thread : Event T ι) s.thread s.mTasks .nothing (s.lockMain p').thread
      (s.lockMain p').mTasks := by
  unfold WorkerThread.lockMain
  split
  · exact h
  · exact .stay _ _ _

theorem lockTasks_moves {p' : ThreadPosition T}
    (h : Moves s.mExitSignal (.thread : Event T ι) s.thread s.mTasks .nothing p' s.mTasks) :
    Moves s.mExitSignal (.thread : Event T ι) s.thread s.mTasks .nothing (s.lockTasks p').thread
      (s.lockTasks p').mTasks := by
  unfold WorkerThread.lockTasks
  split
  · exact h
  · exact .stay _ _ _

theorem notify_moves (e : Event T ι) :
    Moves s.mExitSignal e s.thread s.mTasks .nothing s.notify.thread s.notify.mTasks := by
  unfold WorkerThread.notify
  split
  · next hthread => exact hthread ▸ .wake _ _
  · exact .stay _ _ _

theorem threadStep_moves :
    Moves s.mExitSignal (.thread : Event T ι) s.thread s.mTasks (s.out .thread)
      s.threadStep.thread s.threadStep.mTasks := by
  obtain ⟨_, _, mExitSignal, mTasks, _, thread, _, _, _⟩ := s
  cases thread with
  | lock => exact lockMain_moves _ (.lock _)
  | wait => exact .wait _
  | relock => exact lockMain_moves _ (.relock _)
  | exitTest =>
    cases mExitSignal with
    | false => exact .run _ rfl
    | true => exact .exit _ rfl
  | sizeTest =>
    cases mTasks with
    | nil => exact .noTask
    | cons task tasks => exact .someTask task tasks
  | taskExitTest =>
    cases mExitSignal with
    | false => exact .taskGoOn _ rfl
    | true => exact .taskExit _ rfl
  | lockTask => exact lockTasks_moves _ (.lockTask _)
  | front =>
    cases mTasks with
    | nil => exact .frontOfEmpty
    | cons task tasks => exact .front task tasks
  | pop task =>
    cases mTasks with
    | nil => exact .popOfEmpty task
    | cons head tasks => exact .pop task head tasks
  | unlockTask task => exact .startTask task _
  | relockTask task => exact lockTasks_moves _ (.relockTask task _)
  | pushAgain task => exact .pushAgain task _
  | unlockAgain => exact .unlockAgain _
  | _ => exact .stay _ _ _

theorem runEnds_moves (result : Except Exception Unit) :
    Moves s.mExitSignal (.runEnds result : Event T ι) s.thread s.mTasks .nothing
      (s.runEnds result).thread (s.runEnds result).mTasks := by
  unfold WorkerThread.runEnds
  split
  · next hthread => exact hthread ▸ .runEnds _ _
  · next hthread =>
    simp only
    split_ifs
    · exact hthread ▸ .giveUp _ _
    · exact hthread ▸ .runEnds _ _
  · exact .stay _ _ _

theorem runTaskEnds_moves (result : Except Exception TaskControl) :
    Moves s.mExitSignal (.runTaskEnds result : Event T ι) s.thread s.mTasks .nothing
      (s.runTaskEnds result).thread (s.runTaskEnds result).mTasks := by
  unfold WorkerThread.runTaskEnds
  split
  · next hthread => exact hthread ▸ .reschedule _ _
  · next hthread => exact hthread ▸ .taskEnds _ _ _
  · next hthread => exact hthread ▸ .taskEnds _ _ _
  · exact .stay _ _ _

theorem destructorStep_moves :
    Moves s.mExitSignal (.destructor : Event T ι) s.thread s.mTasks .nothing
      s.destructorStep.thread s.destructorStep.mTasks := by
  unfold WorkerThread.destructorStep
  cases s.destructor with
  | lock =>
    simp only
    split
    · exact .stay _ _ _
    · exact .stay _ _ _
  | notify => exact notify_moves s _
  | join =>
    simp only
    split
    · exact .stay _ _ _
    · exact .stay _ _ _
    · exact .stay _ _ _
  | _ => exact .stay _ _ _

theorem callerStep_moves [DecidableEq ι] (i : ι) :
    Moves s.mExitSignal (.caller i : Event T ι) s.thread s.mTasks (s.out (.caller i))
      (s.callerStep i).thread (s.callerStep i).mTasks := by
  rw [WorkerThread.callerStep, WorkerThread.out]
  cases s.callers i with
  | idle => exact .stay _ _ _
  | lock task =>
    simp only
    split
    · exact .stay _ _ _
    · exact .stay _ _ _
  | push task => exact .push i _ _ task
  | unlock => exact .stay _ _ _
  | notify => exact notify_moves s _

/-- **Inversion.** -/
theorem next_moves [DecidableEq ι] (e : Event T ι) :
    Moves s.mExitSignal e s.thread s.mTasks (s.out e) (s.next e).thread (s.next e).mTasks := by
  cases e with
  | startThread =>
    rw [WorkerThread.next]
    split
    · next hthread => exact hthread ▸ .start _
    · exact .stay _ _ _
  | thread => exact threadStep_moves s
  | timeout =>
    rw [WorkerThread.next]
    split
    · next hthread =>
      split_ifs
      · exact .stay _ _ _
      · exact hthread ▸ .wake _ _
    · exact .stay _ _ _
  | spuriousWakeUp => exact notify_moves s _
  | runEnds result => exact runEnds_moves s result
  | runTaskEnds result => exact runTaskEnds_moves s result
  | pushTask i task =>
    rw [WorkerThread.next]
    split
    · exact .stay _ _ _
    · exact .stay _ _ _
  | caller i => exact callerStep_moves s i
  | destructor => exact destructorStep_moves s

end

theorem notify_of_waiting {s : WorkerThread T ι} (h : s.thread = .waiting) :
    s.notify = { s with thread := .relock } := by
  rw [WorkerThread.notify, h]

theorem notify_of_ne {s : WorkerThread T ι} (h : s.thread ≠ .waiting) : s.notify = s := by
  unfold WorkerThread.notify
  split
  · next hthread => exact absurd hthread h
  · rfl

/-! ### What a step leaves alone -/

theorem runEnds_frame (s : WorkerThread T ι) (result : Except Exception Unit) :
    (s.runEnds result).callers = s.callers ∧ (s.runEnds result).mExitSignal = s.mExitSignal ∧
      (s.runEnds result).destructor = s.destructor := by
  unfold WorkerThread.runEnds
  split
  · exact ⟨rfl, rfl, rfl⟩
  · simp only
    split_ifs
    · exact ⟨rfl, rfl, rfl⟩
    · exact ⟨rfl, rfl, rfl⟩
  · exact ⟨rfl, rfl, rfl⟩

theorem runTaskEnds_frame (s : WorkerThread T ι) (result : Except Exception TaskControl) :
    (s.runTaskEnds result).callers = s.callers ∧
      (s.runTaskEnds result).mExitSignal = s.mExitSignal ∧
      (s.runTaskEnds result).destructor = s.destructor := by
  unfold WorkerThread.runTaskEnds
  split <;> exact ⟨rfl, rfl, rfl⟩

/-- Nobody but a caller moves the callers. -/
theorem next_callers [DecidableEq ι] (s : WorkerThread T ι) {e : Event T ι}
    (hcaller : ∀ i, e ≠ .caller i) (hpush : ∀ i task, e ≠ .pushTask i task) :
    (s.next e).callers = s.callers := by
  cases e with
  | caller i => exact absurd rfl (hcaller i)
  | pushTask i task => exact absurd rfl (hpush i task)
  | thread =>
    grind [WorkerThread.next, WorkerThread.threadStep, WorkerThread.lockMain,
      WorkerThread.lockTasks, WorkerThread.leave]
  | runEnds result => exact (runEnds_frame s result).1
  | runTaskEnds result => exact (runTaskEnds_frame s result).1
  | destructor => grind [WorkerThread.next, WorkerThread.destructorStep, WorkerThread.notify]
  | _ => grind [WorkerThread.next, WorkerThread.notify]

/-- Nobody but the destructor touches `mExitSignal`. -/
theorem next_mExitSignal [DecidableEq ι] (s : WorkerThread T ι) {e : Event T ι}
    (he : e ≠ .destructor) : (s.next e).mExitSignal = s.mExitSignal := by
  cases e with
  | destructor => exact absurd rfl he
  | thread =>
    grind [WorkerThread.next, WorkerThread.threadStep, WorkerThread.lockMain,
      WorkerThread.lockTasks, WorkerThread.leave]
  | caller i =>
    grind [WorkerThread.next, WorkerThread.callerStep, WorkerThread.setCaller, WorkerThread.notify]
  | runEnds result => exact (runEnds_frame s result).2.1
  | runTaskEnds result => exact (runTaskEnds_frame s result).2.1
  | _ => grind [WorkerThread.next, WorkerThread.notify, WorkerThread.setCaller]

/-- Only the destructor moves the destructor. -/
theorem next_destructor [DecidableEq ι] (s : WorkerThread T ι) {e : Event T ι}
    (he : e ≠ .destructor) : (s.next e).destructor = s.destructor := by
  cases e with
  | destructor => exact absurd rfl he
  | thread =>
    grind [WorkerThread.next, WorkerThread.threadStep, WorkerThread.lockMain,
      WorkerThread.lockTasks, WorkerThread.leave]
  | caller i =>
    grind [WorkerThread.next, WorkerThread.callerStep, WorkerThread.setCaller, WorkerThread.notify]
  | runEnds result => exact (runEnds_frame s result).2.2
  | runTaskEnds result => exact (runTaskEnds_frame s result).2.2
  | _ => grind [WorkerThread.next, WorkerThread.notify, WorkerThread.setCaller]

/-- The destructor only sets `mExitSignal`. -/
theorem mExitSignal_of_destructor [DecidableEq ι] {s : WorkerThread T ι}
    (h : s.mExitSignal = true) : (s.next .destructor).mExitSignal = true := by
  grind [WorkerThread.next, WorkerThread.destructorStep, WorkerThread.notify]

/-- The thread only comes out of its wait when the mutex is free. -/
theorem mMainThreadMutex_of_relock [DecidableEq ι] {s : WorkerThread T ι}
    (hthread : s.thread = .relock) (hnext : (s.next .thread).thread = .exitTest) :
    s.mMainThreadMutex = none := by
  have hstep : s.next .thread = s.lockMain .exitTest := by
    show s.threadStep = _
    rw [WorkerThread.threadStep, hthread]
  rw [hstep, WorkerThread.lockMain] at hnext
  split at hnext
  · next hmutex => exact hmutex
  · rw [hthread] at hnext
    cases hnext

/-! ### The front of the queue -/

/-- What the thread knows about the queue where it is. -/
def Placed : ThreadPosition T → List T → Prop
  | .taskExitTest, q => q ≠ []
  | .lockTask, q => q ≠ []
  | .front, q => q ≠ []
  | .pop task, q => q.head? = some task
  | .undefined, _ => False
  | _, _ => True

/-- Pushing does not change the front. -/
theorem Placed.push {p : ThreadPosition T} {q : List T} (h : Placed p q) (task : T) :
    Placed p (q ++ [task]) := by
  cases p with
  | taskExitTest => exact List.append_ne_nil_of_left_ne_nil h _
  | lockTask => exact List.append_ne_nil_of_left_ne_nil h _
  | front => exact List.append_ne_nil_of_left_ne_nil h _
  | pop task' =>
    have h : q.head? = some task' := h
    rw [Placed, List.head?_append, h, Option.some_or]
  | undefined => exact h
  | _ => trivial

variable {mExitSignal : Bool} {e : Event T ι} {p p' : ThreadPosition T} {q q' : List T}
  {o : Output T}

theorem Moves.placed (h : Moves mExitSignal e p q o p' q') (hplaced : Placed p q) :
    Placed p' q' := by
  cases h with
  | stay => exact hplaced
  | push i p q task => exact hplaced.push task
  | someTask task q => exact List.cons_ne_nil task q
  | taskGoOn => exact hplaced
  | lockTask => exact hplaced
  | front => rfl
  | frontOfEmpty => exact hplaced rfl
  | popOfEmpty => cases hplaced
  | _ => trivial

/-! ### Tasks go through a queue -/

/-- What a step does to the queue. -/
def Output.op? : Output T → Option (Fifo.Op T)
  | pushed task => some (.enqueue task)
  | taken task => some (.dequeue task)
  | rescheduled task => some (.enqueue task)
  | started _ => none
  | nothing => none

/-- **Step**: a step is one of the queue, or leaves it alone. -/
theorem Moves.replays (h : Moves mExitSignal e p q o p' q') (hplaced : Placed p q)
    {outputs : List (Output T)} (hq : Fifo.Replays [] (outputs.filterMap Output.op?) q) :
    Fifo.Replays [] ((outputs ++ [o]).filterMap Output.op?) q' := by
  rw [List.filterMap_append]
  cases h with
  | push => exact hq.snoc rfl
  | pushAgain => exact hq.snoc rfl
  | pop task head q =>
    cases hplaced
    exact hq.snoc rfl
  | popOfEmpty => cases hplaced
  | _ => exact (List.append_nil _).symm ▸ hq

/-! ### Histories -/

def Output.pushed? : Output T → Option T
  | pushed task => some task
  | _ => none

def Output.taken? : Output T → Option T
  | taken task => some task
  | _ => none

def Output.started? : Output T → Option T
  | started task => some task
  | _ => none

/-- The tasks the callers have pushed, in their order. -/
def pushedTasks (outputs : List (Output T)) : List T :=
  outputs.filterMap Output.pushed?

/-- The tasks the thread has taken from the queue. -/
def takenTasks (outputs : List (Output T)) : List T :=
  outputs.filterMap Output.taken?

/-- The tasks `runTask` has been called with. -/
def startedTasks (outputs : List (Output T)) : List T :=
  outputs.filterMap Output.started?

/-- The task that has been taken and is not started yet. -/
def ThreadPosition.inHand : ThreadPosition T → List T
  | unlockTask task => [task]
  | _ => []

theorem filterMap_snoc {α β : Type} (f : α → Option β) (l : List α) (a : α) :
    (l ++ [a]).filterMap f = l.filterMap f ++ (f a).toList := by
  rw [List.filterMap_append, List.filterMap_cons]
  cases f a <;> rfl

@[simp] theorem takenTasks_append (outputs : List (Output T)) (o : Output T) :
    takenTasks (outputs ++ [o]) = takenTasks outputs ++ o.taken?.toList :=
  filterMap_snoc Output.taken? outputs o

@[simp] theorem startedTasks_append (outputs : List (Output T)) (o : Output T) :
    startedTasks (outputs ++ [o]) = startedTasks outputs ++ o.started?.toList :=
  filterMap_snoc Output.started? outputs o

/-- A task is started right after it has been taken. -/
theorem Moves.started_append (h : Moves mExitSignal e p q o p' q') (hplaced : Placed p q)
    {outputs : List (Output T)} (hp : startedTasks outputs ++ p.inHand = takenTasks outputs) :
    startedTasks (outputs ++ [o]) ++ p'.inHand = takenTasks (outputs ++ [o]) := by
  rw [startedTasks_append, takenTasks_append, ← hp]
  cases h with
  | popOfEmpty => cases hplaced
  | _ => simp [Output.started?, Output.taken?, ThreadPosition.inHand]

theorem filterMap_dequeued (outputs : List (Output T)) :
    (outputs.filterMap Output.op?).filterMap Fifo.Op.dequeued = takenTasks outputs := by
  rw [List.filterMap_filterMap, takenTasks]
  congr
  funext o
  cases o <;> rfl

/-- Unless tasks are pushed back, only callers push. -/
theorem filterMap_enqueued {outputs : List (Output T)}
    (h : ∀ task, Output.rescheduled task ∉ outputs) :
    (outputs.filterMap Output.op?).filterMap Fifo.Op.enqueued = pushedTasks outputs := by
  rw [List.filterMap_filterMap, pushedTasks]
  apply List.filterMap_congr
  intro o ho
  cases o with
  | rescheduled task => exact absurd ho (h task)
  | _ => rfl

/-! ### Tasks that are not pushed back -/

/-- The thread is about to push a task back. -/
def ThreadPosition.Rescheduling : ThreadPosition T → Prop
  | relockTask _ => True
  | pushAgain _ => True
  | _ => False

/-- Only `RE_SCHEDULE` makes the thread push a task back. -/
theorem Moves.not_rescheduling (h : Moves mExitSignal e p q o p' q')
    (he : e ≠ .runTaskEnds (.ok .RE_SCHEDULE)) (hp : ¬ p.Rescheduling) :
    ¬ p'.Rescheduling ∧ ∀ task, o ≠ .rescheduled task := by
  cases h with
  | stay => exact ⟨hp, nofun⟩
  | push => exact ⟨hp, nofun⟩
  | reschedule => exact absurd rfl he
  | relockTask task => exact absurd trivial hp
  | pushAgain task => exact absurd trivial hp
  | _ => exact ⟨id, nofun⟩

/-! ### Runs -/

/-- What holds between any two steps, of a state and of all that has happened. -/
structure History (s : WorkerThread T ι) (outputs : List (Output T)) : Prop where
  placed : Placed s.thread s.mTasks
  replays : Fifo.Replays [] (outputs.filterMap Output.op?) s.mTasks
  started : startedTasks outputs ++ s.thread.inHand = takenTasks outputs

variable [DecidableEq ι]

/-- **Step.** -/
theorem History.next {s : WorkerThread T ι} {outputs : List (Output T)} (h : History s outputs)
    (e : Event T ι) : History (s.next e) (outputs ++ [s.out e]) where
  placed := (next_moves s e).placed h.placed
  replays := (next_moves s e).replays h.placed h.replays
  started := (next_moves s e).started_append h.placed h.started

/-- **Run.** -/
theorem history_run (callFrequencySeconds : ℤ) (events : List (Event T ι)) :
    History ((machine T ι).run (.new callFrequencySeconds) events)
      ((machine T ι).outputs (.new callFrequencySeconds) events) :=
  Machine.run_outputs_induction ⟨trivial, .nil, rfl⟩ fun e _ _ _ h => h.next e

theorem not_rescheduled_of_run {callFrequencySeconds : ℤ} {events : List (Event T ι)}
    (hremove : .runTaskEnds (.ok .RE_SCHEDULE) ∉ events) (task : T) :
    .rescheduled task ∉ (machine T ι).outputs (.new callFrequencySeconds) events := by
  suffices h : ¬ ((machine T ι).run (.new callFrequencySeconds) events).thread.Rescheduling ∧
      ∀ task, .rescheduled task ∉ (machine T ι).outputs (.new callFrequencySeconds) events from
    h.2 task
  let I (s : WorkerThread T ι) (outputs : List (Output T)) : Prop :=
    ¬ s.thread.Rescheduling ∧ ∀ task, .rescheduled task ∉ outputs
  refine Machine.run_outputs_induction (I := I) ⟨id, nofun⟩ ?_
  rintro e he s outputs ⟨hthread, houtputs⟩
  obtain ⟨hthread', hout⟩ := (next_moves s e).not_rescheduling
    (fun heq => hremove (heq ▸ he)) hthread
  refine ⟨hthread', fun task hmem => ?_⟩
  rcases List.mem_append.mp hmem with hmem | hmem
  · exact houtputs task hmem
  · exact hout task (List.mem_singleton.mp hmem).symm

/-- A task that throws leaves the worker where a task that returns leaves it. -/
theorem next_runTaskEnds_error (s : WorkerThread T ι) (ex : Exception) :
    s.next (.runTaskEnds (.error ex)) = s.next (.runTaskEnds (.ok .REMOVE)) := by
  obtain ⟨_, _, _, _, _, thread, _, _, _⟩ := s
  cases thread <;> rfl

/-- **Exactly once, first in first out.**  In every run whose tasks return `REMOVE` or throw, the
tasks the thread has taken, followed by those in the queue, are the tasks pushed so far in their
order; every task is started right after it has been taken; the thread never takes the front of an
empty queue; and a task that throws makes no difference. -/
theorem run_fifo (callFrequencySeconds : ℤ) (events : List (Event T ι))
    (hremove : .runTaskEnds (.ok .RE_SCHEDULE) ∉ events) :
    let s := (machine T ι).run (.new callFrequencySeconds) events
    let outputs := (machine T ι).outputs (.new callFrequencySeconds) events
    takenTasks outputs ++ s.mTasks = pushedTasks outputs ∧
      startedTasks outputs ++ s.thread.inHand = takenTasks outputs ∧
      (s.thread = .front → s.mTasks ≠ []) ∧
      s.thread ≠ .undefined ∧
      ∀ ex, s.next (.runTaskEnds (.error ex)) = s.next (.runTaskEnds (.ok .REMOVE)) := by
  intro s outputs
  have hhistory : History s outputs := history_run callFrequencySeconds events
  refine ⟨?_, hhistory.started, ?_, ?_, next_runTaskEnds_error s⟩
  · calc takenTasks outputs ++ s.mTasks
        = (outputs.filterMap Output.op?).filterMap Fifo.Op.dequeued ++ s.mTasks := by
          rw [filterMap_dequeued]
      _ = (outputs.filterMap Output.op?).filterMap Fifo.Op.enqueued :=
          hhistory.replays.dequeued_append
      _ = pushedTasks outputs := filterMap_enqueued (not_rescheduled_of_run hremove)
  · intro hfront
    have hplaced := hhistory.placed
    rw [hfront] at hplaced
    exact hplaced
  · intro hundefined
    have hplaced := hhistory.placed
    rw [hundefined] at hplaced
    exact hplaced

/-- Two threads push a task each, the second one while the first task runs, which throws. -/
theorem run_fifo_of_throw :
    let push (i : Bool) (task : ℕ) : List (Event ℕ Bool) :=
      [.pushTask i task, .caller i, .caller i, .caller i, .caller i]
    let take : List (Event ℕ Bool) := [.thread, .thread, .thread, .thread, .thread, .thread]
    let events := [.startThread, .thread, .thread] ++ push true 7 ++
      [.thread, .thread, .runEnds (.ok ())] ++ take ++ push false 8 ++
      [.runTaskEnds (.error .other)] ++ take
    let s := (machine ℕ Bool).run (.new 60) events
    let outputs := (machine ℕ Bool).outputs (.new 60) events
    startedTasks outputs = [7, 8] ∧ takenTasks outputs ++ s.mTasks = pushedTasks outputs := by
  intro push take events s outputs
  have h := run_fifo 60 events (by simp [events, push, take])
  exact ⟨rfl, h.1⟩

end GdtCache.BackgroundTasks
