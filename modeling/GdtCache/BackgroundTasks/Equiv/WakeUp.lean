import GdtCache.BackgroundTasks.Equiv.WorkerThread

/-!
# When a wake-up is lost

The wait has no predicate, and `pushTask` does not lock the mutex the wait releases.  A thread that
has seen the queue empty and is not in the wait yet, or that has not got to its first wait, misses
every `notify_one` until it is there.  If it misses the last one while a task is queued, the task
stays (`waiting_of_losesNotify`); if it does not, a thread in the wait with a task queued is still
to be notified (`toNotify_of_waiting`).
-/

namespace GdtCache.BackgroundTasks

open GdtCache.Lib

variable {T ι : Type}

/-- The caller has pushed, and its `notify_one` is still to come. -/
def CallerPosition.ToNotify : CallerPosition T → Prop
  | unlock => True
  | notify => True
  | _ => False

/-- The thread goes into a wait before it tests the queue, and is not there yet. -/
def ThreadPosition.BeforeWait : ThreadPosition T → Prop
  | notStarted => True
  | lock => True
  | wait => True
  | _ => False

/-- The thread is in a wait, or goes into one before it tests the queue. -/
def ThreadPosition.Sleeps (p : ThreadPosition T) : Prop :=
  p.BeforeWait ∨ p = .waiting

/-- A thread that sleeps has a notification to come if there is a task. -/
def Attended (s : WorkerThread T ι) : Prop :=
  s.thread.Sleeps → s.mTasks ≠ [] → ∃ i, (s.callers i).ToNotify

/-- The step is a `notify_one` the thread misses, there is a task, and nobody else is going to
notify. -/
def LosesNotify (s : WorkerThread T ι) : Event T ι → Prop
  | .caller i => s.callers i = .notify ∧ s.thread.BeforeWait ∧ s.mTasks ≠ [] ∧
    ∀ j ≠ i, ¬ (s.callers j).ToNotify
  | _ => False

/-! ### What a step does -/

/-- A thread only falls asleep when there is no task. -/
theorem Moves.sleeps {mExitSignal : Bool} {e : Event T ι} {p p' : ThreadPosition T} {q q' : List T}
    {o : Output T} (h : Moves mExitSignal e p q o p' q') (he : ∀ i, e ≠ .caller i)
    (hp : p'.Sleeps) (hq : q' ≠ []) : p.Sleeps ∧ q ≠ [] := by
  cases h with
  | stay => exact ⟨hp, hq⟩
  | push i => exact absurd rfl (he i)
  | start => exact ⟨.inl trivial, hq⟩
  | lock => exact ⟨.inl trivial, hq⟩
  | wait => exact ⟨.inl trivial, hq⟩
  | noTask => exact absurd rfl hq
  | _ => rcases hp with ⟨⟨⟩⟩ | ⟨⟨⟩⟩

/-- A caller that has pushed is to notify. -/
theorem Attended.of_toNotify {s : WorkerThread T ι} {i : ι} (h : (s.callers i).ToNotify) :
    Attended s :=
  fun _ _ => ⟨i, h⟩

section Callers

variable [DecidableEq ι]

@[simp] theorem setCaller_self (s : WorkerThread T ι) (i : ι) (position : CallerPosition T) :
    (s.setCaller i position).callers i = position :=
  Function.update_self ..

@[simp] theorem setCaller_of_ne (s : WorkerThread T ι) {i j : ι} (h : j ≠ i)
    (position : CallerPosition T) : (s.setCaller i position).callers j = s.callers j :=
  Function.update_of_ne h ..

/-- A caller that had not pushed yet moves: the others are still to notify. -/
theorem Attended.setCaller {s : WorkerThread T ι} (h : Attended s) {i : ι}
    (hi : ¬ (s.callers i).ToNotify) (position : CallerPosition T) :
    Attended (s.setCaller i position) := by
  intro hsleeps htasks
  obtain ⟨j, hj⟩ := h hsleeps htasks
  have hji : j ≠ i := by
    rintro rfl
    exact hi hj
  exact ⟨j, by rwa [setCaller_of_ne s hji]⟩

/-- The thread is notified in its wait, or somebody else is still to notify. -/
theorem Attended.notify {s : WorkerThread T ι} {i : ι} (hi : s.callers i = .notify)
    (h : ¬ LosesNotify s (.caller i)) : Attended (s.notify.setCaller i .idle) := by
  by_cases hthread : s.thread = .waiting
  · rw [notify_of_waiting hthread]
    rintro (hsleeps | hsleeps)
    · exact absurd hsleeps id
    · cases hsleeps
  · rw [notify_of_ne hthread]
    intro hsleeps htasks
    have hbefore : s.thread.BeforeWait := hsleeps.resolve_right hthread
    by_contra hnobody
    push Not at hnobody
    refine h ⟨hi, hbefore, htasks, fun j hj => ?_⟩
    rw [← setCaller_of_ne s hj .idle]
    exact hnobody j

/-- **Step.** -/
theorem Attended.next {s : WorkerThread T ι} (h : Attended s) {e : Event T ι}
    (he : ¬ LosesNotify s e) : Attended (s.next e) := by
  by_cases hcaller : ∃ i, e = .caller i
  · obtain ⟨i, rfl⟩ := hcaller
    show Attended (s.callerStep i)
    rw [WorkerThread.callerStep]
    cases hi : s.callers i with
    | idle => exact h
    | lock task =>
      simp only
      cases s.mTasksMutex with
      | none =>
        have hmutex : Attended { s with mTasksMutex := some (.caller i) } := h
        exact hmutex.setCaller (by simp [hi, CallerPosition.ToNotify]) _
      | some _ => exact h
    | push task => exact .of_toNotify (i := i) (by rw [setCaller_self]; trivial)
    | unlock => exact .of_toNotify (i := i) (by rw [setCaller_self]; trivial)
    | notify => exact .notify hi he
  by_cases hpush : ∃ i task, e = .pushTask i task
  · obtain ⟨i, task, rfl⟩ := hpush
    rw [WorkerThread.next]
    split
    · next hi => exact h.setCaller (by simp [hi, CallerPosition.ToNotify]) _
    · exact h
  push Not at hcaller hpush
  intro hsleeps htasks
  obtain ⟨hsleeps', htasks'⟩ := (next_moves s e).sleeps hcaller hsleeps htasks
  rw [next_callers s hcaller hpush]
  exact h hsleeps' htasks'

/-- **No lost wake-up**, as long as nobody loses one.  In every run in which no `notify_one` is
issued to a thread that goes into a wait without testing the queue again, with a task there and
nobody else to notify, a thread that is in its wait while there is a task is still to be
notified. -/
theorem toNotify_of_waiting (callFrequencySeconds : ℤ) (events : List (Event T ι))
    (h : (machine T ι).Always (fun s e => ¬ LosesNotify s e) (.new callFrequencySeconds) events) :
    let s := (machine T ι).run (.new callFrequencySeconds) events
    s.thread = .waiting → s.mTasks ≠ [] → ∃ i, (s.callers i).ToNotify := by
  intro s hwaiting
  have hattended : Attended s :=
    h.run_induction (fun _ htasks => absurd rfl htasks) fun _ _ hs he => hs.next he
  exact hattended (.inr hwaiting)

/-- The thread is notified while it is in its wait. -/
theorem toNotify_of_waiting_of_push :
    let events : List (Event ℕ Bool) :=
      [.startThread, .thread, .thread, .pushTask true 7, .caller true, .caller true]
    let s := (machine ℕ Bool).run (.new 0) events
    ∃ i, (s.callers i).ToNotify := by
  intro events s
  refine toNotify_of_waiting 0 events ?_ rfl (by decide)
  refine ⟨id, id, id, id, ?_, ?_, trivial⟩
  · rintro ⟨hi, -⟩
    cases hi
  · rintro ⟨hi, -⟩
    cases hi

/-- The thread has worked off a task and has seen the queue empty; then a second task is pushed, and
then the thread goes into its wait, which nothing ends. -/
theorem waiting_with_task :
    ¬ ∀ (callFrequencySeconds : ℤ) (events : List (Event ℕ Bool)),
      let s := (machine ℕ Bool).run (.new callFrequencySeconds) events
      s.thread = .waiting → s.mTasks ≠ [] → ∃ i, (s.callers i).ToNotify := by
  intro h
  let push (i : Bool) (task : ℕ) : List (Event ℕ Bool) :=
    [.pushTask i task, .caller i, .caller i, .caller i, .caller i]
  obtain ⟨i, hi⟩ := h 0
    ([.startThread, .thread, .thread] ++ push true 7 ++ [.thread, .thread, .runEnds (.ok ())] ++
      [.thread, .thread, .thread, .thread, .thread, .thread, .runTaskEnds (.ok .REMOVE), .thread]
      ++ push false 8 ++ [.thread]) rfl (by decide)
  cases i with
  | false => exact hi
  | true => exact hi

/-- A thread that misses the last `notify_one` goes into its wait, and stays there with a task in
the queue. -/
theorem waiting_of_losesNotify {s : WorkerThread T ι} {e : Event T ι} (h : LosesNotify s e)
    (hthread : s.thread = .wait) :
    let s' := (s.next e).next .thread
    s'.thread = .waiting ∧ s'.mTasks ≠ [] ∧ ∀ i, ¬ (s'.callers i).ToNotify := by
  cases e with
  | caller i =>
    obtain ⟨hi, -, htasks, hothers⟩ := h
    have hnext : s.next (.caller i) = s.setCaller i .idle := by
      show s.callerStep i = _
      rw [WorkerThread.callerStep, hi]
      simp only
      rw [notify_of_ne (by simp [hthread])]
    intro s'
    have hs' : s' = { s.setCaller i .idle with mMainThreadMutex := none, thread := .waiting } := by
      show (s.next (.caller i)).threadStep = _
      rw [hnext, WorkerThread.threadStep]
      simp [WorkerThread.setCaller, hthread]
    rw [hs']
    refine ⟨rfl, htasks, fun j => ?_⟩
    by_cases hj : j = i
    · subst hj
      show ¬ ((s.setCaller j .idle).callers j).ToNotify
      rw [setCaller_self]
      exact id
    · show ¬ ((s.setCaller i .idle).callers j).ToNotify
      rw [setCaller_of_ne s hj]
      exact hothers j hj
  | _ => exact absurd h id

end Callers

end GdtCache.BackgroundTasks
