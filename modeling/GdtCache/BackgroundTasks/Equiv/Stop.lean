import GdtCache.BackgroundTasks.Equiv.WorkerThread

/-!
# When a request to stop is heeded

The destructor needs `mMainThreadMutex` to set `mExitSignal`, and the thread gives that mutex away
in its wait only: the test of `mExitSignal` in the loop over the tasks never finds it set
(`mExitSignal_of_taskExitTest`).  A thread that is past its wait when the destructor is entered, or
gets the mutex before it, goes on with what is queued.  And `notify_all` is issued once: a thread
that has not come to its first wait by then goes into it, as it does not test `mExitSignal` before.

`Owned` says who owns `mMainThreadMutex` where, in every run; `Stopping` where the thread can be
while the destructor runs, in a run whose steps all let it stop (`LetsStop`).
-/

namespace GdtCache.BackgroundTasks

open GdtCache.Lib

variable {T ι : Type}

/-- The thread owns `mMainThreadMutex`. -/
def ThreadPosition.OwnsMain : ThreadPosition T → Prop
  | notStarted => False
  | lock => False
  | waiting => False
  | relock => False
  | returned => False
  | _ => True

/-- The thread goes on to a call of `run` or `runTask`, unless `mExitSignal` stops it. -/
def ThreadPosition.BeforeCall : ThreadPosition T → Prop
  | exitTest => True
  | taskExitTest => True
  | lockTask => True
  | front => True
  | pop _ => True
  | unlockTask _ => True
  | _ => False

/-- The thread is around its wait: it does not call anything before it has tested
`mExitSignal`. -/
def ThreadPosition.AroundWait : ThreadPosition T → Prop
  | notStarted => True
  | lock => True
  | wait => True
  | waiting => True
  | relock => True
  | exitTest => True
  | returned => True
  | _ => False

/-- The thread is in its wait, or goes into it without a test of `mExitSignal`. -/
def ThreadPosition.ToWait : ThreadPosition T → Prop
  | lock => True
  | wait => True
  | waiting => True
  | _ => False

/-- The destructor has been entered. -/
def DestructorPosition.Entered : DestructorPosition → Prop
  | notEntered => False
  | _ => True

/-- The destructor owns `mMainThreadMutex`. -/
def DestructorPosition.OwnsMain : DestructorPosition → Prop
  | setExitSignal => True
  | unlock => True
  | _ => False

/-- The destructor has got `mMainThreadMutex`. -/
def DestructorPosition.HasLocked : DestructorPosition → Prop
  | notEntered => False
  | lock => False
  | _ => True

/-- `mExitSignal` has been set, and `notify_all` issued. -/
def DestructorPosition.HasNotified : DestructorPosition → Prop
  | join => True
  | done => True
  | _ => False

/-! ### The property and the condition -/

/-- The step is the beginning of a call of `run`. -/
def StartsRun [DecidableEq ι] (s : WorkerThread T ι) (e : Event T ι) : Prop :=
  s.thread ≠ .run ∧ (s.next e).thread = .run

/-- The step is the beginning of a call of `runTask`. -/
def StartsTask (s : WorkerThread T ι) (e : Event T ι) : Prop :=
  ∃ task, s.out e = .started task

/-- The thread goes into its wait. -/
def EntersWait [DecidableEq ι] (s : WorkerThread T ι) (e : Event T ι) : Prop :=
  s.thread ≠ .waiting ∧ (s.next e).thread = .waiting

/-- The step is one a thread that has been asked to stop may take. -/
structure HonoursStop [DecidableEq ι] (s : WorkerThread T ι) (e : Event T ι) : Prop where
  run : s.destructor.Entered → ¬ StartsRun s e
  task : s.destructor.Entered → ¬ StartsTask s e
  wait : s.destructor.HasNotified → ¬ EntersWait s e

/-- The destructor is entered while the thread is not on its way to a call; as long as it waits for
the mutex, the thread does not get it either, and finds no task; and `notify_all` comes when the
thread has got to its first wait, and is not started later. -/
def LetsStop (s : WorkerThread T ι) : Event T ι → Prop
  | .startThread => ¬ s.destructor.HasNotified
  | .thread => s.destructor = .lock →
    (s.thread = .relock → s.mMainThreadMutex ≠ none) ∧ (s.thread = .sizeTest → s.mTasks = [])
  | .destructor =>
    (s.destructor = .notEntered → ¬ s.thread.BeforeCall) ∧
      (s.destructor = .notify → s.thread ≠ .lock ∧ s.thread ≠ .wait)
  | _ => True

/-! ### Who owns the mutex -/

/-- `mMainThreadMutex` is owned by the thread and by the destructor exactly where they own it. -/
structure Owned (s : WorkerThread T ι) : Prop where
  thread : s.thread.OwnsMain ↔ s.mMainThreadMutex = some .thread
  destructor : s.destructor.OwnsMain ↔ s.mMainThreadMutex = some .destructor

section

variable {s s' : WorkerThread T ι}

/-- A step that leaves the mutex alone, and everybody on his side of it. -/
theorem Owned.of_eq (h : Owned s) (hthread : s'.thread.OwnsMain ↔ s.thread.OwnsMain)
    (hdestructor : s'.destructor.OwnsMain ↔ s.destructor.OwnsMain)
    (hmutex : s'.mMainThreadMutex = s.mMainThreadMutex) : Owned s' where
  thread := by rw [hthread, hmutex, h.thread]
  destructor := by rw [hdestructor, hmutex, h.destructor]

/-- The two never own the mutex at once. -/
theorem Owned.not_both (h : Owned s) (hthread : s.thread.OwnsMain) : ¬ s.destructor.OwnsMain := by
  intro hdestructor
  have hmutex := h.thread.mp hthread
  rw [h.destructor.mp hdestructor] at hmutex
  cases hmutex

/-- The thread that locks the mutex owns it. -/
theorem Owned.lockMain (h : Owned s) {p : ThreadPosition T} (hp : p.OwnsMain) :
    Owned (s.lockMain p) := by
  unfold WorkerThread.lockMain
  split
  · next hmutex =>
    -- the mutex is free, so the destructor is not between its lock and its unlock
    have hdestructor : ¬ s.destructor.OwnsMain := by simp [h.destructor, hmutex]
    exact ⟨by simp [hp], by simp [hdestructor]⟩
  · exact h

theorem Owned.lockTasks (h : Owned s) (hthread : s.thread.OwnsMain) {p : ThreadPosition T}
    (hp : p.OwnsMain) : Owned (s.lockTasks p) := by
  unfold WorkerThread.lockTasks
  split
  · exact h.of_eq (iff_of_true hp hthread) Iff.rfl rfl
  · exact h

/-- The thread gives the mutex away. -/
theorem Owned.release (h : Owned s) (hthread : s.thread.OwnsMain) {p : ThreadPosition T}
    (hp : ¬ p.OwnsMain) : Owned { s with mMainThreadMutex := none, thread := p } where
  thread := iff_of_false hp nofun
  destructor := iff_of_false (h.not_both hthread) nofun

theorem Owned.notify (h : Owned s) : Owned s.notify := by
  unfold WorkerThread.notify
  split
  · next hthread => exact h.of_eq (by rw [hthread]; exact Iff.rfl) Iff.rfl rfl
  · exact h

theorem Owned.threadStep (h : Owned s) : Owned s.threadStep := by
  obtain ⟨_, _, mExitSignal, mTasks, _, thread, _, _, _⟩ := s
  cases thread with
  | lock => exact h.lockMain trivial
  | wait => exact h.release trivial id
  | relock => exact h.lockMain trivial
  | exitTest =>
    cases mExitSignal with
    | false => exact h.of_eq Iff.rfl Iff.rfl rfl
    | true => exact h.release trivial id
  | sizeTest =>
    cases mTasks with
    | nil => exact h.of_eq Iff.rfl Iff.rfl rfl
    | cons task tasks => exact h.of_eq Iff.rfl Iff.rfl rfl
  | taskExitTest =>
    cases mExitSignal with
    | false => exact h.of_eq Iff.rfl Iff.rfl rfl
    | true => exact h.release trivial id
  | lockTask => exact h.lockTasks trivial trivial
  | front =>
    cases mTasks with
    | nil => exact h.of_eq Iff.rfl Iff.rfl rfl
    | cons task tasks => exact h.of_eq Iff.rfl Iff.rfl rfl
  | pop task =>
    cases mTasks with
    | nil => exact h.of_eq Iff.rfl Iff.rfl rfl
    | cons head tasks => exact h.of_eq Iff.rfl Iff.rfl rfl
  | relockTask task => exact h.lockTasks trivial trivial
  | _ => exact h.of_eq Iff.rfl Iff.rfl rfl

theorem Owned.runEnds (h : Owned s) (result : Except Exception Unit) :
    Owned (s.runEnds result) := by
  unfold WorkerThread.runEnds
  split
  · next hthread => exact h.of_eq (by rw [hthread]; exact Iff.rfl) Iff.rfl rfl
  · next hthread =>
    simp only
    split_ifs
    · have howns : s.thread.OwnsMain := by rw [hthread]; trivial
      exact (h.release howns id).of_eq Iff.rfl Iff.rfl rfl
    · exact h.of_eq (by rw [hthread]; exact Iff.rfl) Iff.rfl rfl
  · exact h

theorem Owned.runTaskEnds (h : Owned s) (result : Except Exception TaskControl) :
    Owned (s.runTaskEnds result) := by
  unfold WorkerThread.runTaskEnds
  split
  · next hthread => exact h.of_eq (by rw [hthread]; exact Iff.rfl) Iff.rfl rfl
  · next hthread => exact h.of_eq (by rw [hthread]; exact Iff.rfl) Iff.rfl rfl
  · next hthread => exact h.of_eq (by rw [hthread]; exact Iff.rfl) Iff.rfl rfl
  · exact h

@[simp] theorem notify_destructor (s : WorkerThread T ι) : s.notify.destructor = s.destructor := by
  unfold WorkerThread.notify
  split <;> rfl

theorem Owned.destructorStep (h : Owned s) : Owned s.destructorStep := by
  unfold WorkerThread.destructorStep
  split
  · next hdestructor => exact h.of_eq Iff.rfl (by rw [hdestructor]; exact Iff.rfl) rfl
  · split
    · next hmutex =>
      exact ⟨iff_of_false (by simp [h.thread, hmutex]) nofun, iff_of_true trivial rfl⟩
    · exact h
  · next hdestructor => exact h.of_eq Iff.rfl (by rw [hdestructor]; exact Iff.rfl) rfl
  · next hdestructor =>
    have hthread : ¬ s.thread.OwnsMain :=
      fun howns => h.not_both howns (by rw [hdestructor]; trivial)
    exact ⟨iff_of_false hthread nofun, iff_of_false id nofun⟩
  · next hdestructor =>
    exact h.notify.of_eq Iff.rfl (by rw [notify_destructor, hdestructor]; exact Iff.rfl) rfl
  · next hdestructor =>
    split
    · exact h.of_eq Iff.rfl (by rw [hdestructor]; exact Iff.rfl) rfl
    · exact h.of_eq Iff.rfl (by rw [hdestructor]; exact Iff.rfl) rfl
    · exact h
  · exact h

variable [DecidableEq ι]

theorem Owned.callerStep (h : Owned s) (i : ι) : Owned (s.callerStep i) := by
  unfold WorkerThread.callerStep
  split
  · exact h
  · split
    · exact h.of_eq Iff.rfl Iff.rfl rfl
    · exact h
  · exact h.of_eq Iff.rfl Iff.rfl rfl
  · exact h.of_eq Iff.rfl Iff.rfl rfl
  · exact h.notify.of_eq Iff.rfl Iff.rfl rfl

/-- **Step.** -/
theorem Owned.next (h : Owned s) (e : Event T ι) : Owned (s.next e) := by
  cases e with
  | startThread =>
    rw [WorkerThread.next]
    split
    · next hthread => exact h.of_eq (by rw [hthread]; exact Iff.rfl) Iff.rfl rfl
    · exact h
  | thread => exact h.threadStep
  | timeout =>
    rw [WorkerThread.next]
    split
    · next hthread =>
      split_ifs
      · exact h
      · exact h.of_eq (by rw [hthread]; exact Iff.rfl) Iff.rfl rfl
    · exact h
  | spuriousWakeUp => exact h.notify
  | runEnds result => exact h.runEnds result
  | runTaskEnds result => exact h.runTaskEnds result
  | pushTask i task =>
    rw [WorkerThread.next]
    split
    · exact h.of_eq Iff.rfl Iff.rfl rfl
    · exact h
  | caller i => exact h.callerStep i
  | destructor => exact h.destructorStep

end

/-! ### Where a step leads -/

section

variable {mExitSignal : Bool} {e : Event T ι} {p p' : ThreadPosition T} {q q' : List T}
  {o : Output T}

/-- The thread gets on its way to a call out of its wait, or when it finds a task. -/
theorem Moves.beforeCall (h : Moves mExitSignal e p q o p' q') (hp' : p'.BeforeCall) :
    p.BeforeCall ∨ (e = .thread ∧ p = .relock ∧ p' = .exitTest) ∨
      (e = .thread ∧ p = .sizeTest ∧ q ≠ []) := by
  cases h with
  | stay => exact .inl hp'
  | push => exact .inl hp'
  | relock => exact .inr (.inl ⟨rfl, rfl, rfl⟩)
  | someTask task q => exact .inr (.inr ⟨rfl, rfl, List.cons_ne_nil task q⟩)
  | taskGoOn => exact .inl trivial
  | lockTask => exact .inl trivial
  | front => exact .inl trivial
  | pop => exact .inl trivial
  | _ => exact absurd hp' id

/-- With `mExitSignal` set, the thread stays around its wait. -/
theorem Moves.aroundWait (h : Moves mExitSignal e p q o p' q') (hp : p.AroundWait)
    (hexit : p = .exitTest → mExitSignal = true) : p'.AroundWait := by
  cases h with
  | stay => exact hp
  | push => exact hp
  | run q hfalse =>
    -- the flag is set, so the test after the wait does not let the thread on to `run`
    rw [hexit rfl] at hfalse
    cases hfalse
  | start => trivial
  | lock => trivial
  | wait => trivial
  | wake => trivial
  | relock => trivial
  | exit => trivial
  | _ => exact absurd hp id

/-- Around its wait, the thread only gets to the wait when it is started. -/
theorem Moves.toWait (h : Moves mExitSignal e p q o p' q') (hp : p.AroundWait) (hp' : p'.ToWait) :
    p.ToWait ∨ e = .startThread := by
  cases h with
  | stay => exact .inl hp'
  | push => exact .inl hp'
  | start => exact .inr rfl
  | lock => exact .inl trivial
  | wait => exact .inl trivial
  | noTask => exact absurd hp id
  | _ => exact absurd hp' id

/-- `run` is called right after the test of `mExitSignal`. -/
theorem Moves.startsRun (h : Moves mExitSignal e p q o .run q') (hp : p ≠ .run) :
    p = .exitTest ∧ mExitSignal = false := by
  cases h with
  | stay => exact absurd rfl hp
  | push => exact absurd rfl hp
  | run q hfalse => exact ⟨rfl, hfalse⟩

theorem Moves.startsTask {task : T} (h : Moves mExitSignal e p q (.started task) p' q') :
    p = .unlockTask task := by
  cases h
  rfl

theorem Moves.entersWait (h : Moves mExitSignal e p q o .waiting q') (hp : p ≠ .waiting) :
    p = .wait := by
  cases h with
  | stay => exact absurd rfl hp
  | push => exact absurd rfl hp
  | wait => rfl

end

/-! ### The test in the loop -/

/-- A thread that does not own the mutex is around its wait. -/
theorem aroundWait_of_not_ownsMain {p : ThreadPosition T} (h : ¬ p.OwnsMain) : p.AroundWait := by
  cases p with
  | notStarted => trivial
  | lock => trivial
  | waiting => trivial
  | relock => trivial
  | returned => trivial
  | _ => exact absurd trivial h

/-- What holds between any two steps of a run. -/
structure Guarded (s : WorkerThread T ι) : Prop where
  owned : Owned s
  signal : s.destructor.HasLocked → s.destructor ≠ .setExitSignal → s.mExitSignal = true
  around : s.mExitSignal = true → s.thread.AroundWait

/-- Once the destructor has got the mutex, the thread does not leave the surroundings of its
wait. -/
theorem Guarded.aroundWait {s : WorkerThread T ι} (h : Guarded s)
    (hlocked : s.destructor.HasLocked) : s.thread.AroundWait := by
  by_cases hset : s.destructor = .setExitSignal
  · -- the flag is not set yet, but the destructor owns the mutex, and so the thread does not
    exact aroundWait_of_not_ownsMain fun howns => h.owned.not_both howns (by rw [hset]; trivial)
  · exact h.around (h.signal hlocked hset)

section

variable [DecidableEq ι] {s : WorkerThread T ι}

theorem Guarded.destructor (h : Guarded s) : Guarded (s.next .destructor) := by
  have howned : Owned s.destructorStep := h.owned.destructorStep
  show Guarded s.destructorStep
  unfold WorkerThread.destructorStep at howned ⊢
  cases hdestructor : s.destructor with
  | notEntered =>
    rw [hdestructor] at howned
    exact ⟨howned, nofun, h.around⟩
  | lock =>
    simp only [hdestructor] at howned ⊢
    cases hmutex : s.mMainThreadMutex with
    | none =>
      rw [hmutex] at howned
      exact ⟨howned, fun _ hne => absurd rfl hne, h.around⟩
    | some _ => exact h
  | setExitSignal =>
    rw [hdestructor] at howned
    have haround : s.thread.AroundWait := h.aroundWait (by rw [hdestructor]; trivial)
    exact ⟨howned, fun _ _ => rfl, fun _ => haround⟩
  | unlock =>
    rw [hdestructor] at howned
    have hsignal : s.mExitSignal = true :=
      h.signal (by rw [hdestructor]; trivial) (by rw [hdestructor]; nofun)
    exact ⟨howned, fun _ _ => hsignal, h.around⟩
  | notify =>
    rw [hdestructor] at howned
    have hsignal : s.mExitSignal = true :=
      h.signal (by rw [hdestructor]; trivial) (by rw [hdestructor]; nofun)
    simp only
    by_cases hwaiting : s.thread = .waiting
    · rw [notify_of_waiting hwaiting] at howned ⊢
      exact ⟨howned, fun _ _ => hsignal, fun _ => trivial⟩
    · rw [notify_of_ne hwaiting] at howned ⊢
      exact ⟨howned, fun _ _ => hsignal, h.around⟩
  | join =>
    have hsignal : s.mExitSignal = true :=
      h.signal (by rw [hdestructor]; trivial) (by rw [hdestructor]; nofun)
    simp only [hdestructor] at howned ⊢
    split at howned
    · exact ⟨howned, fun _ _ => hsignal, h.around⟩
    · exact ⟨howned, fun _ _ => hsignal, h.around⟩
    · exact h
  | done => exact h

/-- **Step.** -/
theorem Guarded.next (h : Guarded s) (e : Event T ι) : Guarded (s.next e) := by
  by_cases he : e = .destructor
  · subst he
    exact h.destructor
  · refine ⟨h.owned.next e, ?_, ?_⟩
    · rw [next_destructor s he, next_mExitSignal s he]
      exact h.signal
    · rw [next_mExitSignal s he]
      exact fun hsignal => (next_moves s e).aroundWait (h.around hsignal) fun _ => hsignal

/-- **Run.** -/
theorem guarded_run (callFrequencySeconds : ℤ) (events : List (Event T ι)) :
    Guarded ((machine T ι).run (.new callFrequencySeconds) events) :=
  Machine.run_induction ⟨⟨iff_of_false id nofun, iff_of_false id nofun⟩, nofun, nofun⟩
    fun e _ _ h => h.next e

/-- The thread owns `mMainThreadMutex` all through the loop over the tasks, so the test in it never
finds `mExitSignal` set. -/
theorem mExitSignal_of_taskExitTest (callFrequencySeconds : ℤ) (events : List (Event T ι)) :
    let s := (machine T ι).run (.new callFrequencySeconds) events
    s.thread = .taskExitTest → s.mExitSignal = false := by
  intro s htest
  have hguarded : Guarded s := guarded_run callFrequencySeconds events
  by_contra hsignal
  have haround := hguarded.around (eq_true_of_ne_false hsignal)
  rw [htest] at haround
  exact haround

/-! ### Runs that let the thread stop -/

/-- What holds between any two steps that let the thread stop. -/
structure Stopping (s : WorkerThread T ι) : Prop where
  guarded : Guarded s
  asked : s.destructor = .lock → ¬ s.thread.BeforeCall
  notified : s.destructor.HasNotified → ¬ s.thread.ToWait

theorem DestructorPosition.HasNotified.hasLocked {p : DestructorPosition} (h : p.HasNotified) :
    p.HasLocked := by
  cases p with
  | join => trivial
  | done => trivial
  | _ => exact absurd h id

/-- The destructor moves on. -/
theorem Stopping.destructor (h : Stopping s) (hlets : LetsStop s .destructor) :
    Stopping (s.next .destructor) := by
  have hguarded : Guarded s.destructorStep := h.guarded.destructor
  show Stopping s.destructorStep
  unfold WorkerThread.destructorStep at hguarded ⊢
  cases hdestructor : s.destructor with
  | notEntered =>
    rw [hdestructor] at hguarded
    exact ⟨hguarded, fun _ => hlets.1 hdestructor, nofun⟩
  | lock =>
    simp only [hdestructor] at hguarded ⊢
    cases hmutex : s.mMainThreadMutex with
    | none =>
      rw [hmutex] at hguarded
      exact ⟨hguarded, nofun, nofun⟩
    | some _ => exact h
  | notify =>
    rw [hdestructor] at hguarded
    -- a thread in its wait is woken up, and any other is not on its way into it
    obtain ⟨hlock, hwait⟩ := hlets.2 hdestructor
    simp only
    by_cases hwaiting : s.thread = .waiting
    · rw [notify_of_waiting hwaiting] at hguarded ⊢
      exact ⟨hguarded, nofun, fun _ => id⟩
    · rw [notify_of_ne hwaiting] at hguarded ⊢
      have hto : ¬ s.thread.ToWait := by
        cases hthread : s.thread with
        | lock => exact absurd hthread hlock
        | wait => exact absurd hthread hwait
        | waiting => exact absurd hthread hwaiting
        | _ => exact id
      exact ⟨hguarded, nofun, fun _ => hto⟩
  | join =>
    have hto : ¬ s.thread.ToWait := h.notified (by rw [hdestructor]; trivial)
    simp only [hdestructor] at hguarded ⊢
    split at hguarded
    · exact ⟨hguarded, nofun, fun _ => hto⟩
    · exact ⟨hguarded, nofun, fun _ => hto⟩
    · exact h
  | done => exact h
  | _ =>
    rw [hdestructor] at hguarded
    exact ⟨hguarded, nofun, nofun⟩

/-- Anybody else moves. -/
theorem Stopping.next_of_ne (h : Stopping s) {e : Event T ι} (he : e ≠ .destructor)
    (hlets : LetsStop s e) : Stopping (s.next e) where
  guarded := h.guarded.next e
  asked := by
    rw [next_destructor s he]
    intro hdestructor hbefore
    rcases (next_moves s e).beforeCall hbefore with hbefore | ⟨rfl, hrelock, hexit⟩ |
      ⟨rfl, hsize, htasks⟩
    · exact h.asked hdestructor hbefore
    · exact (hlets hdestructor).1 hrelock (mMainThreadMutex_of_relock hrelock hexit)
    · exact htasks ((hlets hdestructor).2 hsize)
  notified := by
    rw [next_destructor s he]
    intro hdestructor hto
    rcases (next_moves s e).toWait (h.guarded.aroundWait hdestructor.hasLocked) hto with hto | rfl
    · exact h.notified hdestructor hto
    · exact hlets hdestructor

/-- **Step.** -/
theorem Stopping.next (h : Stopping s) {e : Event T ι} (hlets : LetsStop s e) :
    Stopping (s.next e) := by
  by_cases he : e = .destructor
  · subst he
    exact h.destructor hlets
  · exact h.next_of_ne he hlets

/-- A destructor that has been entered waits for the mutex, or has got it. -/
theorem DestructorPosition.Entered.eq_lock_or {p : DestructorPosition} (h : p.Entered) :
    p = .lock ∨ p.HasLocked := by
  cases p with
  | notEntered => exact absurd h id
  | lock => exact .inl rfl
  | _ => exact .inr trivial

theorem Stopping.honoursStop (h : Stopping s) (e : Event T ι) : HonoursStop s e where
  run := by
    rintro hentered ⟨hne, hrun⟩
    have hmoves := next_moves s e
    rw [hrun] at hmoves
    obtain ⟨hexit, hsignal⟩ := hmoves.startsRun hne
    rcases hentered.eq_lock_or with hlock | hlocked
    · exact h.asked hlock (by rw [hexit]; trivial)
    · by_cases hset : s.destructor = .setExitSignal
      · exact h.guarded.owned.not_both (by rw [hexit]; trivial) (by rw [hset]; trivial)
      · rw [h.guarded.signal hlocked hset] at hsignal
        cases hsignal
  task := by
    rintro hentered ⟨task, hstarted⟩
    have hmoves := next_moves s e
    rw [hstarted] at hmoves
    have hthread := hmoves.startsTask
    rcases hentered.eq_lock_or with hlock | hlocked
    · exact h.asked hlock (by rw [hthread]; trivial)
    · have haround := h.guarded.aroundWait hlocked
      rw [hthread] at haround
      exact haround
  wait := by
    rintro hnotified ⟨hne, hwaiting⟩
    have hmoves := next_moves s e
    rw [hwaiting] at hmoves
    exact h.notified hnotified (by rw [hmoves.entersWait hne]; trivial)

/-- **A request to stop is heeded** in every run that lets it.  If the destructor is entered while
the thread is not on its way to a call and gets the mutex before the thread gets it back or finds
another task, then the thread starts no `run` and no task any more; and if it has got to its first
wait when `notify_all` is issued, it never goes into a wait again. -/
theorem honoursStop_of_run (callFrequencySeconds : ℤ) (events : List (Event T ι))
    (h : (machine T ι).Always LetsStop (.new callFrequencySeconds) events) :
    (machine T ι).Always HonoursStop (.new callFrequencySeconds) events := by
  have hstart : Stopping (.new callFrequencySeconds : WorkerThread T ι) :=
    ⟨guarded_run callFrequencySeconds [], nofun, fun _ => id⟩
  exact h.of_induction hstart (fun _ _ hs he => hs.next he) fun _ e hs _ => hs.honoursStop e

/-- The thread is in its wait, and a task has just been pushed, when the owner asks it to stop. -/
theorem honoursStop_of_waiting :
    let events : List (Event ℕ Bool) :=
      [.startThread, .thread, .thread, .pushTask true 7, .caller true, .caller true, .destructor,
        .destructor, .destructor, .destructor, .destructor, .thread, .thread, .destructor]
    (machine ℕ Bool).Always HonoursStop (.new 60) events := by
  intro events
  refine honoursStop_of_run 60 events ⟨id, nofun, nofun, trivial, trivial, trivial, ?_⟩
  exact ⟨⟨fun _ => id, nofun⟩, ⟨nofun, nofun⟩, ⟨nofun, nofun⟩, ⟨nofun, nofun⟩,
    ⟨nofun, fun _ => ⟨nofun, nofun⟩⟩, nofun, nofun, ⟨nofun, nofun⟩, trivial⟩

/-- The destructor is entered during `run`, and the task in the queue is started all the same. -/
theorem stop_not_honoured :
    ¬ ∀ (callFrequencySeconds : ℤ) (events : List (Event ℕ Bool)),
      (machine ℕ Bool).Always HonoursStop (.new callFrequencySeconds) events := by
  intro h
  have hlast := (h 60 ([.startThread, .thread, .thread, .pushTask true 7, .caller true,
    .caller true, .caller true, .caller true, .thread, .thread, .destructor, .runEnds (.ok ()),
    .thread, .thread, .thread, .thread, .thread] ++ [.thread])).mid
  exact hlast.task trivial ⟨7, rfl⟩

/-- A thread that finds a task while the destructor waits for the mutex starts it. -/
theorem out_of_sizeTest {s : WorkerThread T ι} {task : T} {tasks : List T}
    (hthread : s.thread = .sizeTest) (htasks : s.mTasks = task :: tasks)
    (hsignal : s.mExitSignal = false) (hmutex : s.mTasksMutex = none) :
    let s' := (machine T ι).run s [.thread, .thread, .thread, .thread, .thread]
    s'.destructor = s.destructor ∧ s'.out .thread = .started task := by
  obtain ⟨_, _, _, _, _, _, _, _, _⟩ := s
  cases hthread
  cases htasks
  cases hsignal
  cases hmutex
  exact ⟨rfl, rfl⟩

/-- A thread that has not come to its first wait when `notify_all` is issued goes into it. -/
theorem entersWait_of_lock {s : WorkerThread T ι} (hdestructor : s.destructor = .notify)
    (hthread : s.thread = .lock) (hmutex : s.mMainThreadMutex = none) :
    let s' := (machine T ι).run s [.destructor, .thread]
    s'.destructor.HasNotified ∧ EntersWait s' .thread := by
  obtain ⟨_, _, _, _, _, _, _, _, _⟩ := s
  cases hdestructor
  cases hthread
  cases hmutex
  exact ⟨trivial, nofun, rfl⟩

end

end GdtCache.BackgroundTasks
