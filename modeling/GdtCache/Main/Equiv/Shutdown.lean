import GdtCache.BackgroundTasks.Equiv.WorkerThread
import GdtCache.Main.Shutdown

/-!
# When shutdown is safe

Nothing stops the worker before `~WorkerThread` sets `mExitSignal`, which is after `g_Config` was
deleted.  A worker that is not on its way to a call then, and neither comes out of a wait nor finds
a task before `mExitSignal` is set, uses nothing any more (`Inv.quiet`); any other may.
-/

namespace GdtCache

open GdtCache.Lib GdtCache.Model GdtCache.BackgroundTasks

/-- What is used is there. -/
def BackgroundTasks.Use.Allowed {ι : Type} (s : Shutdown ι) : Use → Prop
  | run => s.g_Config = .valid
  | runTask => s.g_Config = .valid
  | config => s.g_Config = .valid
  | connection => s.mDBConnection = true

/-- The thread waits, or tests the queue, or returns, before it calls `run` or `runTask`. -/
def BackgroundTasks.ThreadPosition.Quiet {T : Type} (mExitSignal : Bool) : ThreadPosition T → Prop
  | exitTest => mExitSignal = true
  | taskExitTest => mExitSignal = true
  | lockTask => False
  | front => False
  | pop _ => False
  | unlockTask _ => False
  | _ => True

namespace Shutdown

variable {ι : Type}

/-- The worker is neither in a call nor on its way to one. -/
structure Quiet (s : Shutdown ι) : Prop where
  thread : s.worker.thread.Quiet s.worker.mExitSignal
  body : s.body = .idle

/-- The step deletes `g_Config` while the worker is in a call or on its way to one. -/
def DeletesInUse (s : Shutdown ι) : ShutdownEvent ι → Prop
  | .main => s.main = .deleteConfig ∧ ¬ s.Quiet
  | _ => False

/-- `g_Config` was deleted and `mExitSignal` is not set yet, and with the step the worker comes out
of a wait or finds a task. -/
def Revives (s : Shutdown ι) : ShutdownEvent ι → Prop
  | .worker .thread => s.g_Config ≠ .valid ∧ s.worker.mExitSignal = false ∧
    (s.worker.thread = .relock ∧ s.worker.mMainThreadMutex = none ∨
      s.worker.thread = .sizeTest ∧ s.worker.mTasks ≠ [])
  | _ => False

/-- What holds between any two steps. -/
structure Inv (s : Shutdown ι) : Prop where
  quiet : s.g_Config ≠ .valid → s.Quiet
  main : s.main ≠ .serve → s.main ≠ .deleteConfig → s.g_Config ≠ .valid
  connection : s.mDBConnection = false → s.g_Config ≠ .valid

theorem Inv.serving : (serving : Shutdown ι).Inv :=
  ⟨fun h => absurd rfl h, fun h => absurd rfl h, nofun⟩

/-- Nothing is used any more. -/
theorem Quiet.uses {s : Shutdown ι} (h : s.Quiet) (e : ShutdownEvent ι) : s.uses e = [] := by
  obtain ⟨hthread, hbody⟩ := h
  cases e with
  | worker e =>
    cases e with
    | thread =>
      rw [Shutdown.uses]
      cases hposition : s.worker.thread with
      | exitTest =>
        rw [hposition] at hthread
        exact if_pos hthread
      | unlockTask task =>
        rw [hposition] at hthread
        exact absurd hthread id
      | _ => rfl
    | _ => rfl
  | body goesOn =>
    rw [Shutdown.uses, hbody]
    rfl
  | main => rfl

theorem Inv.allowed {s : Shutdown ι} (h : s.Inv) (e : ShutdownEvent ι) :
    ∀ use ∈ s.uses e, use.Allowed s := by
  intro use huse
  by_cases hconfig : s.g_Config = .valid
  · have hconnection : s.mDBConnection = true := by
      by_contra hgone
      exact h.connection (Bool.eq_false_iff.mpr hgone) hconfig
    cases use with
    | connection => exact hconnection
    | _ => exact hconfig
  · rw [(h.quiet hconfig).uses e] at huse
    cases huse

/-! ### A quiet thread -/

section Threads

variable {T : Type} {mExitSignal : Bool} {e : Event T ι} {p p' : ThreadPosition T} {q q' : List T}
  {o : Output T}

/-- A quiet thread stays quiet unless it comes out of a wait or finds a task. -/
theorem quiet_of_moves (h : Moves mExitSignal e p q o p' q') (hp : p.Quiet mExitSignal)
    (hrelock : e = .thread → p = .relock → p' = .exitTest → mExitSignal = true)
    (hsize : e = .thread → p = .sizeTest → q ≠ [] → mExitSignal = true) :
    p'.Quiet mExitSignal := by
  cases h with
  | stay => exact hp
  | push => exact hp
  | relock => exact hrelock rfl rfl rfl
  | someTask => exact hsize rfl rfl (by simp)
  | taskGoOn _ h => simp [ThreadPosition.Quiet, h] at hp
  | lockTask => exact hp
  | front => exact hp
  | pop => exact hp
  | _ => trivial

/-- A quiet thread enters no body. -/
theorem enter_of_quiet {e : Event String ι} {p p' : ThreadPosition String} {q q' : List String}
    {o : Output String} (h : Moves mExitSignal e p q o p' q') (hp : p.Quiet mExitSignal)
    (body : Body) : body.enter p p' = body := by
  cases h with
  | stay => cases p <;> rfl
  | push => cases p <;> rfl
  | run _ h => simp [ThreadPosition.Quiet, h] at hp
  | startTask => exact absurd hp id
  | _ => rfl

end Threads

theorem quiet_mono {T : Type} {mExitSignal mExitSignal' : Bool} {p : ThreadPosition T}
    (h : p.Quiet mExitSignal) (hexit : mExitSignal = true → mExitSignal' = true) :
    p.Quiet mExitSignal' := by
  cases p with
  | exitTest => exact hexit h
  | taskExitTest => exact hexit h
  | _ => exact h

variable [DecidableEq ι] {config : Config}

/-- A quiet worker stays quiet unless it is revived. -/
theorem Quiet.worker {s : Shutdown ι} (h : s.Quiet) (hconfig : s.g_Config ≠ .valid)
    {e : Event String ι} (hpermits : s.permits e) (he : ¬ s.Revives (.worker e)) :
    (s.next config (.worker e)).Quiet := by
  rw [Shutdown.next, if_pos hpermits]
  have hdestructor : e ≠ .destructor := by
    rintro rfl
    cases hpermits
  have hexit := next_mExitSignal s.worker hdestructor
  have hmoves := next_moves s.worker e
  constructor
  · show ThreadPosition.Quiet (s.worker.next e).mExitSignal (s.worker.next e).thread
    rw [hexit]
    refine quiet_of_moves hmoves h.thread ?_ ?_
    · rintro rfl hthread hnext
      by_contra hnot
      exact he ⟨hconfig, Bool.eq_false_iff.mpr hnot,
        .inl ⟨hthread, mMainThreadMutex_of_relock hthread hnext⟩⟩
    · rintro rfl hthread htasks
      by_contra hnot
      exact he ⟨hconfig, Bool.eq_false_iff.mpr hnot, .inr ⟨hthread, htasks⟩⟩
  · show s.body.enter _ _ = .idle
    rw [enter_of_quiet hmoves h.thread, h.body]

/-- What `main` does leaves a quiet worker quiet. -/
theorem Quiet.main {s : Shutdown ι} (h : s.Quiet) : s.mainStep.Quiet := by
  unfold mainStep
  cases s.main with
  | workerThread =>
    refine ⟨?_, h.body⟩
    have hmoves := next_moves s.worker .destructor
    exact quiet_mono (quiet_of_moves hmoves h.thread nofun nofun) mExitSignal_of_destructor
  | _ => exact ⟨h.thread, h.body⟩

/-- **Step.** -/
theorem Inv.next {s : Shutdown ι} (h : s.Inv) {e : ShutdownEvent ι} (hdeletes : ¬ s.DeletesInUse e)
    (hrevives : ¬ s.Revives e) : (s.next config e).Inv := by
  cases e with
  | worker e =>
    by_cases hpermits : s.permits e
    · have hquiet : s.g_Config ≠ .valid → (s.next config (.worker e)).Quiet := fun hconfig =>
        (h.quiet hconfig).worker hconfig hpermits hrevives
      rw [Shutdown.next, if_pos hpermits] at hquiet ⊢
      exact ⟨hquiet, h.main, h.connection⟩
    · rw [Shutdown.next, if_neg hpermits]
      exact h
  | body goesOn =>
    refine ⟨fun hconfig => ?_, h.main, h.connection⟩
    obtain ⟨hthread, hbody⟩ := h.quiet hconfig
    exact ⟨hthread, by rw [Shutdown.next, hbody, Body.next]⟩
  | main =>
    have hquiet : s.g_Config ≠ .valid → s.mainStep.Quiet := fun hconfig => (h.quiet hconfig).main
    show s.mainStep.Inv
    have hmain := h.main
    unfold mainStep at hquiet ⊢
    cases hposition : s.main with
    | serve =>
      rw [hposition] at hquiet
      exact ⟨hquiet, fun _ hdelete => absurd rfl hdelete, h.connection⟩
    | deleteConfig =>
      -- the only step that needs the worker to be quiet
      have hbefore : s.Quiet := by
        by_contra hnot
        exact hdeletes ⟨hposition, hnot⟩
      exact ⟨fun _ => ⟨hbefore.thread, hbefore.body⟩, nofun, nofun⟩
    | resetConfig =>
      rw [hposition] at hquiet hmain
      exact ⟨fun _ => hquiet (hmain nofun nofun), nofun, nofun⟩
    | updateCacheWorker =>
      rw [hposition] at hquiet hmain
      exact ⟨hquiet, fun _ _ => hmain nofun nofun, h.connection⟩
    | mDBConnection =>
      rw [hposition] at hquiet hmain
      exact ⟨hquiet, fun _ _ => hmain nofun nofun, fun _ => hmain nofun nofun⟩
    | workerThread =>
      rw [hposition] at hquiet
      exact ⟨hquiet, fun _ _ => hmain (by rw [hposition]; nofun) (by rw [hposition]; nofun),
        h.connection⟩

/-- **When shutdown is safe.**  In every run in which `g_Config` is not deleted while the worker is
in a call or on its way to one, and the worker neither comes out of a wait nor finds a task after
that and before `mExitSignal` is set, `run` and `runTask` are not called and `g_Config` is not read
after it was deleted, and `mDBConnection` is not copied after it was destroyed. -/
theorem allowed_of_run (config : Config) (events : List (ShutdownEvent ι))
    (h : (shutdown ι config).Always (fun s e => ¬ s.DeletesInUse e ∧ ¬ s.Revives e) serving events)
    (e : ShutdownEvent ι) :
    let s := (shutdown ι config).run serving events
    ∀ use ∈ (shutdown ι config).out s e, use.Allowed s := by
  intro s
  have hinv : s.Inv := h.run_induction .serving fun _ _ hs he => hs.next he.1 he.2
  exact hinv.allowed e

/-- The worker waits while `main` gets to `~WorkerThread`, and comes out of its wait when it is told
to exit. -/
theorem allowed_of_waiting :
    let events : List (ShutdownEvent Bool) :=
      [.worker .thread, .worker .thread, .main, .main, .main, .main, .main, .main, .main, .main,
        .main, .main, .worker .thread]
    let s := (shutdown Bool {}).run serving events
    s.worker.thread = .exitTest ∧ s.g_Config = .null ∧
      ∀ use ∈ (shutdown Bool {}).out s (.worker .thread), use.Allowed s := by
  intro events s
  refine ⟨rfl, rfl, allowed_of_run {} events ?_ _⟩
  have hvalid : ∀ {s : Shutdown Bool}, s.g_Config = .valid →
      ¬ s.DeletesInUse (.worker .thread) ∧ ¬ s.Revives (.worker .thread) :=
    fun hconfig => ⟨id, fun h => h.1 hconfig⟩
  have hmain : ∀ {s : Shutdown Bool}, s.main ≠ .deleteConfig →
      ¬ s.DeletesInUse .main ∧ ¬ s.Revives .main :=
    fun hposition => ⟨fun h => hposition h.1, id⟩
  refine ⟨hvalid rfl, hvalid rfl, hmain nofun, ⟨fun h => ?_, id⟩, hmain nofun, hmain nofun,
    hmain nofun, hmain nofun, hmain nofun, hmain nofun, hmain nofun, hmain nofun, ?_, trivial⟩
  · exact h.2 ⟨trivial, rfl⟩
  · exact ⟨id, fun h => nomatch h.2.1⟩

/-- A worker that comes out of its wait too early calls `run` next. -/
theorem run_of_relock {s : Shutdown ι} (hconfig : s.g_Config ≠ .valid)
    (hexit : s.worker.mExitSignal = false) (hthread : s.worker.thread = .relock)
    (hmutex : s.worker.mMainThreadMutex = none) :
    let s' := s.next config (.worker .thread)
    .run ∈ s'.uses (.worker .thread) ∧ ¬ Use.run.Allowed s' := by
  intro s'
  have hworker : s'.worker = { s.worker with
      mMainThreadMutex := some .thread, thread := .exitTest } := by
    show s.worker.threadStep = _
    rw [WorkerThread.threadStep, hthread]
    simp only
    rw [WorkerThread.lockMain, hmutex]
  refine ⟨?_, hconfig⟩
  rw [Shutdown.uses, hworker]
  simp [hexit]

/-- The minute of the wait is over when `main` has deleted `g_Config` and destroyed `mDBConnection`
and is about to stop the thread. -/
theorem not_allowed_of_timeout :
    ¬ ∀ (config : Config) (events : List (ShutdownEvent Bool)) (e : ShutdownEvent Bool),
      let s := (shutdown Bool config).run serving events
      ∀ use ∈ (shutdown Bool config).out s e, use.Allowed s := by
  intro h
  have hrun := h {} [.worker .thread, .worker .thread, .main, .main, .main, .main, .main,
    .worker .timeout, .worker .thread] (.worker .thread) .run (List.mem_singleton.mpr rfl)
  cases hrun

end Shutdown

end GdtCache
