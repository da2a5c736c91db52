import GdtCache.CacheServer.UpdateStatus

/-!
# When statuses tell the truth

A thread that works owns the mutex, and only one that works does (`Inv.owner`).  So a call that is
turned away with `RUNNING` is told the truth unless the owner is in a call of the other function,
`OK` is only returned when all steps of the work are done, and all a call that throws returns is
`SKIPPED` (`status_truthful_iff`).
-/

namespace GdtCache.CacheServer

open GdtCache.Lib GdtCache.Model GdtCache.Mysql

variable {ι : Type} {config : Config} {timeZone : TimeZone}

/-! ### Truthful statuses -/

/-- The call a thread is in. -/
def Phase.call? : Phase → Option StatusCall
  | idle => none
  | locking call => some call
  | working call _ _ => some call

/-- Thread `j` is in a call of the function. -/
def Updates.InProgress (s : Updates ι) (j : ι) (f : UpdateFunction) : Prop :=
  ∃ call, (s.phase j).call? = some call ∧ call.function = f

/-- **A truthful status**, for a call that returns from state `s`. -/
structure Truthful (config : Config) (s : Updates ι) (r : Return ι) : Prop where
  /-- Another call of the function is in progress. -/
  running : r.status = .RUNNING → ∃ j ≠ r.thread, s.InProgress j r.call.function
  /-- The timeout has not elapsed, and is not ignored. -/
  skipped : r.status = .SKIPPED →
    r.ending = .timeout ∧ s.elapsed config r.call = false ∧ r.call.ignoreTimeout = false
  /-- All the work is done, or nobody is whitelisted. -/
  ok : r.status = .OK → r.ending = .work (r.call.work.steps config) false ∨
    (r.call.function = .updateAllowedIps ∧ config.ipWhiteListing = false)
  /-- The work ended with an exception. -/
  threw : ∀ done, r.ending = .work done true → r.status = .ERROR

/-- The mutex is owned by a call of the other function, and no other call of its own function is
in progress. -/
def Updates.Shared (s : Updates ι) (i : ι) (call : StatusCall) : Prop :=
  ∃ j call' done rest, s.mGdtEntriesUpdateMutex = some j ∧ s.phase j = .working call' done rest ∧
    call'.function ≠ call.function ∧ ∀ k ≠ i, ¬ s.InProgress k call.function

/-- The step tries for the mutex while it is shared in that way. -/
def TriesShared (s : Updates ι) : UpdateEvent ι → Prop
  | .tryLock i => ∃ call, s.phase i = .locking call ∧ s.Shared i call
  | _ => False

/-- The step ends the work of a call with an exception. -/
def Throws (config : Config) (timeZone : TimeZone) (s : Updates ι) : UpdateEvent ι → Prop
  | .work i => ∃ call done step rest, s.phase i = .working call done (step :: rest) ∧
    s.execute config timeZone step = none
  | .throw i => ∃ call done rest, s.phase i = .working call done rest
  | _ => False

/-! ### The mutex -/

/-- What holds between any two steps. -/
structure Inv (config : Config) (s : Updates ι) : Prop where
  /-- The owner of the mutex works. -/
  owner : ∀ i, s.mGdtEntriesUpdateMutex = some i ↔
    ∃ call done rest, s.phase i = .working call done rest
  /-- A call has done some of its steps and has the others to do. -/
  steps : ∀ i call done rest, s.phase i = .working call done rest →
    done ++ rest = call.work.steps config

theorem Inv.start (server : CacheServer) (table : AllowedIps) :
    Inv config (Updates.start server table : Updates ι) :=
  ⟨fun _ => ⟨nofun, nofun⟩, nofun⟩

/-- What the threads share besides the mutex does not matter. -/
theorem Inv.congr {s s' : Updates ι} (h : Inv config s)
    (hmutex : s'.mGdtEntriesUpdateMutex = s.mGdtEntriesUpdateMutex) (hphase : s'.phase = s.phase) :
    Inv config s' := by
  obtain ⟨howner, hsteps⟩ := h
  rw [← hmutex, ← hphase] at howner
  rw [← hphase] at hsteps
  exact ⟨howner, hsteps⟩

section Phases

variable [DecidableEq ι] {s : Updates ι}

@[simp] theorem setPhase_self (s : Updates ι) (i : ι) (phase : Phase) :
    (s.setPhase i phase).phase i = phase :=
  Function.update_self ..

@[simp] theorem setPhase_of_ne (s : Updates ι) {i j : ι} (h : j ≠ i) (phase : Phase) :
    (s.setPhase i phase).phase j = s.phase j :=
  Function.update_of_ne h ..

/-- One thread moves, and owns the mutex if it works now; the others own it as before. -/
theorem Inv.move (h : Inv config s) {i : ι} {phase : Phase} {mutex : Option ι}
    (hothers : ∀ j ≠ i, mutex = some j ↔ s.mGdtEntriesUpdateMutex = some j)
    (howner : mutex = some i ↔ ∃ call done rest, phase = .working call done rest)
    (hsteps : ∀ call done rest, phase = .working call done rest →
      done ++ rest = call.work.steps config) :
    Inv config ({ s with mGdtEntriesUpdateMutex := mutex }.setPhase i phase) := by
  constructor
  · intro j
    by_cases hj : j = i
    · subst hj
      rw [setPhase_self]
      exact howner
    · rw [setPhase_of_ne _ hj]
      exact (hothers j hj).trans (h.owner j)
  · intro j call done rest heq
    by_cases hj : j = i
    · subst hj
      rw [setPhase_self] at heq
      exact hsteps call done rest heq
    · rw [setPhase_of_ne _ hj] at heq
      exact h.steps j call done rest heq

/-- A thread that does not own the mutex may go wherever it does not work. -/
theorem Inv.setPhase (h : Inv config s) {i : ι} {phase : Phase}
    (hi : s.mGdtEntriesUpdateMutex ≠ some i)
    (hphase : ∀ call done rest, phase ≠ .working call done rest) :
    Inv config (s.setPhase i phase) :=
  h.move (fun _ _ => Iff.rfl)
    (iff_of_false hi fun ⟨call, done, rest, heq⟩ => hphase call done rest heq)
    fun call done rest heq => absurd heq (hphase call done rest)

/-- The owner returns. -/
theorem Inv.release (h : Inv config s) {i : ι} (hi : s.mGdtEntriesUpdateMutex = some i) :
    Inv config (s.release i) := by
  refine h.move (fun j hj => iff_of_false nofun fun heq => ?_) ⟨nofun, nofun⟩ nofun
  -- nobody else owned the mutex
  rw [hi] at heq
  exact hj (Option.some.inj heq).symm

/-- A thread takes the free mutex. -/
theorem Inv.lock (h : Inv config s) (hfree : s.mGdtEntriesUpdateMutex = none) (i : ι)
    (call : StatusCall) :
    Inv config ({ s with mGdtEntriesUpdateMutex := some i }.setPhase i
      (.working call [] (call.work.steps config))) := by
  refine h.move (fun j hj => iff_of_false ?_ ?_) (iff_of_true rfl ⟨call, [], _, rfl⟩) ?_
  · intro heq
    exact hj (Option.some.inj heq).symm
  · simp [hfree]
  · rintro _ _ _ ⟨⟩
    rfl

/-- The owner has done a step. -/
theorem Inv.advance (h : Inv config s) {i : ι} {call : StatusCall} {done rest : List WorkStep}
    {step : WorkStep} (hi : s.phase i = .working call done (step :: rest)) :
    Inv config (s.setPhase i (.working call (done ++ [step]) rest)) := by
  refine h.move (fun _ _ => Iff.rfl)
    (iff_of_true ((h.owner i).mpr ⟨_, _, _, hi⟩) ⟨_, _, _, rfl⟩) ?_
  rintro _ _ _ ⟨⟩
  rw [← h.steps i _ _ _ hi, List.append_assoc, List.singleton_append]

theorem Inv.unwind (h : Inv config s) {i : ι} (hi : s.mGdtEntriesUpdateMutex = some i)
    (call : StatusCall) (done : List WorkStep) : Inv config (s.unwind i call done).1 := by
  have hrelease := h.release hi
  unfold Updates.unwind
  cases call.function with
  | updateAllowedIps => exact hrelease
  | reloadCacheAfterTimeout => exact hrelease.congr rfl rfl

end Phases

/-- Work touches neither the mutex nor a thread's phase. -/
theorem execute_eq_some {s s' : Updates ι} {step : WorkStep}
    (h : s.execute config timeZone step = some s') :
    s'.mGdtEntriesUpdateMutex = s.mGdtEntriesUpdateMutex ∧ s'.phase = s.phase := by
  unfold Updates.execute at h
  cases step with
  | write w =>
    cases h
    exact ⟨rfl, rfl⟩
  | contacts connection =>
    cases hids : Customer.getAll connection with
    | error ex => simp [hids] at h
    | ok ids =>
      simp only [hids] at h
      cases h
      exact ⟨rfl, rfl⟩
  | entries connection clock =>
    cases hlists : Mysql.GdtEntry.getAll timeZone clock connection with
    | error ex => simp [hlists] at h
    | ok lists =>
      simp only [hlists] at h
      cases h
      exact ⟨rfl, rfl⟩

/-! ### Which statuses are truthful -/

theorem not_truthful_of_threw {s : Updates ι} {i : ι} {call : StatusCall} {done : List WorkStep} :
    ¬ Truthful config s ⟨i, call, .SKIPPED, .work done true⟩ := by
  intro h
  cases h.threw done rfl

theorem truthful_skipped {s : Updates ι} {i : ι} {call : StatusCall}
    (h : s.elapsed config call = false) : Truthful config s ⟨i, call, .SKIPPED, .timeout⟩ := by
  refine ⟨nofun, fun _ => ⟨rfl, h, ?_⟩, nofun, nofun⟩
  unfold Updates.elapsed at h
  cases hfunction : call.function with
  | updateAllowedIps =>
    rw [hfunction] at h
    exact (Bool.or_eq_false_iff.mp h).2
  | reloadCacheAfterTimeout =>
    rw [hfunction] at h
    exact (Bool.or_eq_false_iff.mp h).2

theorem truthful_running_iff {s : Updates ι} {i : ι} {call : StatusCall} :
    Truthful config s ⟨i, call, .RUNNING, .tryLock⟩ ↔ ∃ j ≠ i, s.InProgress j call.function :=
  ⟨fun h => h.running rfl, fun h => ⟨fun _ => h, nofun, nofun, nofun⟩⟩

/-- A thread that is turned away is told the truth unless the mutex is shared. -/
theorem Inv.inProgress_iff {s : Updates ι} (h : Inv config s) {i j : ι} {call : StatusCall}
    (hi : s.phase i = .locking call) (hj : s.mGdtEntriesUpdateMutex = some j) :
    (∃ k ≠ i, s.InProgress k call.function) ↔ ¬ s.Shared i call := by
  constructor
  · rintro ⟨k, hk, hprogress⟩ ⟨_, _, _, _, _, _, _, hnobody⟩
    exact hnobody k hk hprogress
  · intro hshared
    by_contra hnobody
    push Not at hnobody
    obtain ⟨call', done, rest, hphase⟩ := (h.owner j).mp hj
    have hji : j ≠ i := by
      rintro rfl
      rw [hi] at hphase
      cases hphase
    -- the owner is in progress, so it is in the other function
    have hother : call'.function ≠ call.function := fun heq =>
      hnobody j hji ⟨call', by rw [hphase, Phase.call?], heq⟩
    exact hshared ⟨j, call', done, rest, hj, hphase, hother, hnobody⟩

/-! ### Runs -/

variable [DecidableEq ι]

/-- **Step.** -/
theorem Inv.next {s : Updates ι} (h : Inv config s) (e : UpdateEvent ι) :
    Inv config ((updates ι config timeZone).next s e) := by
  show Inv config (s.react config timeZone e).1
  -- a thread that does not work does not own the mutex
  have hidle : ∀ {i}, (∀ call done rest, s.phase i ≠ .working call done rest) →
      s.mGdtEntriesUpdateMutex ≠ some i := by
    intro i hphase heq
    obtain ⟨call, done, rest, hworking⟩ := (h.owner i).mp heq
    exact hphase call done rest hworking
  cases e with
  | call i call =>
    rw [Updates.react]
    cases hphase : s.phase i with
    | idle =>
      simp only
      split_ifs
      · exact h
      · exact h.setPhase (hidle (by simp [hphase])) nofun
      · exact h
    | locking _ => exact h
    | working _ _ _ => exact h
  | tryLock i =>
    rw [Updates.react]
    cases hphase : s.phase i with
    | idle => exact h
    | locking call =>
      simp only
      cases hmutex : s.mGdtEntriesUpdateMutex with
      | none => exact h.lock hmutex i call
      | some j => exact h.setPhase (hidle (by simp [hphase])) nofun
    | working _ _ _ => exact h
  | work i =>
    rw [Updates.react]
    cases hphase : s.phase i with
    | idle => exact h
    | locking _ => exact h
    | working call done rest =>
      cases rest with
      | nil => exact h
      | cons step rest =>
        simp only
        cases hexecute : s.execute config timeZone step with
        | none => exact h.unwind ((h.owner i).mpr ⟨_, _, _, hphase⟩) call done
        | some s' =>
          obtain ⟨hmutex, hphase'⟩ := execute_eq_some hexecute
          exact (h.congr hmutex hphase').advance (by rw [hphase', hphase])
  | finish i now =>
    rw [Updates.react]
    cases hphase : s.phase i with
    | idle => exact h
    | locking _ => exact h
    | working call done rest =>
      cases rest with
      | nil =>
        have hrelease := h.release ((h.owner i).mpr ⟨_, _, _, hphase⟩)
        simp only
        cases call.function with
        | updateAllowedIps => exact hrelease.congr rfl rfl
        | reloadCacheAfterTimeout => exact hrelease
      | cons step rest => exact h
  | throw i =>
    rw [Updates.react]
    cases hphase : s.phase i with
    | idle => exact h
    | locking _ => exact h
    | working call done rest => exact h.unwind ((h.owner i).mpr ⟨_, _, _, hphase⟩) call done
  | runTask call => exact h.congr rfl rfl

/-- **Run.** -/
theorem inv_run (server : CacheServer) (table : AllowedIps) (events : List (UpdateEvent ι)) :
    Inv config ((updates ι config timeZone).run (.start server table) events) :=
  Machine.run_induction (.start server table) fun e _ _ hs => hs.next e

/-! ### The status of each step -/

/-- A call that returns at once has nothing to do, or its timeout has not elapsed. -/
theorem truthful_call (s : Updates ι) (i : ι) (call : StatusCall) {r : Return ι}
    (h : (s.react config timeZone (.call i call)).2 = some r) : Truthful config s r := by
  rw [Updates.react] at h
  cases hphase : s.phase i with
  | idle =>
    simp only [hphase] at h
    split_ifs at h with hlisting htimeout
    · obtain rfl := Option.some.inj h
      exact ⟨nofun, nofun, fun _ => .inr hlisting, nofun⟩
    · obtain rfl := Option.some.inj h
      exact truthful_skipped (Bool.eq_false_iff.mpr htimeout)
  | locking _ =>
    rw [hphase] at h
    cases h
  | working _ _ _ =>
    rw [hphase] at h
    cases h

/-- A call that does not get the mutex is told the truth, unless it is shared. -/
theorem Inv.truthful_tryLock_iff {s : Updates ι} (hinv : Inv config s) (i : ι) :
    (∀ r, (s.react config timeZone (.tryLock i)).2 = some r → Truthful config s r) ↔
      ¬ TriesShared s (.tryLock i) := by
  rw [Updates.react, TriesShared]
  cases hphase : s.phase i with
  | idle => exact iff_of_true (by rintro r ⟨⟩) (by rintro ⟨call, ⟨⟩, -⟩)
  | locking call =>
    simp only
    cases hmutex : s.mGdtEntriesUpdateMutex with
    | none =>
      refine iff_of_true (by rintro r ⟨⟩) ?_
      rintro ⟨_, -, j, _, _, _, howner, -⟩
      rw [hmutex] at howner
      cases howner
    | some j =>
      have hshared := hinv.inProgress_iff hphase hmutex
      constructor
      · rintro h ⟨_, ⟨⟩, hcall⟩
        exact hshared.mp (truthful_running_iff.mp (h _ rfl)) hcall
      · rintro hnot r ⟨⟩
        exact truthful_running_iff.mpr (hshared.mpr fun hcall => hnot ⟨call, rfl, hcall⟩)
  | working _ _ _ => exact iff_of_true (by rintro r ⟨⟩) (by rintro ⟨call, ⟨⟩, -⟩)

/-- A step of the work returns only if it throws. -/
theorem truthful_work_iff (s : Updates ι) (i : ι) :
    (∀ r, (s.react config timeZone (.work i)).2 = some r → Truthful config s r) ↔
      ¬ Throws config timeZone s (.work i) := by
  rw [Updates.react, Throws]
  cases hphase : s.phase i with
  | idle => exact iff_of_true (by rintro r ⟨⟩) (by rintro ⟨_, _, _, _, ⟨⟩, -⟩)
  | locking _ => exact iff_of_true (by rintro r ⟨⟩) (by rintro ⟨_, _, _, _, ⟨⟩, -⟩)
  | working call done rest =>
    cases rest with
    | nil => exact iff_of_true (by rintro r ⟨⟩) (by rintro ⟨_, _, _, _, ⟨⟩, -⟩)
    | cons step rest =>
      simp only
      cases hexecute : s.execute config timeZone step with
      | none =>
        exact iff_of_false (fun h => not_truthful_of_threw (h _ rfl))
          fun hnot => hnot ⟨call, done, step, rest, rfl, hexecute⟩
      | some s' =>
        refine iff_of_true (by rintro r ⟨⟩) ?_
        rintro ⟨_, _, _, _, ⟨⟩, hthrows⟩
        rw [hexecute] at hthrows
        cases hthrows

/-- A call that finishes has done all its work. -/
theorem Inv.truthful_finish {s : Updates ι} (hinv : Inv config s) (i : ι) (now : ℤ)
    {r : Return ι} (h : (s.react config timeZone (.finish i now)).2 = some r) :
    Truthful config s r := by
  rw [Updates.react] at h
  cases hphase : s.phase i with
  | idle =>
    rw [hphase] at h
    cases h
  | locking _ =>
    rw [hphase] at h
    cases h
  | working call done rest =>
    rw [hphase] at h
    cases rest with
    | nil =>
      obtain rfl := Option.some.inj h
      -- nothing is left to do
      have hdone := hinv.steps i call done [] hphase
      rw [List.append_nil] at hdone
      exact ⟨nofun, nofun, fun _ => .inl (by rw [hdone]), nofun⟩
    | cons step rest => cases h

theorem truthful_throw_iff (s : Updates ι) (i : ι) :
    (∀ r, (s.react config timeZone (.throw i)).2 = some r → Truthful config s r) ↔
      ¬ Throws config timeZone s (.throw i) := by
  rw [Updates.react, Throws]
  cases hphase : s.phase i with
  | idle => exact iff_of_true (by rintro r ⟨⟩) (by rintro ⟨_, _, _, ⟨⟩⟩)
  | locking _ => exact iff_of_true (by rintro r ⟨⟩) (by rintro ⟨_, _, _, ⟨⟩⟩)
  | working call done rest =>
    exact iff_of_false (fun h => not_truthful_of_threw (h _ rfl))
      fun hnot => hnot ⟨call, done, rest, rfl⟩

/-- **Which statuses tell the truth.**  In every run, a call that returns with the next step tells
the truth unless it tries for the mutex while a call of the other function owns it, and no other
call of its own function is in progress, or its work ends with an exception. -/
theorem status_truthful_iff (server : CacheServer) (table : AllowedIps)
    (events : List (UpdateEvent ι)) (e : UpdateEvent ι) :
    let s := (updates ι config timeZone).run (.start server table) events
    (∀ r, (updates ι config timeZone).out s e = some r → Truthful config s r) ↔
      ¬ TriesShared s e ∧ ¬ Throws config timeZone s e := by
  intro s
  have hinv : Inv config s := inv_run server table events
  generalize s = s at hinv
  show (∀ r, (s.react config timeZone e).2 = some r → _) ↔ _
  cases e with
  | call i call => exact iff_of_true (fun r => truthful_call s i call) ⟨id, id⟩
  | tryLock i =>
    rw [hinv.truthful_tryLock_iff i]
    exact (and_iff_left id).symm
  | work i =>
    rw [truthful_work_iff s i]
    exact (and_iff_right id).symm
  | finish i now => exact iff_of_true (fun r => hinv.truthful_finish i now) ⟨id, id⟩
  | throw i =>
    rw [truthful_throw_iff s i]
    exact (and_iff_right id).symm
  | runTask call => exact iff_of_true (by rintro r ⟨⟩) ⟨id, id⟩

/-! ### A call on its own -/

/-- **Refinement.**  A reload whose steps come without any others in between returns what
`reloadCacheAfterTimeout` returns, and leaves what it leaves. -/
theorem run_reloadCacheAfterTimeout {s : Updates ι} {i : ι} (hidle : s.phase i = .idle)
    (call : ReloadCall) (hlock : call.lockFree = s.mGdtEntriesUpdateMutex.isNone) (now : ℤ) :
    let events : List (UpdateEvent ι) :=
      [.call i ⟨.reloadCacheAfterTimeout call.connection call.clock, call.now, call.ignoreTimeout⟩,
        .tryLock i, .work i, .work i, .finish i now]
    ((updates ι config timeZone).run s events).server
        = (s.server.reloadCacheAfterTimeout config timeZone call).server ∧
      (((updates ι config timeZone).outputs s events).filterMap id).map Return.status
        = [(s.server.reloadCacheAfterTimeout config timeZone call).status] := by
  intro events
  unfold CacheServer.reloadCacheAfterTimeout CacheServer.loadFromDb
  -- there are five ways through the call, each of them a few steps long
  cases helapsed : s.server.timeoutElapsed config call
  case' true =>
    cases hmutex : s.mGdtEntriesUpdateMutex
    case' none =>
      cases hids : Customer.getAll call.connection
      case' ok => cases hlists : Mysql.GdtEntry.getAll timeZone call.clock call.connection
  all_goals
    unfold CacheServer.timeoutElapsed at helapsed
    simp [events, Machine.run, Machine.outputs, updates, Updates.react, Updates.elapsed,
      StatusCall.function, Work.function, Work.steps, Updates.execute, Updates.unwind,
      Updates.release, Updates.setPhase, *]

/-- The worker reloads the cache while a request makes an update of the allowed addresses, which is
told to be running already. -/
theorem status_not_truthful :
    ¬ ∀ (config : Config) (events : List (UpdateEvent ℕ)) (e : UpdateEvent ℕ) (r : Return ℕ),
      (updates ℕ config fun _ => 0).out
          ((updates ℕ config fun _ => 0).run (.start new (.new 0)) events) e = some r →
        Truthful config ((updates ℕ config fun _ => 0).run (.start new (.new 0)) events) r := by
  intro h
  let connection : Database := ⟨{ rows := [] }, fun _ => { rows := [] }, { rows := [] },
    fun _ => { sent := { rows := [] } }⟩
  let reload : StatusCall :=
    ⟨.reloadCacheAfterTimeout connection ⟨0, fun _ => 0⟩, 1663160964, false⟩
  let update : StatusCall := ⟨.updateAllowedIps ⟨fun _ => none, 0⟩, 1663160964, true⟩
  obtain ⟨j, hj, call, hphase, hfunction⟩ := (h {}
    [.call 0 reload, .tryLock 0, .call 1 update] (.tryLock 1) ⟨1, update, .RUNNING, .tryLock⟩
    rfl).running rfl
  match j with
  | 0 =>
    -- the worker is in the other function
    have hphase : some reload = some call := hphase
    obtain rfl := Option.some.inj hphase
    cases hfunction
  | 1 => exact hj rfl
  | j + 2 =>
    have hphase : none = some call := hphase
    cases hphase

end GdtCache.CacheServer
