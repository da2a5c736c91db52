import GdtCache.CacheServer.Equiv.ReloadCacheAfterTimeout
import GdtCache.CacheServer.Equiv.ReloadGdtEntry
import GdtCache.CacheServer.Run
import GdtCache.Lib.Throttle

/-!
# How often the full load runs

After start-up the worker alone loads, through `reloadCacheAfterTimeout`.  Requests and refreshes
leave the time stamp alone, and a call of `reloadCacheAfterTimeout` is an attempt to run a
throttled piece of work (`loadStarts_eq_runTimes`): an attempt that is free if the lock is, and that
stamps its time only if the load fails.  So the loads keep the timeout between them exactly as far
as every load that succeeds happens not to be followed too soon by another call
(`spaced_loadStarts_iff`).
-/

namespace GdtCache.CacheServer

open GdtCache.Lib GdtCache.Model GdtCache.Mysql

variable {config : Config} {timeZone : TimeZone}

/-- What the program calls once it has started up. -/
def Action.AfterStart : Action → Prop
  | .serve _ _ => True
  | .loadFromDb _ _ => False
  | .initializeFromDb _ _ _ => False
  | .reloadCacheAfterTimeout call => call.ignoreTimeout = false
  | .reloadGdtEntry _ => True

/-- Both queries of a load succeed. -/
def loadSucceeds (timeZone : TimeZone) (call : ReloadCall) : Bool :=
  (Customer.getAll call.connection).isOk
    && (Mysql.GdtEntry.getAll timeZone call.clock call.connection).isOk

/-- When the calls of a run began to execute `loadFromDb`. -/
def loadStarts (config : Config) (timeZone : TimeZone) (s : CacheServer) (actions : List Action) :
    List ℤ :=
  ((machine config timeZone).outputs s actions).filterMap Output.loadStart

/-- A call of `reloadCacheAfterTimeout` as an attempt. -/
def ReloadCall.attempt (timeZone : TimeZone) (call : ReloadCall) : Attempt where
  now := call.now
  free := call.lockFree
  stamps := !loadSucceeds timeZone call

def Action.attempt? (timeZone : TimeZone) : Action → Option Attempt
  | .reloadCacheAfterTimeout call => some (call.attempt timeZone)
  | _ => none

theorem Action.attempt?_eq_some {a : Action} {b : Attempt} (h : a.attempt? timeZone = some b) :
    ∃ call, a = .reloadCacheAfterTimeout call ∧ call.attempt timeZone = b := by
  cases a with
  | reloadCacheAfterTimeout call => exact ⟨call, rfl, Option.some.inj h⟩
  | serve c request => cases h
  | loadFromDb connection clock => cases h
  | initializeFromDb connection clock now => cases h
  | reloadGdtEntry call => cases h

/-- Only a load that fails stamps its time. -/
theorem attempt_stamps_iff (call : ReloadCall) :
    (call.attempt timeZone).stamps = false ↔ loadSucceeds timeZone call = true := by
  show (!loadSucceeds timeZone call) = false ↔ _
  rw [Bool.not_eq_false']

/-- The attempts of a run. -/
def attempts (timeZone : TimeZone) (actions : List Action) : List Attempt :=
  actions.filterMap (Action.attempt? timeZone)

/-- No load that succeeds is followed, within the timeout, by a call that finds the lock free. -/
def Unhurried (config : Config) (timeZone : TimeZone) (s : CacheServer) (actions : List Action) :
    Prop :=
  ∀ pre call post, actions = pre ++ .reloadCacheAfterTimeout call :: post →
    ((machine config timeZone).run s pre).timeoutElapsed config call = true →
      call.lockFree = true → loadSucceeds timeZone call = true →
        ∀ call', Action.reloadCacheAfterTimeout call' ∈ post → call'.lockFree = true →
          config.maxCacheTimeout < call'.now - call.now

/-! ### The time stamp -/

theorem loadFromDb_mLastUpdateGdtEntries (connection : Database) (clock : Mysql.GdtEntry.Clock)
    (s : CacheServer) : (s.loadFromDb timeZone connection clock).2.mLastUpdateGdtEntries
      = s.mLastUpdateGdtEntries := by
  rcases loadFromDb_cases timeZone connection clock s with
      ⟨ex, -, heq⟩ | ⟨ids, ex, -, -, heq⟩ | ⟨ids, lists, -, -, heq⟩ <;> rw [heq]

theorem loadSucceeds_iff (call : ReloadCall) (s : CacheServer) :
    loadSucceeds timeZone call = true ↔
      (s.loadFromDb timeZone call.connection call.clock).1 = .ok () := by
  unfold loadSucceeds
  rcases loadFromDb_cases timeZone call.connection call.clock s with
      ⟨ex, hids, heq⟩ | ⟨ids, ex, hids, hlists, heq⟩ | ⟨ids, lists, hids, hlists, heq⟩
  · simp [hids, heq, Except.isOk, Except.toBool]
  · simp [hids, hlists, heq, Except.isOk, Except.toBool]
  · simp [hids, hlists, heq, Except.isOk, Except.toBool]

/-- Requests and refreshes leave the time stamp alone. -/
theorem mLastUpdateGdtEntries_next {a : Action} (hafter : a.AfterStart)
    (hattempt : a.attempt? timeZone = none) (s : CacheServer) :
    ((machine config timeZone).next s a).mLastUpdateGdtEntries = s.mLastUpdateGdtEntries ∧
      ((machine config timeZone).out s a).loadStart = none := by
  cases a with
  | serve c request =>
    -- a request touches the queue alone
    refine ⟨?_, rfl⟩
    show (s.serve config c request).2.mLastUpdateGdtEntries = s.mLastUpdateGdtEntries
    rcases serve_server config c request s with heq | heq <;> rw [heq]
    rfl
  | loadFromDb connection clock => exact absurd hafter id
  | initializeFromDb connection clock now => exact absurd hafter id
  | reloadCacheAfterTimeout call => cases hattempt
  | reloadGdtEntry call =>
    refine ⟨?_, rfl⟩
    show (s.reloadGdtEntry config timeZone call).2.mLastUpdateGdtEntries = s.mLastUpdateGdtEntries
    rcases reloadGdtEntry_cases config timeZone call s with
        ⟨-, heq⟩ | ⟨ex, -, heq⟩ | ⟨-, heq⟩ | ⟨id, ex, -, -, -, heq⟩ |
        ⟨id, list, -, -, -, heq⟩ <;> rw [heq]

/-- The time stamp lets an attempt through when the timeout has elapsed and the lock is free. -/
theorem runs_attempt_iff {call : ReloadCall} (hignore : call.ignoreTimeout = false)
    (s : CacheServer) :
    Throttle.Runs config.maxCacheTimeout s.mLastUpdateGdtEntries (call.attempt timeZone) ↔
      s.timeoutElapsed config call = true ∧ call.lockFree = true := by
  unfold Throttle.Runs timeoutElapsed
  rw [hignore, Bool.or_false, decide_eq_true_iff]
  rfl

/-- **Step.**  A call stamps and loads as its attempt does. -/
theorem reloadCacheAfterTimeout_attempt {call : ReloadCall} (hignore : call.ignoreTimeout = false)
    (s : CacheServer) :
    (s.reloadCacheAfterTimeout config timeZone call).server.mLastUpdateGdtEntries
        = Throttle.stampAfter config.maxCacheTimeout s.mLastUpdateGdtEntries
            (call.attempt timeZone) ∧
      (s.reloadCacheAfterTimeout config timeZone call).loadStart
        = if Throttle.Runs config.maxCacheTimeout s.mLastUpdateGdtEntries (call.attempt timeZone)
          then some call.now else none := by
  have hruns := @runs_attempt_iff config timeZone call hignore s
  unfold Throttle.stampAfter
  rcases reloadCacheAfterTimeout_cases config timeZone call s with
      ⟨helapsed, heq⟩ | ⟨-, hlock, heq⟩ | ⟨helapsed, hlock, ⟨ex, hfailed⟩, heq⟩ |
      ⟨helapsed, hlock, hloaded, heq⟩
  · -- the timeout has not elapsed
    have hno : ¬ Throttle.Runs config.maxCacheTimeout s.mLastUpdateGdtEntries
        (call.attempt timeZone) := by
      rw [hruns, helapsed]
      simp
    simp [heq, hno]
  · -- the lock is busy
    have hno : ¬ Throttle.Runs config.maxCacheTimeout s.mLastUpdateGdtEntries
        (call.attempt timeZone) := by
      rw [hruns, hlock]
      simp
    simp [heq, hno]
  · -- the load throws, and the call stamps its time
    have hyes := hruns.mpr ⟨helapsed, hlock⟩
    have hstamps : (call.attempt timeZone).stamps = true := by
      rw [← Bool.not_eq_false, attempt_stamps_iff, loadSucceeds_iff call s, hfailed]
      simp
    rw [heq, if_pos ⟨hyes, hstamps⟩, if_pos hyes]
    exact ⟨rfl, rfl⟩
  · -- the load returns, and the old stamp stays
    have hyes := hruns.mpr ⟨helapsed, hlock⟩
    have hstamps := (attempt_stamps_iff call).mpr ((loadSucceeds_iff call s).mpr hloaded)
    rw [heq, if_pos hyes, if_neg (by simp [hstamps])]
    exact ⟨loadFromDb_mLastUpdateGdtEntries call.connection call.clock s, rfl⟩

/-! ### Runs -/

/-- **Run.**  The loads of a run are the runs of its attempts. -/
theorem loadStarts_eq_runTimes {actions : List Action} :
    ∀ {s : CacheServer}, (∀ a ∈ actions, a.AfterStart) →
      loadStarts config timeZone s actions
        = Throttle.runTimes config.maxCacheTimeout s.mLastUpdateGdtEntries
            (attempts timeZone actions) := by
  induction actions with
  | nil => intro s _; rfl
  | cons a actions ih =>
    intro s hafter
    have hrest := @ih ((machine config timeZone).next s a)
      fun b hb => hafter b (List.mem_cons_of_mem a hb)
    have hhead := hafter a List.mem_cons_self
    unfold loadStarts at hrest ⊢
    unfold attempts at hrest ⊢
    rw [Machine.outputs]
    cases hattempt : a.attempt? timeZone with
    | none =>
      -- neither the stamp nor the list of loads changes
      obtain ⟨hstamp, hnone⟩ := @mLastUpdateGdtEntries_next config timeZone a hhead hattempt s
      rw [List.filterMap_cons_none hnone, List.filterMap_cons_none hattempt, hrest, hstamp]
    | some b =>
      obtain ⟨call, rfl, rfl⟩ := Action.attempt?_eq_some hattempt
      obtain ⟨hstamp, hstart⟩ := @reloadCacheAfterTimeout_attempt config timeZone call hhead s
      have hstamp : ((machine config timeZone).next s (.reloadCacheAfterTimeout call)
          ).mLastUpdateGdtEntries = _ := hstamp
      have hstart : ((machine config timeZone).out s (.reloadCacheAfterTimeout call)).loadStart
          = _ := hstart
      rw [hstamp] at hrest
      rw [List.filterMap_cons_some hattempt, Throttle.runTimes, ← hrest]
      split_ifs at hstart ⊢ with hruns
      · rw [List.filterMap_cons_some hstart]
        rfl
      · rw [List.filterMap_cons_none hstart]

/-! ### The condition -/

theorem unhurried_cons_iff {s : CacheServer} {a : Action} {actions : List Action} :
    Unhurried config timeZone s (a :: actions) ↔
      (∀ call, a = .reloadCacheAfterTimeout call → s.timeoutElapsed config call = true →
        call.lockFree = true → loadSucceeds timeZone call = true →
          ∀ call', Action.reloadCacheAfterTimeout call' ∈ actions → call'.lockFree = true →
            config.maxCacheTimeout < call'.now - call.now) ∧
      Unhurried config timeZone ((machine config timeZone).next s a) actions := by
  constructor
  · intro h
    refine ⟨fun call hcall => ?_, fun pre call post hsplit => ?_⟩
    · exact h [] call actions (by rw [hcall, List.nil_append])
    · exact h (a :: pre) call post (by rw [hsplit, List.cons_append])
  · rintro ⟨hhead, htail⟩ pre call post hsplit
    cases pre with
    | nil =>
      rw [List.nil_append, List.cons.injEq] at hsplit
      obtain ⟨hcall, rfl⟩ := hsplit
      exact hhead call hcall
    | cons b pre =>
      rw [List.cons_append, List.cons.injEq] at hsplit
      obtain ⟨rfl, hsplit⟩ := hsplit
      exact htail pre call post hsplit

/-- Among the attempts of a run, it is the condition of the throttle. -/
theorem unhurried_iff_settled {actions : List Action} :
    ∀ {s : CacheServer}, (∀ a ∈ actions, a.AfterStart) →
      (Unhurried config timeZone s actions ↔
        Throttle.Settled config.maxCacheTimeout s.mLastUpdateGdtEntries
          (attempts timeZone actions)) := by
  induction actions with
  | nil =>
    intro s _
    refine iff_of_true (fun pre call post hsplit => ?_) trivial
    simp at hsplit
  | cons a actions ih =>
    intro s hafter
    have hrest := @ih ((machine config timeZone).next s a)
      fun b hb => hafter b (List.mem_cons_of_mem a hb)
    have hhead := hafter a List.mem_cons_self
    rw [unhurried_cons_iff, hrest]
    unfold attempts
    cases hattempt : a.attempt? timeZone with
    | none =>
      obtain ⟨hstamp, -⟩ := @mLastUpdateGdtEntries_next config timeZone a hhead hattempt s
      rw [List.filterMap_cons_none hattempt, hstamp]
      refine and_iff_right fun call hcall => ?_
      rw [hcall] at hattempt
      cases hattempt
    | some b =>
      obtain ⟨call, rfl, rfl⟩ := Action.attempt?_eq_some hattempt
      have hstamp : ((machine config timeZone).next s (.reloadCacheAfterTimeout call)
          ).mLastUpdateGdtEntries = _ :=
        (@reloadCacheAfterTimeout_attempt config timeZone call hhead s).1
      rw [List.filterMap_cons_some hattempt, Throttle.Settled, hstamp,
        @runs_attempt_iff config timeZone call hhead s, attempt_stamps_iff]
      refine and_congr_left fun _ => ?_
      constructor
      · rintro h ⟨helapsed, hlock⟩ hsucceeds b hb hfree
        obtain ⟨a, ha, hab⟩ := List.mem_filterMap.mp hb
        obtain ⟨call', rfl, rfl⟩ := Action.attempt?_eq_some hab
        exact h call rfl helapsed hlock hsucceeds call' ha hfree
      · rintro h call' hcall helapsed hlock hsucceeds call'' hmem hfree
        cases hcall
        exact h ⟨helapsed, hlock⟩ hsucceeds (call''.attempt timeZone)
          (List.mem_filterMap.mpr ⟨_, hmem, rfl⟩) hfree

/-- **When the loads keep the timeout.**  In a run after start-up with a clock that does not go
back, any two loads, and the start and the first load, are more than `maxCacheTimeout` apart if and
only if no load that succeeds is followed within the timeout by a call that finds the lock free. -/
theorem spaced_loadStarts_iff (config : Config) (timeZone : TimeZone) {connection : Database}
    {clock : Mysql.GdtEntry.Clock} {start : ℤ} {s : CacheServer}
    (hstart : new.initializeFromDb timeZone connection clock start = (.ok (), s))
    (actions : List Action) (hafter : ∀ a ∈ actions, a.AfterStart)
    (hclock : Throttle.Clocked start (attempts timeZone actions)) :
    Throttle.Spaced config.maxCacheTimeout (start :: loadStarts config timeZone s actions) ↔
      Unhurried config timeZone s actions := by
  have hstamp : s.mLastUpdateGdtEntries = start := by
    unfold initializeFromDb at hstart
    rcases loadFromDb_cases timeZone connection clock new with
        ⟨ex, -, heq⟩ | ⟨ids, ex, -, -, heq⟩ | ⟨ids, lists, -, -, heq⟩
    · rw [heq] at hstart; cases hstart
    · rw [heq] at hstart; cases hstart
    · rw [heq] at hstart
      cases hstart
      rfl
  rw [loadStarts_eq_runTimes hafter, unhurried_iff_settled hafter, hstamp]
  exact Throttle.spaced_runTimes_iff hclock

/-- The worker wakes up a minute after it has loaded, and loads again. -/
theorem loadStarts_not_spaced :
    ¬ ∀ (config : Config) (timeZone : TimeZone) (connection : Database)
      (clock : Mysql.GdtEntry.Clock) (start : ℤ) (s : CacheServer) (actions : List Action),
      new.initializeFromDb timeZone connection clock start = (.ok (), s) →
        (∀ a ∈ actions, a.AfterStart) → Throttle.Clocked start (attempts timeZone actions) →
          Throttle.Spaced config.maxCacheTimeout
            (start :: loadStarts config timeZone s actions) := by
  intro h
  let connection : Database := (Tables.mk [] []).answer .ascii
  let call (now : ℤ) : Action :=
    .reloadCacheAfterTimeout ⟨connection, now, ⟨now, fun _ => now⟩, true, false⟩
  have hspaced := h {} (fun _ => 0) connection ⟨0, fun _ => 0⟩ 0
    (new.initializeFromDb (fun _ => 0) connection ⟨0, fun _ => 0⟩ 0).2 [call 14401, call 14461] rfl
    (by simp [call, Action.AfterStart]) (by unfold Throttle.Clocked; decide)
  have hstarts : loadStarts {} (fun _ => 0) (new.initializeFromDb (fun _ => 0) connection
      ⟨0, fun _ => 0⟩ 0).2 [call 14401, call 14461] = [14401, 14461] := by decide +kernel
  rw [hstarts] at hspaced
  unfold Throttle.Spaced at hspaced
  exact absurd hspaced (by decide)

/-- Two loads, the second one after the timeout. -/
theorem spaced_loadStarts_iff_of_two_calls :
    let connection : Database := (Tables.mk [] []).answer .ascii
    let call (now : ℤ) : Action :=
      .reloadCacheAfterTimeout ⟨connection, now, ⟨now, fun _ => now⟩, true, false⟩
    Unhurried {} (fun _ => 0)
      (new.initializeFromDb (fun _ => 0) connection ⟨0, fun _ => 0⟩ 0).2
      [call 14401, call 28802] := by
  intro connection call
  have hstarts : loadStarts {} (fun _ => 0) (new.initializeFromDb (fun _ => 0) connection
      ⟨0, fun _ => 0⟩ 0).2 [call 14401, call 28802] = [14401, 28802] := by decide +kernel
  have hstart : new.initializeFromDb (fun _ => 0) connection ⟨0, fun _ => 0⟩ 0
      = (.ok (), (new.initializeFromDb (fun _ => 0) connection ⟨0, fun _ => 0⟩ 0).2) := rfl
  refine (spaced_loadStarts_iff {} (fun _ => 0) hstart [call 14401, call 28802]
    (by simp [call, Action.AfterStart]) (by unfold Throttle.Clocked; decide)).mp ?_
  rw [hstarts]
  unfold Throttle.Spaced
  decide

end GdtCache.CacheServer
