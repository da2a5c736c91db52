import GdtCache.CacheServer.Equiv.UpdateAllowedIps

/-!
# The mutexes of `updateAllowedIps`

`_lock` is given back on every path, and `mAllowedIpsMutex` on every path without an exception.  But
a call that comes to its end unlocks `mUpdateAllowedIpsMutex`, which nobody ever locks, and what is
thrown between `mAllowedIpsMutex.lock()` and its `unlock()` leaves it locked.  A run keeps the
discipline exactly if neither happens (`disciplined_iff`).
-/

namespace GdtCache.CacheServer

open GdtCache.Lib GdtCache.Model

namespace UpdateIps

variable {ι : Type} {config : Config} {s : UpdateIps ι} {i : ι} {p : IpsPosition}

/-- Every unlock of the step is of a mutex the thread holds, and a thread that returns with it holds
none. -/
structure Disciplined [DecidableEq ι] (config : Config) (s : UpdateIps ι) (e : IpsEvent ι) :
    Prop where
  unlock : ∀ i m, s.Unlocks config e i m → s.Holds i m
  returned : ∀ i status, s.Returns config e i status → ∀ m, ¬ (s.next config e).Holds i m

/-- The step does not end the work of a call, and throws nothing while the thread owns
`mAllowedIpsMutex`. -/
def Orderly (config : Config) (s : UpdateIps ι) : IpsEvent ι → Prop
  | .thread i _ => ∀ call, s.position i ≠ .unlockUpdate call
  | .throw i written => s.thrown config i written ≠ none → ¬ (s.position i).OwnsTable
  | _ => True

/-! ### Who holds what -/

/-- A thread that holds `mAllowedIpsMutex` is where it owns it. -/
def Held (s : UpdateIps ι) : Prop :=
  ∀ i, s.mAllowedIpsMutex = some i → (s.position i).OwnsTable

/-- A thread that is not at work holds nothing. -/
theorem not_holds (howned : Owned s) (hheld : Held s) (hi : ¬ (s.position i).OwnsUpdate)
    (m : Mutex) : ¬ s.Holds i m := by
  cases m with
  | mGdtEntriesUpdateMutex =>
    intro hholds
    exact hi ((howned.update i).mpr hholds)
  | mAllowedIpsMutex =>
    intro hholds
    exact hi (hheld i hholds).ownsUpdate
  | mUpdateAllowedIpsMutex =>
    intro hholds
    have hnone := howned.never
    rw [show s.mUpdateAllowedIpsMutex = some i from hholds] at hnone
    cases hnone

section

variable [DecidableEq ι]

/-- A thread moves on. -/
theorem Held.setPosition (hself : s.mAllowedIpsMutex = some i → p.OwnsTable)
    (hothers : ∀ j ≠ i, s.mAllowedIpsMutex = some j → (s.position j).OwnsTable) :
    Held (s.setPosition i p) := by
  intro j hj
  by_cases hji : j = i
  · subst hji
    rw [setPosition_self]
    exact hself hj
  · rw [setPosition_of_ne s hji]
    exact hothers j hji hj

/-- A thread that does not own the mutex moves on. -/
theorem Held.move (h : Held s) (hi : ¬ (s.position i).OwnsTable) {s' : UpdateIps ι}
    (hposition : s'.position = s.position) (hmutex : s'.mAllowedIpsMutex = s.mAllowedIpsMutex) :
    Held (s'.setPosition i p) := by
  refine .setPosition (fun hself => ?_) fun j _ hj => ?_
  · rw [hmutex] at hself
    exact absurd (h i hself) hi
  · rw [hmutex] at hj
    rw [hposition]
    exact h j hj

theorem Held.threadStep (h : Held s) (i : ι) (now : ℤ) : Held (s.threadStep config i now) := by
  have hothers : ∀ j ≠ i, s.mAllowedIpsMutex = some j → (s.position j).OwnsTable :=
    fun j _ => h j
  unfold UpdateIps.threadStep
  cases hposition : s.position i with
  | idle => exact h
  | tryLock call =>
    have hnot : ¬ (s.position i).OwnsTable := by rw [hposition]; exact id
    cases hmutex : s.mGdtEntriesUpdateMutex with
    | none => exact h.move hnot rfl rfl
    | some owner => exact h.move hnot rfl rfl
  | lockTable call =>
    cases hmutex : s.mAllowedIpsMutex with
    | none =>
      refine .setPosition (fun _ => trivial) fun j hj howner => ?_
      cases howner
      exact absurd rfl hj
    | some owner => exact h
  | resize call => exact .setPosition (fun _ => trivial) hothers
  | unlockTable call => exact .setPosition nofun nofun
  | loop call k =>
    have hnot : ¬ (s.position i).OwnsTable := by rw [hposition]; exact id
    simp only
    split
    · split
      · exact h.move hnot rfl rfl
      · exact h.move hnot rfl rfl
    · exact h.move hnot rfl rfl
  | lockSlots call k =>
    cases hmutex : s.mAllowedIpsMutex with
    | none =>
      refine .setPosition (fun _ => trivial) fun j hj howner => ?_
      cases howner
      exact absurd rfl hj
    | some owner => exact h
  | storeIp call k => exact .setPosition (fun _ => trivial) hothers
  | storeIpv6 call k => exact .setPosition (fun _ => trivial) hothers
  | unlockSlots call k => exact .setPosition nofun nofun
  | stamp call => exact h.move (by rw [hposition]; exact id) rfl rfl
  | unlockUpdate call => exact h.move (by rw [hposition]; exact id) rfl rfl
  | leave call => exact h.move (by rw [hposition]; exact id) rfl rfl

/-- **Step.** -/
theorem Held.next (h : Held s) {e : IpsEvent ι} (he : Orderly config s e) :
    Held (s.next config e) := by
  cases e with
  | call i call now ignoreTimeout =>
    rw [UpdateIps.next]
    split
    · next hposition =>
      split_ifs
      · exact h.move (by rw [hposition]; exact id) rfl rfl
      · exact h
    · exact h
  | thread i now => exact h.threadStep i now
  | throw i written =>
    rw [UpdateIps.next]
    split
    · next b hthrown =>
      have hthrows : s.thrown config i written ≠ none := by simp [hthrown]
      exact h.move (he hthrows) rfl rfl
    · exact h
  | reloadLock =>
    rw [UpdateIps.next]
    split
    · exact h
    · exact h
  | reloadUnlock =>
    rw [UpdateIps.next]
    split
    · exact h
    · exact h

/-! ### Discipline -/

/-- A thread that returns is not at work any more. -/
theorem Returns.position {e : IpsEvent ι} {status : UpdateStatus}
    (h : s.Returns config e i status) : (s.next config e).position i = .idle := by
  cases h with
  | whiteListing h hoff => simp [UpdateIps.next, h, hoff]
  | timeout h hon helapsed => simp [UpdateIps.next, h, hon, helapsed]
  | running h howner => simp [UpdateIps.next, UpdateIps.threadStep, h, howner]
  | ok h => simp [UpdateIps.next, UpdateIps.threadStep, h, release]
  | caught h => simp [UpdateIps.next, h, release]

/-- **Step**: it keeps the discipline exactly if it is orderly. -/
theorem disciplined_iff_orderly (howned : Owned s) (hheld : Held s) (e : IpsEvent ι) :
    Disciplined config s e ↔ Orderly config s e := by
  constructor
  · intro h
    cases e with
    | thread i now =>
      -- nobody ever locks `mUpdateAllowedIpsMutex`, so its unlock breaks the discipline
      intro call hposition
      have hholds := h.unlock i _ (.unlockUpdate hposition)
      have hnone := howned.never
      rw [show s.mUpdateAllowedIpsMutex = some i from hholds] at hnone
      cases hnone
    | throw i written =>
      -- the handlers return, and `mAllowedIpsMutex` is still locked
      intro hthrown howns
      obtain ⟨b, hb⟩ := Option.ne_none_iff_exists'.mp hthrown
      have hnext : s.next config (.throw i written) = { s with buffers := b }.release i := by
        rw [UpdateIps.next, hb]
      have hnot := h.returned i _ (.caught hb) .mAllowedIpsMutex
      rw [hnext] at hnot
      exact hnot (howned.table i howns)
    | _ => trivial
  · intro h
    refine ⟨fun i m hunlocks => ?_, fun i status hreturns m => ?_⟩
    · cases hunlocks with
      | unlockTable hposition => exact howned.table i (by rw [hposition]; trivial)
      | unlockSlots hposition => exact howned.table i (by rw [hposition]; trivial)
      | unlockUpdate hposition => exact absurd hposition (h _)
      | leave hposition => exact howned.owner hposition trivial
      | throw hthrown => exact (howned.update i).mp (ownsUpdate_of_thrown hthrown)
    · exact not_holds (howned.next e) (hheld.next h) (by rw [hreturns.position]; exact id) m

/-- **Lock discipline.**  In a run of any number of calls by any number of threads, with exceptions
anywhere, every unlock is of a mutex the thread holds, and every thread that returns holds none, if
and only if no call comes to the end of its work and nothing is thrown while a thread owns
`mAllowedIpsMutex`. -/
theorem disciplined_iff (config : Config) (capacity : ℕ) (events : List (IpsEvent ι)) :
    (updateIps ι config).Always (Disciplined config) (.start capacity) events ↔
      (updateIps ι config).Always (Orderly config) (.start capacity) events := by
  have hstart : Owned (.start capacity : UpdateIps ι) ∧ Held (.start capacity : UpdateIps ι) :=
    ⟨.start capacity, nofun⟩
  exact Machine.always_iff_of_invariant (I := fun s => Owned s ∧ Held s)
    (fun _ e h => disciplined_iff_orderly h.1 h.2 e)
    (fun _ e h he => ⟨h.1.next e, h.2.next he⟩) hstart

/-- One thread updates the addresses of no host at all. -/
theorem not_disciplined :
    ¬ ∀ (config : Config) (events : List (IpsEvent Bool)),
      (updateIps Bool config).Always (Disciplined config) (.start 0) events := by
  intro h
  have hlast := (h {} ([.call true ⟨fun _ => none, 0⟩ 0 true, .thread true 0, .thread true 0,
    .thread true 0, .thread true 0, .thread true 0, .thread true 0] ++ [.thread true 0])).mid
  have hholds := hlast.unlock true .mUpdateAllowedIpsMutex
    (.unlockUpdate rfl)
  cases hholds

end

end UpdateIps

end GdtCache.CacheServer
