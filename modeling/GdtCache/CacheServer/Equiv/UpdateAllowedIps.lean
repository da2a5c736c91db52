import GdtCache.CacheServer.UpdateAllowedIps

/-!
# One update at a time

A thread that is past its try for `mGdtEntriesUpdateMutex` owns it (`Owned`), so there is one update
at a time, and nobody else touches the table, the buffers or `mAllowedIpsMutex`.  `core` is what is
left when the other threads are forgotten: the position of the owner, the table, the buffers, and
whether `mAllowedIpsMutex` is locked.  Every step of the threads is a step of the core
(`next_coreStep`), and what is proved about the table is proved about the core.
-/

namespace GdtCache.CacheServer

open GdtCache.Lib GdtCache.Model

/-- The thread owns `mGdtEntriesUpdateMutex`. -/
def IpsPosition.OwnsUpdate : IpsPosition → Prop
  | idle => False
  | tryLock _ => False
  | _ => True

/-- The thread owns `mAllowedIpsMutex`. -/
def IpsPosition.OwnsTable : IpsPosition → Prop
  | resize _ => True
  | unlockTable _ => True
  | storeIp _ _ => True
  | storeIpv6 _ _ => True
  | unlockSlots _ _ => True
  | _ => False

/-- What comes next may throw. -/
def IpsPosition.CanThrow : IpsPosition → Prop
  | resize _ => True
  | storeIp _ _ => True
  | storeIpv6 _ _ => True
  | loop _ _ => True
  | _ => False

theorem IpsPosition.OwnsTable.ownsUpdate {p : IpsPosition} (h : p.OwnsTable) : p.OwnsUpdate := by
  cases p with
  | idle => exact h
  | tryLock call => exact h
  | _ => trivial

namespace UpdateIps

variable {ι : Type}

/-- What every thread owns at its position.  Nobody ever owns `mUpdateAllowedIpsMutex`. -/
structure Owned (s : UpdateIps ι) : Prop where
  update : ∀ i, (s.position i).OwnsUpdate ↔ s.mGdtEntriesUpdateMutex = some (.thread i)
  table : ∀ i, (s.position i).OwnsTable → s.mAllowedIpsMutex = some i
  never : s.mUpdateAllowedIpsMutex = none

variable {config : Config} {s : UpdateIps ι} {i : ι} {p : IpsPosition}

/-! ### Who owns what -/

theorem Owned.start (capacity : ℕ) : Owned (.start capacity : UpdateIps ι) where
  update _ := iff_of_false id nofun
  table _ h := absurd h id
  never := rfl

/-- A thread at such a position owns the mutex. -/
theorem Owned.owner (h : Owned s) (hp : s.position i = p) (howns : p.OwnsUpdate) :
    s.mGdtEntriesUpdateMutex = some (.thread i) :=
  (h.update i).mp (hp ▸ howns)

/-- Nobody owns the mutex but its owner. -/
theorem Owned.eq_of_ownsUpdate (h : Owned s) (hi : s.mGdtEntriesUpdateMutex = some (.thread i))
    {j : ι} (hj : (s.position j).OwnsUpdate) : j = i := by
  have howner := (h.update j).mp hj
  rw [hi] at howner
  cases howner
  rfl

theorem canThrow_of_thrown {written : ℕ} {b : AddressBuffers}
    (h : s.thrown config i written = some b) : (s.position i).CanThrow := by
  unfold thrown at h
  split at h
  · next hposition => rw [hposition]; trivial
  · next hposition => rw [hposition]; trivial
  · next hposition => rw [hposition]; trivial
  · next hposition => rw [hposition]; trivial
  · cases h

/-- What can throw is done by the owner. -/
theorem ownsUpdate_of_thrown {written : ℕ} {b : AddressBuffers}
    (h : s.thrown config i written = some b) : (s.position i).OwnsUpdate := by
  have hthrow := canThrow_of_thrown h
  cases hposition : s.position i with
  | idle => rw [hposition] at hthrow; exact hthrow
  | tryLock call => rw [hposition] at hthrow; exact hthrow
  | _ => trivial

variable [DecidableEq ι]

@[simp] theorem setPosition_self (s : UpdateIps ι) (i : ι) (p : IpsPosition) :
    (s.setPosition i p).position i = p :=
  Function.update_self ..

@[simp] theorem setPosition_of_ne (s : UpdateIps ι) {i j : ι} (h : j ≠ i) (p : IpsPosition) :
    (s.setPosition i p).position j = s.position j :=
  Function.update_of_ne h ..

@[simp] theorem setPosition_mGdtEntriesUpdateMutex (s : UpdateIps ι) (i : ι) (p : IpsPosition) :
    (s.setPosition i p).mGdtEntriesUpdateMutex = s.mGdtEntriesUpdateMutex :=
  rfl

@[simp] theorem setPosition_mAllowedIpsMutex (s : UpdateIps ι) (i : ι) (p : IpsPosition) :
    (s.setPosition i p).mAllowedIpsMutex = s.mAllowedIpsMutex :=
  rfl

/-- The owner of the mutex moves on and keeps it. -/
theorem Owned.move (h : Owned s) (hi : s.mGdtEntriesUpdateMutex = some (.thread i))
    (hp : p.OwnsUpdate) {s' : UpdateIps ι} (hposition : s'.position = s.position)
    (hupdate : s'.mGdtEntriesUpdateMutex = s.mGdtEntriesUpdateMutex)
    (htable : p.OwnsTable → s'.mAllowedIpsMutex = some i)
    (hnever : s'.mUpdateAllowedIpsMutex = none) : Owned (s'.setPosition i p) where
  update j := by
    rw [setPosition_mGdtEntriesUpdateMutex, hupdate]
    by_cases hj : j = i
    · subst hj
      rw [setPosition_self]
      exact iff_of_true hp hi
    · rw [setPosition_of_ne s' hj, hposition]
      exact h.update j
  table j hj := by
    rw [setPosition_mAllowedIpsMutex]
    by_cases hji : j = i
    · subst hji
      rw [setPosition_self] at hj
      exact htable hj
    · rw [setPosition_of_ne s' hji, hposition] at hj
      -- only the owner of the update mutex gets to the other one
      have howner := (h.update j).mp hj.ownsUpdate
      rw [hi] at howner
      cases howner
      exact absurd rfl hji
  never := hnever

/-- A thread that does not own the mutex moves on without it. -/
theorem Owned.aside (h : Owned s) (hi : ¬ (s.position i).OwnsUpdate) (hp : ¬ p.OwnsUpdate) :
    Owned (s.setPosition i p) where
  update j := by
    rw [setPosition_mGdtEntriesUpdateMutex]
    by_cases hj : j = i
    · subst hj
      rw [setPosition_self, ← h.update j]
      exact iff_of_false hp hi
    · rw [setPosition_of_ne s hj]
      exact h.update j
  table j hj := by
    by_cases hji : j = i
    · subst hji
      rw [setPosition_self] at hj
      exact absurd hj.ownsUpdate hp
    · rw [setPosition_of_ne s hji] at hj
      exact h.table j hj
  never := h.never

/-- A thread takes the free mutex. -/
theorem Owned.acquire (h : Owned s) (hfree : s.mGdtEntriesUpdateMutex = none) (hp : p.OwnsUpdate)
    (hp' : ¬ p.OwnsTable) :
    Owned ({ s with mGdtEntriesUpdateMutex := some (.thread i) }.setPosition i p) where
  update j := by
    rw [setPosition_mGdtEntriesUpdateMutex]
    by_cases hj : j = i
    · subst hj
      rw [setPosition_self]
      exact iff_of_true hp rfl
    · rw [setPosition_of_ne _ hj]
      have hnot : ¬ (s.position j).OwnsUpdate := by rw [h.update j, hfree]; nofun
      refine iff_of_false hnot fun howner => ?_
      cases howner
      exact hj rfl
  table j hj := by
    by_cases hji : j = i
    · subst hji
      rw [setPosition_self] at hj
      exact absurd hj hp'
    · rw [setPosition_of_ne _ hji] at hj
      exact h.table j hj
  never := h.never

/-- The owner gives the mutex back. -/
theorem Owned.release (h : Owned s) (hi : s.mGdtEntriesUpdateMutex = some (.thread i)) :
    Owned (s.release i) where
  update j := by
    unfold UpdateIps.release
    rw [setPosition_mGdtEntriesUpdateMutex]
    by_cases hj : j = i
    · subst hj
      rw [setPosition_self]
      exact iff_of_false id nofun
    · rw [setPosition_of_ne _ hj]
      exact iff_of_false (fun howns => hj (h.eq_of_ownsUpdate hi howns)) nofun
  table j hj := by
    unfold UpdateIps.release at hj ⊢
    by_cases hji : j = i
    · subst hji
      rw [setPosition_self] at hj
      exact absurd hj id
    · rw [setPosition_of_ne _ hji] at hj
      exact absurd (h.eq_of_ownsUpdate hi hj.ownsUpdate) hji
  never := h.never

theorem Owned.threadStep (h : Owned s) (i : ι) (now : ℤ) : Owned (s.threadStep config i now) := by
  have htable : (s.position i).OwnsTable → s.mAllowedIpsMutex = some i := h.table i
  unfold UpdateIps.threadStep
  cases hposition : s.position i with
  | idle => exact h
  | tryLock call =>
    have hnot : ¬ (s.position i).OwnsUpdate := by rw [hposition]; exact id
    cases hmutex : s.mGdtEntriesUpdateMutex with
    | none => exact h.acquire hmutex trivial id
    | some owner => exact h.aside hnot id
  | lockTable call =>
    cases hmutex : s.mAllowedIpsMutex with
    | none => exact h.move (h.owner hposition trivial) (by trivial) rfl rfl (fun _ => rfl) h.never
    | some owner => exact h
  | resize call =>
    rw [hposition] at htable
    exact h.move (h.owner hposition trivial) (by trivial) rfl rfl (fun _ => htable trivial) h.never
  | unlockTable call =>
    exact h.move (h.owner hposition trivial) (by trivial) rfl rfl nofun h.never
  | loop call k =>
    simp only
    split
    · split
      · exact h.move (h.owner hposition trivial) (by trivial) rfl rfl nofun h.never
      · exact h.move (h.owner hposition trivial) (by trivial) rfl rfl nofun h.never
    · exact h.move (h.owner hposition trivial) (by trivial) rfl rfl nofun h.never
  | lockSlots call k =>
    cases hmutex : s.mAllowedIpsMutex with
    | none => exact h.move (h.owner hposition trivial) (by trivial) rfl rfl (fun _ => rfl) h.never
    | some owner => exact h
  | storeIp call k =>
    rw [hposition] at htable
    exact h.move (h.owner hposition trivial) (by trivial) rfl rfl (fun _ => htable trivial) h.never
  | storeIpv6 call k =>
    rw [hposition] at htable
    exact h.move (h.owner hposition trivial) (by trivial) rfl rfl (fun _ => htable trivial) h.never
  | unlockSlots call k =>
    exact h.move (h.owner hposition trivial) (by trivial) rfl rfl nofun h.never
  | stamp call =>
    exact h.move (h.owner hposition trivial) (by trivial) rfl rfl nofun h.never
  | unlockUpdate call =>
    exact h.move (h.owner hposition trivial) (by trivial) rfl rfl nofun rfl
  | leave call =>
    exact h.release (h.owner hposition trivial)

/-- **Step.** -/
theorem Owned.next (h : Owned s) (e : IpsEvent ι) : Owned (s.next config e) := by
  cases e with
  | call i call now ignoreTimeout =>
    rw [UpdateIps.next]
    split
    · next hposition =>
      split_ifs
      · exact h.aside (by rw [hposition]; exact id) id
      · exact h
    · exact h
  | thread i now => exact h.threadStep i now
  | throw i written =>
    rw [UpdateIps.next]
    split
    · next b hthrown =>
      have hbuffers : Owned { s with buffers := b } := ⟨h.update, h.table, h.never⟩
      exact hbuffers.release ((h.update i).mp (ownsUpdate_of_thrown hthrown))
    · exact h
  | reloadLock =>
    rw [UpdateIps.next]
    split
    · next hfree =>
      refine ⟨fun j => ?_, h.table, h.never⟩
      have hnot : ¬ (s.position j).OwnsUpdate := by rw [h.update j, hfree]; nofun
      exact iff_of_false hnot nofun
    · exact h
  | reloadUnlock =>
    rw [UpdateIps.next]
    split
    · next howner =>
      refine ⟨fun j => ?_, h.table, h.never⟩
      have hnot : ¬ (s.position j).OwnsUpdate := by rw [h.update j, howner]; nofun
      exact iff_of_false hnot nofun
    · exact h

/-- **Run.** -/
theorem Owned.run (capacity : ℕ) (events : List (IpsEvent ι)) :
    Owned ((updateIps ι config).run (.start capacity) events) :=
  Machine.run_induction (.start capacity) fun e _ _ h => h.next e

end UpdateIps

/-! ### The update in progress -/

/-- What the update in progress sees. -/
structure IpsCore where
  /-- The position of the owner of `mGdtEntriesUpdateMutex`, `idle` if there is none. -/
  position : IpsPosition
  table : AllowedIps
  buffers : AddressBuffers
  /-- `mAllowedIpsMutex` is locked. -/
  locked : Bool

/-- A step of the update of `n` hosts, with what it adds to the table's history. -/
inductive CoreStep (n : ℕ) : IpsCore → IpsOutput → IpsCore → Prop
  | stay (c) : CoreStep n c .nothing c
  | enter (call t b l) : CoreStep n ⟨.idle, t, b, l⟩ .nothing ⟨.lockTable call, t, b, l⟩
  | lockTable (call t b) :
    CoreStep n ⟨.lockTable call, t, b, false⟩ .nothing ⟨.resize call, t, b, true⟩
  | resize (call t b l) : CoreStep n ⟨.resize call, t, b, l⟩ .resized
    ⟨.unlockTable call, t.resize (n * 2) call.grown, b, l⟩
  | unlockTable (call t b l) :
    CoreStep n ⟨.unlockTable call, t, b, l⟩ .nothing ⟨.loop call 0, t, b, false⟩
  | resolved (call k t b b' l) (hk : k < n)
    (h : updateAllowedIp (call.getaddrinfo k) = (true, b')) :
    CoreStep n ⟨.loop call k, t, b, l⟩ (.resolved k b') ⟨.lockSlots call k, t, b', l⟩
  | failed (call k t b b' l) (hk : k < n)
    (h : updateAllowedIp (call.getaddrinfo k) = (false, b')) :
    CoreStep n ⟨.loop call k, t, b, l⟩ .nothing ⟨.loop call (k + 1), t, b', l⟩
  | done (call k t b l) (hk : n ≤ k) :
    CoreStep n ⟨.loop call k, t, b, l⟩ .nothing ⟨.stamp call, t, b, l⟩
  | lockSlots (call k t b) :
    CoreStep n ⟨.lockSlots call k, t, b, false⟩ .nothing ⟨.storeIp call k, t, b, true⟩
  | storeIp (call k t b l) : CoreStep n ⟨.storeIp call k, t, b, l⟩ .nothing
    ⟨.storeIpv6 call k, t.set k b.mbIp, b, l⟩
  | storeIpv6 (call k t b l) : CoreStep n ⟨.storeIpv6 call k, t, b, l⟩ .nothing
    ⟨.unlockSlots call k, t.set (k + n) b.mbIpv6, b, l⟩
  | unlockSlots (call k t b l) :
    CoreStep n ⟨.unlockSlots call k, t, b, l⟩ .nothing ⟨.loop call (k + 1), t, b, false⟩
  | stamp (call t b l) : CoreStep n ⟨.stamp call, t, b, l⟩ .nothing ⟨.unlockUpdate call, t, b, l⟩
  | unlockUpdate (call t b l) :
    CoreStep n ⟨.unlockUpdate call, t, b, l⟩ .nothing ⟨.leave call, t, b, l⟩
  | leave (call t b l) : CoreStep n ⟨.leave call, t, b, l⟩ .nothing ⟨.idle, t, b, l⟩
  /-- Something is thrown.  What is in the buffers then is cleared before it is used. -/
  | throw (p t b b' l) (hp : p.CanThrow) : CoreStep n ⟨p, t, b, l⟩ .nothing ⟨.idle, t, b', l⟩

namespace UpdateIps

section

variable {ι : Type}

/-- The position of the owner of `mGdtEntriesUpdateMutex`. -/
def active (s : UpdateIps ι) : IpsPosition :=
  match s.mGdtEntriesUpdateMutex with
  | some (.thread i) => s.position i
  | _ => .idle

/-- The update in progress. -/
def core (s : UpdateIps ι) : IpsCore where
  position := s.active
  table := s.table
  buffers := s.buffers
  locked := s.mAllowedIpsMutex.isSome

variable {config : Config} {s : UpdateIps ι} {i : ι} {p : IpsPosition}

theorem active_of_owner (h : s.mGdtEntriesUpdateMutex = some (.thread i)) :
    s.active = s.position i := by
  rw [active, h]

/-- The owner of the mutex is where the update in progress is. -/
theorem core_of_owner (h : s.mGdtEntriesUpdateMutex = some (.thread i)) (hp : s.position i = p) :
    s.core = ⟨p, s.table, s.buffers, s.mAllowedIpsMutex.isSome⟩ := by
  unfold core
  rw [active_of_owner h, hp]

/-- A thread that owns the mutex is where the update in progress is. -/
theorem Owned.core_position (h : Owned s) (hp : s.position i = p) (howns : p.OwnsUpdate) :
    s.core.position = p :=
  (active_of_owner (h.owner hp howns)).trans hp

/-- Without an owner there is no update in progress. -/
theorem core_of_no_owner (h : ∀ i, s.mGdtEntriesUpdateMutex ≠ some (.thread i)) :
    s.core = ⟨.idle, s.table, s.buffers, s.mAllowedIpsMutex.isSome⟩ := by
  unfold core active
  split
  · next i howner => exact absurd howner (h i)
  · rfl

variable [DecidableEq ι]

/-- The owner moves on. -/
theorem core_setPosition (h : s.mGdtEntriesUpdateMutex = some (.thread i)) (p : IpsPosition) :
    (s.setPosition i p).core = ⟨p, s.table, s.buffers, s.mAllowedIpsMutex.isSome⟩ :=
  core_of_owner (s := s.setPosition i p) h (setPosition_self s i p)

/-- Somebody else moves on. -/
theorem core_setPosition_of_ne (h : s.mGdtEntriesUpdateMutex ≠ some (.thread i))
    (p : IpsPosition) : (s.setPosition i p).core = s.core := by
  have hactive : (s.setPosition i p).active = s.active := by
    unfold active
    rw [setPosition_mGdtEntriesUpdateMutex]
    cases howner : s.mGdtEntriesUpdateMutex with
    | none => rfl
    | some owner =>
      cases owner with
      | thread j =>
        have hji : j ≠ i := by
          rintro rfl
          exact h howner
        exact setPosition_of_ne s hji p
      | reloadCacheAfterTimeout => rfl
  unfold core
  rw [hactive]
  rfl

/-- The owner returns. -/
theorem core_release (s : UpdateIps ι) (i : ι) :
    (s.release i).core = ⟨.idle, s.table, s.buffers, s.mAllowedIpsMutex.isSome⟩ :=
  rfl

/-- The owner moves on and keeps the mutex, and so does the update in progress. -/
theorem Owned.coreStep (h : Owned s) (hp : s.position i = p) (howns : p.OwnsUpdate)
    {s' : UpdateIps ι} (hs' : s'.mGdtEntriesUpdateMutex = s.mGdtEntriesUpdateMutex)
    {n : ℕ} {o : IpsOutput} {p' : IpsPosition}
    (hstep : CoreStep n ⟨p, s.table, s.buffers, s.mAllowedIpsMutex.isSome⟩ o
      ⟨p', s'.table, s'.buffers, s'.mAllowedIpsMutex.isSome⟩) :
    CoreStep n s.core o (s'.setPosition i p').core := by
  have howner := h.owner hp howns
  rw [core_of_owner howner hp, core_setPosition (hs'.trans howner)]
  exact hstep

theorem threadStep_coreStep (h : Owned s) (i : ι) (now : ℤ) :
    CoreStep config.allowedHosts.length s.core (s.out config (.thread i now))
      (s.threadStep config i now).core := by
  rw [UpdateIps.threadStep, UpdateIps.out]
  cases hposition : s.position i with
  | idle => exact .stay _
  | tryLock call =>
    cases hmutex : s.mGdtEntriesUpdateMutex with
    | none =>
      simp only
      rw [core_of_no_owner (by rw [hmutex]; nofun), core_setPosition rfl]
      exact .enter ..
    | some owner =>
      -- somebody else owns the mutex, and this thread only returns
      have hnot : s.mGdtEntriesUpdateMutex ≠ some (.thread i) :=
        mt (h.update i).mpr (by rw [hposition]; exact id)
      simp only
      rw [core_setPosition_of_ne hnot]
      exact .stay _
  | lockTable call =>
    cases hmutex : s.mAllowedIpsMutex with
    | none =>
      simp only
      refine h.coreStep hposition trivial (by rfl) ?_
      rw [hmutex]
      exact .lockTable ..
    | some owner => exact .stay _
  | resize call =>
    simp only
    exact h.coreStep hposition trivial (by rfl) (.resize ..)
  | unlockTable call =>
    simp only
    exact h.coreStep hposition trivial (by rfl) (.unlockTable ..)
  | loop call k =>
    simp only
    split
    · next hk =>
      split
      · next b hresolved =>
        exact h.coreStep hposition trivial (by rfl) (.resolved _ _ _ _ _ _ hk hresolved)
      · next b hfailed =>
        exact h.coreStep hposition trivial (by rfl) (.failed _ _ _ _ _ _ hk hfailed)
    · next hk => exact h.coreStep hposition trivial (by rfl) (.done _ _ _ _ _ (Nat.not_lt.mp hk))
  | lockSlots call k =>
    cases hmutex : s.mAllowedIpsMutex with
    | none =>
      simp only
      refine h.coreStep hposition trivial (by rfl) ?_
      rw [hmutex]
      exact .lockSlots ..
    | some owner => exact .stay _
  | storeIp call k =>
    simp only
    exact h.coreStep hposition trivial (by rfl) (.storeIp ..)
  | storeIpv6 call k =>
    simp only
    exact h.coreStep hposition trivial (by rfl) (.storeIpv6 ..)
  | unlockSlots call k =>
    simp only
    exact h.coreStep hposition trivial (by rfl) (.unlockSlots ..)
  | stamp call =>
    simp only
    exact h.coreStep hposition trivial (by rfl) (.stamp ..)
  | unlockUpdate call =>
    simp only
    exact h.coreStep hposition trivial (by rfl) (.unlockUpdate ..)
  | leave call =>
    simp only
    rw [core_of_owner (h.owner hposition trivial) hposition, core_release]
    exact .leave ..

/-- **Inversion.**  The threads together do one step of the update in progress, or none. -/
theorem next_coreStep (h : Owned s) (e : IpsEvent ι) :
    CoreStep config.allowedHosts.length s.core (s.out config e) (s.next config e).core := by
  cases e with
  | call i call now ignoreTimeout =>
    rw [UpdateIps.next]
    split
    · next hposition =>
      have hnot : ¬ (s.position i).OwnsUpdate := by rw [hposition]; exact id
      split_ifs
      · rw [core_setPosition_of_ne (mt (h.update i).mpr hnot)]
        exact .stay _
      · exact .stay _
    · exact .stay _
  | thread i now => exact threadStep_coreStep h i now
  | throw i written =>
    rw [UpdateIps.next]
    split
    · next b hthrown =>
      have howner := (h.update i).mp (ownsUpdate_of_thrown hthrown)
      rw [core_of_owner howner rfl, core_release]
      exact .throw _ _ _ _ _ (canThrow_of_thrown hthrown)
    · exact .stay _
  | reloadLock =>
    rw [UpdateIps.next]
    split
    · next hfree =>
      rw [core_of_no_owner (by rw [hfree]; nofun)]
      exact .stay _
    · exact .stay _
  | reloadUnlock =>
    rw [UpdateIps.next]
    split
    · next howner =>
      rw [core_of_no_owner (by rw [howner]; nofun)]
      exact .stay _
    · exact .stay _

end

end UpdateIps

end GdtCache.CacheServer
