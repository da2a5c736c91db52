import GdtCache.CacheServer.Equiv.UpdateAllowedIps

/-!
# What the table of allowed addresses holds

Slots `j` and `j + n` of the table of `n` hosts belong to host `j`.  An update stores what a
resolution has left in the buffers, before it resolves the next host, so the slots of a host hold
the texts of its last successful resolution, but for the host whose slots come next (`History`).

An exception between `mAllowedIpsMutex.lock()` and its `unlock()` may leave one slot of a host
behind, but then the mutex stays locked for ever (`CoreStep.stuck`), and nobody reads the table
any more.
-/

namespace GdtCache.CacheServer

open GdtCache.Lib GdtCache.Model

/-! ### Positions -/

/-- The table has been resized. -/
def IpsPosition.Resized : IpsPosition → Prop
  | idle => False
  | tryLock _ => False
  | lockTable _ => False
  | resize _ => False
  | _ => True

/-- The host whose texts are in the buffers. -/
def IpsPosition.storing : IpsPosition → Option (UpdateIpsCall × ℕ)
  | lockSlots call k => some (call, k)
  | storeIp call k => some (call, k)
  | storeIpv6 call k => some (call, k)
  | unlockSlots call k => some (call, k)
  | _ => none

/-- The host whose texts are in the buffers is one of the `n`. -/
def IpsPosition.Within (n : ℕ) (p : IpsPosition) : Prop :=
  ∀ call k, p.storing = some (call, k) → k < n

/-- The host whose first slot is still to be written. -/
def IpsPosition.ipPending : IpsPosition → Option ℕ
  | lockSlots _ k => some k
  | storeIp _ k => some k
  | _ => none

/-- The host whose second slot is still to be written. -/
def IpsPosition.ipv6Pending : IpsPosition → Option ℕ
  | lockSlots _ k => some k
  | storeIp _ k => some k
  | storeIpv6 _ k => some k
  | _ => none

/-- The call, and how many of the `n` hosts it has dealt with. -/
def IpsPosition.dealt (n : ℕ) : IpsPosition → Option (UpdateIpsCall × ℕ)
  | unlockTable call => some (call, 0)
  | loop call k => some (call, k)
  | lockSlots call k => some (call, k)
  | storeIp call k => some (call, k)
  | storeIpv6 call k => some (call, k)
  | unlockSlots call k => some (call, k)
  | stamp call => some (call, n)
  | unlockUpdate call => some (call, n)
  | leave call => some (call, n)
  | _ => none

/-- `mAllowedIpsMutex` has been given back. -/
def IpsPosition.LeftTable : IpsPosition → Prop
  | loop _ _ => True
  | lockSlots _ _ => True
  | stamp _ => True
  | unlockUpdate _ => True
  | leave _ => True
  | _ => False

/-! ### Histories -/

/-- What a successful resolution of host `j` has left in the buffers. -/
def IpsOutput.resolved? (j : ℕ) : IpsOutput → Option AddressBuffers
  | resolved i b => if i = j then some b else none
  | _ => none

/-- What the last successful resolution of host `j` has left in the buffers. -/
def lastResolved (outputs : List IpsOutput) (j : ℕ) : AddressBuffers :=
  (outputs.filterMap (IpsOutput.resolved? j)).getLast?.getD ⟨"", ""⟩

theorem lastResolved_append (outputs : List IpsOutput) (o : IpsOutput) (j : ℕ) :
    lastResolved (outputs ++ [o]) j = (o.resolved? j).getD (lastResolved outputs j) := by
  unfold lastResolved
  rw [List.filterMap_append, List.filterMap_cons]
  cases o.resolved? j with
  | none => simp
  | some b => simp

@[simp] theorem lastResolved_nothing (outputs : List IpsOutput) (j : ℕ) :
    lastResolved (outputs ++ [.nothing]) j = lastResolved outputs j :=
  lastResolved_append outputs .nothing j

@[simp] theorem lastResolved_resized (outputs : List IpsOutput) (j : ℕ) :
    lastResolved (outputs ++ [.resized]) j = lastResolved outputs j :=
  lastResolved_append outputs .resized j

@[simp] theorem lastResolved_self (outputs : List IpsOutput) (j : ℕ) (b : AddressBuffers) :
    lastResolved (outputs ++ [.resolved j b]) j = b := by
  rw [lastResolved_append, IpsOutput.resolved?, if_pos rfl, Option.getD_some]

theorem lastResolved_of_ne (outputs : List IpsOutput) {i j : ℕ} (h : i ≠ j) (b : AddressBuffers) :
    lastResolved (outputs ++ [.resolved i b]) j = lastResolved outputs j := by
  rw [lastResolved_append, IpsOutput.resolved?, if_neg h, Option.getD_none]

/-! ### Exceptions under the lock -/

/-- `mAllowedIpsMutex` is locked, and the thread that has locked it is not going to unlock it. -/
def IpsCore.Stuck (c : IpsCore) : Prop :=
  c.locked = true ∧ ¬ c.position.OwnsTable

variable {n : ℕ} {c c' : IpsCore} {o : IpsOutput} {outputs : List IpsOutput}

/-- **Step**: the mutex stays locked. -/
theorem CoreStep.stuck (h : CoreStep n c o c') (hstuck : c.Stuck) : c'.Stuck := by
  obtain ⟨hlocked, hnot⟩ := hstuck
  cases h with
  | stay => exact ⟨hlocked, hnot⟩
  | lockTable => cases hlocked
  | resize => exact absurd trivial hnot
  | unlockTable => exact absurd trivial hnot
  | lockSlots => cases hlocked
  | storeIp => exact absurd trivial hnot
  | storeIpv6 => exact absurd trivial hnot
  | unlockSlots => exact absurd trivial hnot
  | _ => exact ⟨hlocked, id⟩

/-! ### The history of the table -/

theorem CoreStep.within (h : CoreStep n c o c') (hwithin : c.position.Within n) :
    c'.position.Within n := by
  intro call k hk
  cases h with
  | stay => exact hwithin call k hk
  | resolved call' k' t b b' l hk' hresolved =>
    cases hk
    exact hk'
  | lockSlots => exact hwithin call k hk
  | storeIp => exact hwithin call k hk
  | storeIpv6 => exact hwithin call k hk
  | _ => cases hk

/-- What holds between any two steps, of the update in progress and of what has been resolved. -/
structure History (n : ℕ) (c : IpsCore) (outputs : List IpsOutput) : Prop where
  resized : c.position.Resized → .resized ∈ outputs
  length : .resized ∈ outputs → c.table.mAllowedIps.length = n * 2
  locked : c.position.OwnsTable → c.locked = true
  unlocked : c.position.LeftTable → c.locked = false
  within : c.position.Within n
  storing : ∀ call k, c.position.storing = some (call, k) →
    updateAllowedIp (call.getaddrinfo k) = (true, c.buffers) ∧ lastResolved outputs k = c.buffers
  dealt : ∀ call m, c.position.dealt n = some (call, m) → ∀ k < m, ∀ b,
    updateAllowedIp (call.getaddrinfo k) = (true, b) → lastResolved outputs k = b
  ip : ¬ c.Stuck → ∀ j < n, c.position.ipPending ≠ some j →
    c.table.slot j = (lastResolved outputs j).mbIp
  ipv6 : ¬ c.Stuck → ∀ j < n, c.position.ipv6Pending ≠ some j →
    c.table.slot (j + n) = (lastResolved outputs j).mbIpv6

theorem History.resized_next (h : History n c outputs) (hstep : CoreStep n c o c')
    (hp : c'.position.Resized) : .resized ∈ outputs ++ [o] := by
  rw [List.mem_append]
  cases hstep with
  | stay => exact .inl (h.resized hp)
  | enter => exact absurd hp id
  | lockTable => exact absurd hp id
  | resize => exact .inr (List.mem_singleton_self _)
  | leave => exact absurd hp id
  | throw => exact absurd hp id
  | _ => exact .inl (h.resized trivial)

theorem History.length_next (h : History n c outputs) (hstep : CoreStep n c o c')
    (hresized : .resized ∈ outputs ++ [o]) : c'.table.mAllowedIps.length = n * 2 := by
  have hold : o ≠ .resized → c.table.mAllowedIps.length = n * 2 := by
    intro ho
    rcases List.mem_append.mp hresized with hmem | hmem
    · exact h.length hmem
    · exact absurd (List.mem_singleton.mp hmem).symm ho
  cases hstep with
  | resize call t b l => exact AllowedIps.length_resize t _ _
  | storeIp call k t b l =>
    rw [AllowedIps.length_set]
    exact hold nofun
  | storeIpv6 call k t b l =>
    rw [AllowedIps.length_set]
    exact hold nofun
  | _ => exact hold nofun

theorem History.storing_next (h : History n c outputs) (hstep : CoreStep n c o c')
    {call : UpdateIpsCall} {k : ℕ} (hk : c'.position.storing = some (call, k)) :
    updateAllowedIp (call.getaddrinfo k) = (true, c'.buffers) ∧
      lastResolved (outputs ++ [o]) k = c'.buffers := by
  cases hstep with
  | resolved call' k' t b b' l hk' hresolved =>
    -- the buffers are filled here, and not touched until the slots are written
    cases hk
    exact ⟨hresolved, lastResolved_self outputs k b'⟩
  | stay =>
    rw [lastResolved_nothing]
    exact h.storing call k hk
  | lockSlots =>
    rw [lastResolved_nothing]
    exact h.storing call k hk
  | storeIp =>
    rw [lastResolved_nothing]
    exact h.storing call k hk
  | storeIpv6 =>
    rw [lastResolved_nothing]
    exact h.storing call k hk
  | _ => cases hk

theorem History.locked_next (h : History n c outputs) (hstep : CoreStep n c o c')
    (hp : c'.position.OwnsTable) : c'.locked = true := by
  cases hstep with
  | stay => exact h.locked hp
  | lockTable => rfl
  | resize => exact h.locked trivial
  | lockSlots => rfl
  | storeIp => exact h.locked trivial
  | storeIpv6 => exact h.locked trivial
  | _ => exact absurd hp id

theorem History.unlocked_next (h : History n c outputs) (hstep : CoreStep n c o c')
    (hp : c'.position.LeftTable) : c'.locked = false := by
  cases hstep with
  | stay => exact h.unlocked hp
  | unlockTable => rfl
  | resolved => exact h.unlocked trivial
  | failed => exact h.unlocked trivial
  | done => exact h.unlocked trivial
  | unlockSlots => rfl
  | stamp => exact h.unlocked trivial
  | unlockUpdate => exact h.unlocked trivial
  | _ => exact absurd hp id

/-- One host more has been dealt with. -/
theorem History.dealt_next (h : History n c outputs) (hstep : CoreStep n c o c')
    {call : UpdateIpsCall} {m : ℕ} (hm : c'.position.dealt n = some (call, m)) {k : ℕ} (hk : k < m)
    {b : AddressBuffers} (hb : updateAllowedIp (call.getaddrinfo k) = (true, b)) :
    lastResolved (outputs ++ [o]) k = b := by
  cases hstep with
  | stay =>
    rw [lastResolved_nothing]
    exact h.dealt call m hm k hk b hb
  | resize =>
    cases hm
    exact absurd hk (Nat.not_lt_zero k)
  | resolved call' k' t b₀ b' l hk' hresolved =>
    cases hm
    rw [lastResolved_of_ne outputs (by omega)]
    exact h.dealt call m rfl k hk b hb
  | failed call' k' t b₀ b' l hk' hfailed =>
    -- a host that could not be resolved counts as dealt with, and nothing is said about it
    cases hm
    rw [lastResolved_nothing]
    rcases Nat.lt_succ_iff_lt_or_eq.mp hk with hlt | rfl
    · exact h.dealt call k' rfl k hlt b hb
    · rw [hfailed] at hb
      cases hb
  | done call' k' t b₀ l hle =>
    cases hm
    rw [lastResolved_nothing]
    exact h.dealt call k' rfl k (by omega) b hb
  | unlockSlots call' k' t b₀ l =>
    cases hm
    rw [lastResolved_nothing]
    rcases Nat.lt_succ_iff_lt_or_eq.mp hk with hlt | rfl
    · exact h.dealt call k' rfl k hlt b hb
    · obtain ⟨hresolved, hlast⟩ := h.storing call k rfl
      rw [hb] at hresolved
      cases hresolved
      exact hlast
  | enter => cases hm
  | lockTable => cases hm
  | leave => cases hm
  | throw => cases hm
  | _ =>
    rw [lastResolved_nothing]
    exact h.dealt call m hm k hk b hb

/-- What is thrown while the mutex is not left locked is thrown by `updateAllowedIp`, or before the
first slot is written. -/
theorem History.not_storing_of_throw {p : IpsPosition} {t : AllowedIps} {b b' : AddressBuffers}
    {l : Bool} (h : History n ⟨p, t, b, l⟩ outputs) (hp : p.CanThrow)
    (hstuck : ¬ IpsCore.Stuck ⟨.idle, t, b', l⟩) : p.ipPending = none ∧ p.ipv6Pending = none := by
  cases p with
  | storeIp call k => exact absurd ⟨h.locked trivial, id⟩ hstuck
  | storeIpv6 call k => exact absurd ⟨h.locked trivial, id⟩ hstuck
  | lockSlots call k => exact absurd hp id
  | _ => exact ⟨rfl, rfl⟩

theorem History.ip_next (h : History n c outputs) (hstep : CoreStep n c o c') (hstuck : ¬ c'.Stuck)
    {j : ℕ} (hj : j < n) (hpending : c'.position.ipPending ≠ some j) :
    c'.table.slot j = (lastResolved (outputs ++ [o]) j).mbIp := by
  have hnot : ¬ c.Stuck := mt hstep.stuck hstuck
  cases hstep with
  | stay =>
    rw [lastResolved_nothing]
    exact h.ip hnot j hj hpending
  | resize call t b l =>
    rw [lastResolved_resized, AllowedIps.slot_resize t (by omega)]
    exact h.ip hnot j hj nofun
  | resolved call k t b b' l hk hresolved =>
    have hne : k ≠ j := fun heq => hpending (congrArg some heq)
    rw [lastResolved_of_ne outputs hne]
    exact h.ip hnot j hj nofun
  | lockSlots =>
    rw [lastResolved_nothing]
    exact h.ip hnot j hj hpending
  | storeIp call k t b l =>
    rw [lastResolved_nothing]
    have hlength : t.mAllowedIps.length = n * 2 := h.length (h.resized trivial)
    by_cases hkj : k = j
    · -- the slot is written from the buffers
      subst hkj
      rw [AllowedIps.slot_set_self (by omega), (h.storing call k rfl).2]
    · rw [AllowedIps.slot_set_of_ne t hkj]
      exact h.ip hnot j hj fun heq => hkj (Option.some.inj heq)
  | storeIpv6 call k t b l =>
    rw [lastResolved_nothing, AllowedIps.slot_set_of_ne t (by omega)]
    exact h.ip hnot j hj nofun
  | throw p t b b' l hp =>
    rw [lastResolved_nothing]
    refine h.ip hnot j hj ?_
    rw [(h.not_storing_of_throw hp hstuck).1]
    nofun
  | _ =>
    rw [lastResolved_nothing]
    exact h.ip hnot j hj nofun

theorem History.ipv6_next (h : History n c outputs) (hstep : CoreStep n c o c')
    (hstuck : ¬ c'.Stuck) {j : ℕ} (hj : j < n) (hpending : c'.position.ipv6Pending ≠ some j) :
    c'.table.slot (j + n) = (lastResolved (outputs ++ [o]) j).mbIpv6 := by
  have hnot : ¬ c.Stuck := mt hstep.stuck hstuck
  cases hstep with
  | stay =>
    rw [lastResolved_nothing]
    exact h.ipv6 hnot j hj hpending
  | resize call t b l =>
    rw [lastResolved_resized, AllowedIps.slot_resize t (by omega)]
    exact h.ipv6 hnot j hj nofun
  | resolved call k t b b' l hk hresolved =>
    have hne : k ≠ j := fun heq => hpending (congrArg some heq)
    rw [lastResolved_of_ne outputs hne]
    exact h.ipv6 hnot j hj nofun
  | lockSlots =>
    rw [lastResolved_nothing]
    exact h.ipv6 hnot j hj hpending
  | storeIp call k t b l =>
    have hk : k < n := h.within call k rfl
    rw [lastResolved_nothing, AllowedIps.slot_set_of_ne t (by omega)]
    exact h.ipv6 hnot j hj hpending
  | storeIpv6 call k t b l =>
    rw [lastResolved_nothing]
    have hk : k < n := h.within call k rfl
    have hlength : t.mAllowedIps.length = n * 2 := h.length (h.resized trivial)
    by_cases hkj : k = j
    · subst hkj
      rw [AllowedIps.slot_set_self (by omega), (h.storing call k rfl).2]
    · rw [AllowedIps.slot_set_of_ne t (by omega)]
      exact h.ipv6 hnot j hj fun heq => hkj (Option.some.inj heq)
  | throw p t b b' l hp =>
    rw [lastResolved_nothing]
    refine h.ipv6 hnot j hj ?_
    rw [(h.not_storing_of_throw hp hstuck).2]
    nofun
  | _ =>
    rw [lastResolved_nothing]
    exact h.ipv6 hnot j hj nofun

/-- **Step.** -/
theorem History.next (h : History n c outputs) (hstep : CoreStep n c o c') :
    History n c' (outputs ++ [o]) where
  resized := h.resized_next hstep
  length := h.length_next hstep
  locked := h.locked_next hstep
  unlocked := h.unlocked_next hstep
  within := hstep.within h.within
  storing _ _ := h.storing_next hstep
  dealt _ _ hm _ hk _ := h.dealt_next hstep hm hk
  ip hstuck _ := h.ip_next hstep hstuck
  ipv6 hstuck _ := h.ipv6_next hstep hstuck

/-! ### Runs -/

namespace UpdateIps

section

variable {ι : Type} {s : UpdateIps ι}

/-- Somebody is where the update in progress is. -/
theorem exists_position_of_active {p : IpsPosition} (h : s.active = p) (hp : p ≠ .idle) :
    ∃ i, s.mGdtEntriesUpdateMutex = some (.thread i) ∧ s.position i = p := by
  unfold active at h
  split at h
  · next i howner => exact ⟨i, howner, h⟩
  · exact absurd h.symm hp

theorem not_locked_of_readable (h : s.Readable) : s.core.locked ≠ true := by
  have hfree : s.mAllowedIpsMutex = none := h
  unfold core
  rw [hfree]
  nofun

/-- A table that can be read is not stuck. -/
theorem not_stuck_of_readable (h : s.Readable) : ¬ s.core.Stuck :=
  fun hstuck => not_locked_of_readable h hstuck.1

/-- A table that can be read is not being written. -/
theorem not_ownsTable_of_readable {n : ℕ} {outputs : List IpsOutput}
    (hhistory : History n s.core outputs) (h : s.Readable) : ¬ s.core.position.OwnsTable :=
  fun howns => not_locked_of_readable h (hhistory.locked howns)

variable [DecidableEq ι] {config : Config}

/-- **Run.** -/
theorem history_run (config : Config) (capacity : ℕ) (events : List (IpsEvent ι)) :
    let s := (updateIps ι config).run (.start capacity) events
    Owned s ∧ History config.allowedHosts.length s.core
      ((updateIps ι config).outputs (.start capacity) events) := by
  refine Machine.run_outputs_induction
    (I := fun s outputs => Owned s ∧ History config.allowedHosts.length s.core outputs)
    ⟨.start _, ?_⟩ fun e _ s outputs h => ⟨h.1.next e, h.2.next (next_coreStep h.1 e)⟩
  exact ⟨nofun, nofun, nofun, nofun, nofun, nofun, nofun, fun _ _ _ _ => rfl, fun _ _ _ _ => rfl⟩

/-- **An exception under the lock** leaves a table that nobody reads any more. -/
theorem not_readable_of_thrown (howned : Owned s) {i : ι} {written : ℕ} {b : AddressBuffers}
    (hthrown : s.thrown config i written = some b) (howns : (s.position i).OwnsTable)
    (events : List (IpsEvent ι)) :
    ¬ ((updateIps ι config).run (s.next config (.throw i written)) events).Readable := by
  have hnext : s.next config (.throw i written) = { s with buffers := b }.release i := by
    rw [UpdateIps.next, hthrown]
  have hstart : (s.next config (.throw i written)).core.Stuck := by
    rw [hnext, core_release]
    refine ⟨?_, id⟩
    show s.mAllowedIpsMutex.isSome = true
    rw [howned.table i howns]
    rfl
  have hend : Owned ((updateIps ι config).run (s.next config (.throw i written)) events) ∧
      ((updateIps ι config).run (s.next config (.throw i written)) events).core.Stuck :=
    Machine.run_induction (I := fun s => Owned s ∧ s.core.Stuck) ⟨howned.next _, hstart⟩
      fun e _ s h => ⟨h.1.next e, (next_coreStep h.1 e).stuck h.2⟩
  exact fun hreadable => not_stuck_of_readable hreadable hend.2

/-- **What the slots hold.**  Once the table has been resized it has two slots for each host, and as
long as it can be read they hold what the last successful resolution of the host has left in the
buffers, but for a host that has just been resolved. -/
theorem slots_of_run (config : Config) (capacity : ℕ) (events : List (IpsEvent ι)) :
    let n := config.allowedHosts.length
    let s := (updateIps ι config).run (.start capacity) events
    let outputs := (updateIps ι config).outputs (.start capacity) events
    .resized ∈ outputs → s.table.mAllowedIps.length = n * 2 ∧
      (s.Readable → ∀ j < n, (∀ i call, s.position i ≠ .lockSlots call j) →
        s.table.slot j = (lastResolved outputs j).mbIp ∧
        s.table.slot (j + n) = (lastResolved outputs j).mbIpv6) := by
  intro n s outputs hresized
  obtain ⟨howned, hhistory⟩ : Owned s ∧ History n s.core outputs :=
    history_run config capacity events
  refine ⟨hhistory.length hresized, fun hreadable j hj hpending => ?_⟩
  have hstuck := not_stuck_of_readable hreadable
  have hlocked := not_ownsTable_of_readable hhistory hreadable
  have hnot : s.core.position.ipPending ≠ some j ∧ s.core.position.ipv6Pending ≠ some j := by
    cases hposition : s.core.position with
    | lockSlots call k =>
      -- the one host that has been resolved and whose slots come next
      obtain ⟨i, -, hi⟩ := exists_position_of_active hposition nofun
      have hne : k ≠ j := by
        rintro rfl
        exact hpending i call hi
      exact ⟨fun heq => hne (Option.some.inj heq), fun heq => hne (Option.some.inj heq)⟩
    | storeIp call k =>
      rw [hposition] at hlocked
      exact absurd trivial hlocked
    | storeIpv6 call k =>
      rw [hposition] at hlocked
      exact absurd trivial hlocked
    | _ => exact ⟨nofun, nofun⟩
  exact ⟨hhistory.ip hstuck j hj hnot.1, hhistory.ipv6 hstuck j hj hnot.2⟩

/-- Only three statements touch the table. -/
theorem next_table (s : UpdateIps ι) (e : IpsEvent ι) :
    let n := config.allowedHosts.length
    (s.next config e).table = s.table ∨ ∃ i now, e = .thread i now ∧
      ((∃ call, s.position i = .resize call ∧
          (s.next config e).table = s.table.resize (n * 2) call.grown) ∨
        (∃ call k, s.position i = .storeIp call k ∧
          (s.next config e).table = s.table.set k s.buffers.mbIp) ∨
        (∃ call k, s.position i = .storeIpv6 call k ∧
          (s.next config e).table = s.table.set (k + n) s.buffers.mbIpv6)) := by
  intro n
  cases e with
  | call i call now ignoreTimeout =>
    left
    rw [UpdateIps.next]
    split
    · split_ifs
      · rfl
      · rfl
    · rfl
  | thread i now =>
    have hnext : s.next config (.thread i now) = s.threadStep config i now := rfl
    rw [hnext, UpdateIps.threadStep]
    cases hposition : s.position i with
    | tryLock call => left; cases s.mGdtEntriesUpdateMutex <;> rfl
    | lockTable call => left; cases s.mAllowedIpsMutex <;> rfl
    | resize call => exact .inr ⟨i, now, rfl, .inl ⟨call, hposition, rfl⟩⟩
    | loop call k =>
      left
      simp only
      split
      · split
        · rfl
        · rfl
      · rfl
    | lockSlots call k => left; cases s.mAllowedIpsMutex <;> rfl
    | storeIp call k => exact .inr ⟨i, now, rfl, .inr (.inl ⟨call, k, hposition, rfl⟩)⟩
    | storeIpv6 call k => exact .inr ⟨i, now, rfl, .inr (.inr ⟨call, k, hposition, rfl⟩)⟩
    | _ => exact .inl rfl
  | throw i written =>
    left
    rw [UpdateIps.next]
    split
    · rfl
    · rfl
  | reloadLock =>
    left
    rw [UpdateIps.next]
    split
    · rfl
    · rfl
  | reloadUnlock =>
    left
    rw [UpdateIps.next]
    split
    · rfl
    · rfl

/-- **Who writes a slot**: nobody but an update that has just resolved the slot's host. -/
theorem writer_of_run (config : Config) (capacity : ℕ) (events : List (IpsEvent ι)) :
    let n := config.allowedHosts.length
    let s := (updateIps ι config).run (.start capacity) events
    .resized ∈ (updateIps ι config).outputs (.start capacity) events →
      ∀ e q, (s.next config e).table.slot q ≠ s.table.slot q →
        ∃ i now call k, e = .thread i now ∧
          updateAllowedIp (call.getaddrinfo k) = (true, s.buffers) ∧
          (s.position i = .storeIp call k ∧ q = k ∨
            s.position i = .storeIpv6 call k ∧ q = k + n) := by
  intro n s hresized e q hchanged
  obtain ⟨howned, hhistory⟩ : Owned s ∧
      History n s.core ((updateIps ι config).outputs (.start capacity) events) :=
    history_run config capacity events
  rcases next_table s e with hsame | ⟨i, now, rfl, hwrite⟩
  · rw [hsame] at hchanged
    exact absurd rfl hchanged
  · rcases hwrite with ⟨call, hposition, htable⟩ | ⟨call, k, hposition, htable⟩ |
      ⟨call, k, hposition, htable⟩
    · -- the table has its size already, so the slots stay as they are
      have hlength : s.table.mAllowedIps.length = config.allowedHosts.length * 2 :=
        hhistory.length hresized
      rw [htable, AllowedIps.slot_resize_of_length hlength] at hchanged
      exact absurd rfl hchanged
    · have hcore := howned.core_position hposition trivial
      rw [htable] at hchanged
      have hqk : q = k := AllowedIps.eq_of_slot_set_ne hchanged
      have hresolved := (hhistory.storing call k (by rw [hcore]; rfl)).1
      exact ⟨i, now, call, k, rfl, hresolved, .inl ⟨hposition, hqk⟩⟩
    · have hcore := howned.core_position hposition trivial
      rw [htable] at hchanged
      have hqk : q = k + n := AllowedIps.eq_of_slot_set_ne hchanged
      have hresolved := (hhistory.storing call k (by rw [hcore]; rfl)).1
      exact ⟨i, now, call, k, rfl, hresolved, .inr ⟨hposition, hqk⟩⟩

end

end UpdateIps

end GdtCache.CacheServer
