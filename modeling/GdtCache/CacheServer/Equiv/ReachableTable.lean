import GdtCache.CacheServer.Equiv.AllowedIps

/-!
# Tables that can be read are reachable

`AllowedIps.Reachable` knows a call of `updateAllowedIps` by its critical sections, one write after
another.  Here the steps of the threads are shown to be such writes: at every point of an update the
table is what the first writes of its call make of a reachable table (`Filled`), and so a table
that can be read is reachable (`reachable_of_run`).
-/

namespace GdtCache

namespace UpdateIpsCall

/-- The answers for the hosts of the list are resolutions of these hosts. -/
def Answers (allowedHosts : List String) (Resolves : String → Address → Prop)
    (call : UpdateIpsCall) : Prop :=
  ∀ i host addresses, allowedHosts[i]? = some host → call.getaddrinfo i = some addresses →
    ∀ a ∈ addresses, Resolves host a

theorem writes_succ_of_resolved {call : UpdateIpsCall} {k : ℕ} {b : AddressBuffers}
    (h : updateAllowedIp (call.getaddrinfo k) = (true, b)) :
    call.writes (k + 1) = call.writes k ++ [.store k b] := by
  unfold writes
  rw [List.range_succ, List.filterMap_append, List.cons_append]
  simp [h]

theorem writes_succ_of_failed {call : UpdateIpsCall} {k : ℕ} {b : AddressBuffers}
    (h : updateAllowedIp (call.getaddrinfo k) = (false, b)) :
    call.writes (k + 1) = call.writes k := by
  unfold writes
  rw [List.range_succ, List.filterMap_append]
  simp [h]

/-- The writes for the first hosts come first. -/
theorem writes_prefix (call : UpdateIpsCall) {k n : ℕ} (h : k ≤ n) :
    call.writes k <+: call.writes n := by
  have hrange : List.range k <+: List.range n := by
    rw [List.prefix_iff_eq_take, List.length_range, List.take_range, Nat.min_eq_left h]
  exact (List.prefix_cons_inj _).mpr (hrange.filterMap _)

end UpdateIpsCall

namespace CacheServer

open GdtCache.AllowedIps GdtCache.Lib GdtCache.Model

variable {allowedHosts : List String} {Resolves : String → Address → Prop}

/-! ### Prefixes of a call -/

/-- The table is what the writes of a call for its first `k` hosts make of a reachable table. -/
def Written (allowedHosts : List String) (Resolves : String → Address → Prop)
    (call : UpdateIpsCall) (k : ℕ) (t : AllowedIps) : Prop :=
  k ≤ allowedHosts.length ∧ ∃ base, AllowedIps.Reachable allowedHosts Resolves base ∧
    t = (call.writes k).foldl (Write.apply allowedHosts.length) base

theorem Written.reachable {call : UpdateIpsCall} {k : ℕ} {t : AllowedIps}
    (h : Written allowedHosts Resolves call k t) (hcall : call.Answers allowedHosts Resolves) :
    AllowedIps.Reachable allowedHosts Resolves t := by
  obtain ⟨hk, base, hbase, rfl⟩ := h
  rw [List.prefix_iff_eq_take.mp (call.writes_prefix hk)]
  exact .update call hcall _ hbase

theorem Written.store {call : UpdateIpsCall} {k : ℕ} {t : AllowedIps} {b : AddressBuffers}
    (h : Written allowedHosts Resolves call k t) (hk : k < allowedHosts.length)
    (hb : updateAllowedIp (call.getaddrinfo k) = (true, b)) :
    Written allowedHosts Resolves call (k + 1)
      ((t.set k b.mbIp).set (k + allowedHosts.length) b.mbIpv6) := by
  obtain ⟨-, base, hbase, rfl⟩ := h
  refine ⟨hk, base, hbase, ?_⟩
  rw [UpdateIpsCall.writes_succ_of_resolved hb, List.foldl_append]
  rfl

theorem Written.fail {call : UpdateIpsCall} {k : ℕ} {t : AllowedIps} {b : AddressBuffers}
    (h : Written allowedHosts Resolves call k t) (hk : k < allowedHosts.length)
    (hb : updateAllowedIp (call.getaddrinfo k) = (false, b)) :
    Written allowedHosts Resolves call (k + 1) t := by
  obtain ⟨-, base, hbase, rfl⟩ := h
  refine ⟨hk, base, hbase, ?_⟩
  rw [UpdateIpsCall.writes_succ_of_failed hb]

/-! ### Steps -/

/-- The call a thread is in. -/
def IpsPosition.call? : IpsPosition → Option UpdateIpsCall
  | idle => none
  | tryLock call => some call
  | lockTable call => some call
  | resize call => some call
  | unlockTable call => some call
  | loop call _ => some call
  | lockSlots call _ => some call
  | storeIp call _ => some call
  | storeIpv6 call _ => some call
  | unlockSlots call _ => some call
  | stamp call => some call
  | unlockUpdate call => some call
  | leave call => some call

/-- What the update in progress has written so far. -/
def Filled (allowedHosts : List String) (Resolves : String → Address → Prop) (c : IpsCore) : Prop :=
  match c.position with
  | .unlockTable call => Written allowedHosts Resolves call 0 c.table
  | .loop call k => Written allowedHosts Resolves call k c.table
  | .lockSlots call k => Written allowedHosts Resolves call k c.table
  | .storeIp call k => Written allowedHosts Resolves call k c.table
  | .storeIpv6 call k => ∃ t, Written allowedHosts Resolves call k t ∧
    c.table = t.set k c.buffers.mbIp
  | .unlockSlots call k => Written allowedHosts Resolves call (k + 1) c.table
  | .stamp call => Written allowedHosts Resolves call allowedHosts.length c.table
  | .unlockUpdate call => Written allowedHosts Resolves call allowedHosts.length c.table
  | .leave call => Written allowedHosts Resolves call allowedHosts.length c.table
  | _ => ¬ c.Stuck → AllowedIps.Reachable allowedHosts Resolves c.table

variable {c c' : IpsCore} {o : IpsOutput} {outputs : List IpsOutput}

/-- **Step.** -/
theorem Filled.next (h : Filled allowedHosts Resolves c)
    (hhistory : History allowedHosts.length c outputs)
    (hstep : CoreStep allowedHosts.length c o c')
    (hcall : ∀ call, c.position.call? = some call → call.Answers allowedHosts Resolves) :
    Filled allowedHosts Resolves c' := by
  cases hstep with
  | stay => exact h
  | enter => exact h
  | lockTable => exact fun _ => h fun hstuck => Bool.noConfusion hstuck.1
  | resize call t b l =>
    have hbase : AllowedIps.Reachable allowedHosts Resolves t := h fun hstuck => hstuck.2 trivial
    exact ⟨Nat.zero_le _, t, hbase, rfl⟩
  | unlockTable => exact h
  | resolved => exact h
  | failed call k t b b' l hk hfailed => exact h.fail hk hfailed
  | done call k t b l hk =>
    have hle : k ≤ allowedHosts.length := h.1
    obtain rfl : k = allowedHosts.length := le_antisymm hle hk
    exact h
  | lockSlots => exact h
  | storeIp call k t b l => exact ⟨t, h, rfl⟩
  | storeIpv6 call k t b l =>
    -- both slots of the host are written now, as in one write
    obtain ⟨t', ht', htable⟩ := h
    have htable : t = t'.set k b.mbIp := htable
    subst htable
    exact ht'.store (hhistory.within call k rfl) (hhistory.storing call k rfl).1
  | unlockSlots => exact h
  | stamp => exact h
  | unlockUpdate => exact h
  | leave call t b l => exact fun _ => h.reachable (hcall call rfl)
  | throw p t b b' l hp =>
    -- the writes so far are those of an update that stops there, unless the table is left locked
    intro hstuck
    cases p with
    | resize call => exact h fun hstuck => hstuck.2 trivial
    | loop call k => exact h.reachable (hcall call rfl)
    | storeIp call k => exact absurd ⟨hhistory.locked trivial, id⟩ hstuck
    | storeIpv6 call k => exact absurd ⟨hhistory.locked trivial, id⟩ hstuck
    | _ => exact absurd hp id

/-- Where nobody owns `mAllowedIpsMutex`, the table is reachable. -/
theorem Filled.reachable (h : Filled allowedHosts Resolves c) (hstuck : ¬ c.Stuck)
    (hnot : ¬ c.position.OwnsTable)
    (hcall : ∀ call, c.position.call? = some call → call.Answers allowedHosts Resolves) :
    AllowedIps.Reachable allowedHosts Resolves c.table := by
  obtain ⟨p, t, b, l⟩ := c
  cases p with
  | loop call k => exact h.reachable (hcall call rfl)
  | lockSlots call k => exact h.reachable (hcall call rfl)
  | stamp call => exact h.reachable (hcall call rfl)
  | unlockUpdate call => exact h.reachable (hcall call rfl)
  | leave call => exact h.reachable (hcall call rfl)
  | idle => exact h hstuck
  | tryLock call => exact h hstuck
  | lockTable call => exact h hstuck
  | _ => exact absurd trivial hnot

/-! ### Runs -/

namespace UpdateIps

variable {ι : Type} {config : Config} {s : UpdateIps ι} {i : ι} {p : IpsPosition}

/-- The calls the threads are in have answers for their hosts. -/
def Answered (allowedHosts : List String) (Resolves : String → Address → Prop)
    (s : UpdateIps ι) : Prop :=
  ∀ i call, (s.position i).call? = some call → call.Answers allowedHosts Resolves

/-- The event does not begin a call without such answers. -/
def AnsweredEvent (allowedHosts : List String) (Resolves : String → Address → Prop) :
    IpsEvent ι → Prop
  | .call _ call _ _ => call.Answers allowedHosts Resolves
  | _ => True

theorem Answered.core (h : Answered allowedHosts Resolves s) {call : UpdateIpsCall}
    (hcall : s.core.position.call? = some call) : call.Answers allowedHosts Resolves := by
  by_cases hidle : s.active = .idle
  · rw [show s.core.position = .idle from hidle] at hcall
    cases hcall
  · obtain ⟨i, -, hposition⟩ := exists_position_of_active rfl hidle
    exact h i call (by rw [hposition]; exact hcall)

variable [DecidableEq ι]

theorem Answered.setPosition (h : Answered allowedHosts Resolves s)
    (hp : ∀ call, p.call? = some call → call.Answers allowedHosts Resolves) :
    Answered allowedHosts Resolves (s.setPosition i p) := by
  intro j call hcall
  by_cases hj : j = i
  · subst hj
    rw [setPosition_self] at hcall
    exact hp call hcall
  · rw [setPosition_of_ne s hj] at hcall
    exact h j call hcall

/-- A thread stays in its call until it is out of it. -/
theorem threadStep_call? (s : UpdateIps ι) (i : ι) (now : ℤ) :
    s.threadStep config i now = s ∨
      ∃ (s' : UpdateIps ι) (p : IpsPosition), s.threadStep config i now = s'.setPosition i p ∧
        s'.position = s.position ∧ (p.call? = (s.position i).call? ∨ p = .idle) := by
  unfold threadStep
  cases hposition : s.position i with
  | idle => exact .inl rfl
  | tryLock call =>
    cases s.mGdtEntriesUpdateMutex with
    | none => exact .inr ⟨_, _, rfl, rfl, .inl rfl⟩
    | some owner => exact .inr ⟨_, _, rfl, rfl, .inr rfl⟩
  | lockTable call =>
    cases s.mAllowedIpsMutex with
    | none => exact .inr ⟨_, _, rfl, rfl, .inl rfl⟩
    | some owner => exact .inl rfl
  | lockSlots call k =>
    cases s.mAllowedIpsMutex with
    | none => exact .inr ⟨_, _, rfl, rfl, .inl rfl⟩
    | some owner => exact .inl rfl
  | loop call k =>
    right
    simp only
    split
    · split
      · exact ⟨_, _, rfl, rfl, .inl rfl⟩
      · exact ⟨_, _, rfl, rfl, .inl rfl⟩
    · exact ⟨_, _, rfl, rfl, .inl rfl⟩
  | leave call => exact .inr ⟨_, _, rfl, rfl, .inr rfl⟩
  | _ => exact .inr ⟨_, _, rfl, rfl, .inl rfl⟩

theorem Answered.next (h : Answered allowedHosts Resolves s) {e : IpsEvent ι}
    (he : AnsweredEvent allowedHosts Resolves e) :
    Answered allowedHosts Resolves (s.next config e) := by
  cases e with
  | call i call now ignoreTimeout =>
    rw [UpdateIps.next]
    split
    · split_ifs
      · exact h.setPosition fun call' hcall => by cases hcall; exact he
      · exact h
    · exact h
  | thread i now =>
    show Answered allowedHosts Resolves (s.threadStep config i now)
    rcases threadStep_call? s i now with hsame | ⟨s', p, hstep, hposition, hp⟩
    · rw [hsame]
      exact h
    · rw [hstep]
      have hs' : Answered allowedHosts Resolves s' := fun j => by rw [hposition]; exact h j
      refine hs'.setPosition fun call hcall => ?_
      rcases hp with hp | rfl
      · exact h i call (hp ▸ hcall)
      · cases hcall
  | throw i written =>
    rw [UpdateIps.next]
    split
    · next b hthrown =>
      have hbuffers : Answered allowedHosts Resolves
          { s with buffers := b, mGdtEntriesUpdateMutex := none } := h
      exact hbuffers.setPosition fun call hcall => by cases hcall
    · exact h
  | reloadLock =>
    rw [UpdateIps.next]
    split
    · exact h
    · exact h
  | reloadUnlock =>
    rw [UpdateIps.next]
    split
    · exact h
    · exact h

/-- **Whatever table can be read in a run is reachable**, if the answers of all calls are
resolutions of the hosts. -/
theorem reachable_of_run (config : Config) (Resolves : String → Address → Prop) (capacity : ℕ)
    (events : List (IpsEvent ι))
    (hanswers : ∀ e ∈ events, AnsweredEvent config.allowedHosts Resolves e) :
    let s := (updateIps ι config).run (.start capacity) events
    s.Readable → AllowedIps.Reachable config.allowedHosts Resolves s.table := by
  intro s hreadable
  let I (s : UpdateIps ι) (outputs : List IpsOutput) : Prop :=
    Owned s ∧ History config.allowedHosts.length s.core outputs ∧
      Answered config.allowedHosts Resolves s ∧ Filled config.allowedHosts Resolves s.core
  have hinv : I s ((updateIps ι config).outputs (.start capacity) events) := by
    obtain ⟨howned, hhistory⟩ : Owned (.start capacity : UpdateIps ι) ∧
        History config.allowedHosts.length (start capacity : UpdateIps ι).core [] :=
      history_run config capacity []
    refine Machine.run_outputs_induction (I := I)
      ⟨howned, hhistory, nofun, fun _ => .new capacity⟩ ?_
    rintro e he s outputs ⟨howned, hhistory, hanswered, hfilled⟩
    have hstep : CoreStep config.allowedHosts.length s.core (s.out config e)
        (s.next config e).core := next_coreStep howned e
    exact ⟨howned.next e, hhistory.next hstep, hanswered.next (hanswers e he),
      hfilled.next hhistory hstep fun _ => hanswered.core⟩
  obtain ⟨howned, hhistory, hanswered, hfilled⟩ := hinv
  exact hfilled.reachable (not_stuck_of_readable hreadable)
    (not_ownsTable_of_readable hhistory hreadable) fun _ => hanswered.core

end UpdateIps

end CacheServer

end GdtCache
