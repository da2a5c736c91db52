import GdtCache.CacheServer.Equiv.AllowedIps

/-!
# Which addresses are allowed

`updateAllowedIp` writes all the addresses of a host into one buffer for each family, so the last
one of each family is left, and there is one slot for it.  After an update an address is allowed if
and only if it is the last one of its family in the answer for a host, or is still there from an
earlier answer for a host that could not be resolved this time (`mem_mAllowedIps_iff`).
-/

namespace GdtCache

/-! ### The buffers -/

/-- `b` is the last address of its family. -/
def LastOfFamily (addresses : List Address) (b : Address) : Prop :=
  ∃ pre post, addresses = pre ++ b :: post ∧ ∀ a ∈ post, a.family ≠ b.family

namespace AddressBuffers

/-- The buffer of a family. -/
def get (b : AddressBuffers) : AddressFamily → String
  | .inet => b.mbIp
  | .inet6 => b.mbIpv6

theorem get_write (b : AddressBuffers) (a : Address) (f : AddressFamily) :
    (b.write a).get f = if a.family = f then a.text else b.get f := by
  unfold write
  cases hfamily : a.family with
  | inet => cases f <;> rfl
  | inet6 => cases f <;> rfl

theorem get_foldl_of_forall_ne {addresses : List Address} {f : AddressFamily}
    (h : ∀ a ∈ addresses, a.family ≠ f) (b : AddressBuffers) :
    (addresses.foldl write b).get f = b.get f := by
  induction addresses generalizing b with
  | nil => rfl
  | cons a addresses ih =>
    rw [List.foldl_cons, ih (fun a' ha' => h a' (List.mem_cons_of_mem a ha')), get_write,
      if_neg (h a List.mem_cons_self)]

/-- The last address of a family is left in its buffer. -/
theorem get_foldl_of_last {addresses : List Address} {a : Address}
    (h : LastOfFamily addresses a) (b : AddressBuffers) :
    (addresses.foldl write b).get a.family = a.text := by
  obtain ⟨pre, post, rfl, hpost⟩ := h
  rw [List.foldl_append, List.foldl_cons, get_foldl_of_forall_ne hpost, get_write, if_pos rfl]

/-- A family has a last address, or none. -/
theorem exists_last_or (addresses : List Address) (f : AddressFamily) :
    (∃ a, LastOfFamily addresses a ∧ a.family = f) ∨ ∀ a ∈ addresses, a.family ≠ f := by
  induction addresses with
  | nil => exact .inr nofun
  | cons a addresses ih =>
    -- the head is the last one only if there is none behind it
    rcases ih with ⟨a', ⟨pre, post, rfl, hpost⟩, hfamily⟩ | hnone
    · exact .inl ⟨a', ⟨a :: pre, post, rfl, hpost⟩, hfamily⟩
    · by_cases ha : a.family = f
      · exact .inl ⟨a, ⟨[], addresses, rfl, ha ▸ hnone⟩, ha⟩
      · right
        intro a' ha'
        rcases List.mem_cons.mp ha' with rfl | ha'
        · exact ha
        · exact hnone a' ha'

end AddressBuffers

/-- What `updateAllowedIp` leaves in the buffers, if anything, are the last addresses. -/
theorem exists_get_eq_iff {addresses : List Address} {b : AddressBuffers}
    (h : updateAllowedIp (some addresses) = (true, b)) (a : Address) :
    (∃ f, b.get f = a.text) ↔ ∃ a', LastOfFamily addresses a' ∧ a'.text = a.text := by
  cases h
  constructor
  · rintro ⟨f, hf⟩
    rcases AddressBuffers.exists_last_or addresses f with ⟨a', hlast, rfl⟩ | hnone
    · rw [AddressBuffers.get_foldl_of_last hlast] at hf
      exact ⟨a', hlast, hf⟩
    · -- a buffer nothing was written to is empty, and no address is
      rw [AddressBuffers.get_foldl_of_forall_ne hnone] at hf
      have hempty : a.text = "" := by rw [← hf]; cases f <;> rfl
      exact absurd hempty a.nonempty
  · rintro ⟨a', hlast, htext⟩
    exact ⟨a'.family, (AddressBuffers.get_foldl_of_last hlast _).trans htext⟩

namespace CacheServer

open GdtCache.Lib GdtCache.Model

namespace UpdateIps

variable {ι : Type}

/-! ### The table after an update -/

/-- After an update every slot holds what the last successful resolution of its host has left. -/
theorem mem_table_iff {s : UpdateIps ι} {outputs : List IpsOutput} {n : ℕ} (howned : Owned s)
    (hhistory : History n s.core outputs) {i : ι} {call : UpdateIpsCall}
    (hposition : s.position i = .leave call) {ip : String} :
    ip ∈ s.table.mAllowedIps ↔ ∃ k < n, ∃ f, (lastResolved outputs k).get f = ip := by
  have hcore : s.core.position = .leave call := howned.core_position hposition trivial
  have hstuck : ¬ s.core.Stuck := by
    rintro ⟨hlocked, -⟩
    rw [hhistory.unlocked (by rw [hcore]; trivial)] at hlocked
    cases hlocked
  have hlength : s.table.mAllowedIps.length = n * 2 :=
    hhistory.length (hhistory.resized (by rw [hcore]; trivial))
  have hip (k : ℕ) (hk : k < n) : s.table.slot k = (lastResolved outputs k).get .inet :=
    hhistory.ip hstuck k hk (by rw [hcore]; nofun)
  have hipv6 (k : ℕ) (hk : k < n) : s.table.slot (k + n) = (lastResolved outputs k).get .inet6 :=
    hhistory.ipv6 hstuck k hk (by rw [hcore]; nofun)
  have hslot (q : ℕ) (hq : q < n * 2) : s.table.mAllowedIps[q]? = some (s.table.slot q) := by
    rw [AllowedIps.slot, List.getElem?_eq_getElem (by omega), Option.getD_some]
  constructor
  · intro hmem
    obtain ⟨q, hq⟩ := List.getElem?_of_mem hmem
    have hlt : q < n * 2 := by
      obtain ⟨hlt, -⟩ := List.getElem?_eq_some_iff.mp hq
      omega
    rw [hslot q hlt] at hq
    -- IPv4 texts are in the first half, IPv6 texts in the second
    by_cases hqn : q < n
    · exact ⟨q, hqn, .inet, (hip q hqn).symm.trans (Option.some.inj hq)⟩
    · refine ⟨q - n, by omega, .inet6, ?_⟩
      rw [← hipv6 (q - n) (by omega), Nat.sub_add_cancel (by omega)]
      exact Option.some.inj hq
  · rintro ⟨k, hk, f, hf⟩
    cases f with
    | inet =>
      rw [← hip k hk] at hf
      exact List.mem_of_getElem? (hf ▸ hslot k (by omega))
    | inet6 =>
      rw [← hipv6 k hk] at hf
      exact List.mem_of_getElem? (hf ▸ hslot (k + n) (by omega))

variable [DecidableEq ι]

/-- The last thing a call does leaves the table alone. -/
theorem table_of_leave {config : Config} {s : UpdateIps ι} {i : ι} {call : UpdateIpsCall}
    (h : s.position i = .leave call) (now : ℤ) :
    (s.next config (.thread i now)).table = s.table := by
  rw [UpdateIps.next, threadStep, h]
  rfl

/-- **Which addresses are allowed after an update.**  When a call has come to its end and returns
`OK`, an address of a host is in the table if and only if its text is that of the last address of
its family in the answer for some host, or has been left by an earlier answer for a host that this
call could not resolve. -/
theorem mem_mAllowedIps_iff (config : Config) (capacity : ℕ) (events : List (IpsEvent ι)) (i : ι)
    (now : ℤ) (call : UpdateIpsCall) :
    let n := config.allowedHosts.length
    let s := (updateIps ι config).run (.start capacity) events
    let outputs := (updateIps ι config).outputs (.start capacity) events
    s.position i = .leave call →
      s.Returns config (.thread i now) i .OK ∧
      ∀ j < n, ∀ addresses, call.getaddrinfo j = some addresses → ∀ a ∈ addresses,
        (a.text ∈ (s.next config (.thread i now)).table.mAllowedIps ↔
          (∃ k < n, ∃ addresses', call.getaddrinfo k = some addresses' ∧
            ∃ a', LastOfFamily addresses' a' ∧ a'.text = a.text) ∨
          (∃ k < n, call.getaddrinfo k = none ∧ ∃ f, (lastResolved outputs k).get f = a.text)) := by
  intro n s outputs hposition
  obtain ⟨howned, hhistory⟩ : Owned s ∧ History n s.core outputs :=
    history_run config capacity events
  refine ⟨.ok hposition, fun j hj addresses hanswer a ha => ?_⟩
  rw [table_of_leave hposition now, mem_table_iff howned hhistory hposition]
  have hcore : s.core.position = .leave call := howned.core_position hposition trivial
  have hresolved (k : ℕ) (hk : k < n) (addresses' : List Address)
      (hanswer : call.getaddrinfo k = some addresses') :
      updateAllowedIp (some addresses') = (true, lastResolved outputs k) := by
    have hb : updateAllowedIp (call.getaddrinfo k) =
        (true, addresses'.foldl AddressBuffers.write ⟨"", ""⟩) := by
      rw [hanswer]
      rfl
    rw [hhistory.dealt call n (by rw [hcore]; rfl) k hk _ hb]
    rfl
  constructor
  · rintro ⟨k, hk, hf⟩
    cases hk' : call.getaddrinfo k with
    | some addresses' =>
      exact .inl ⟨k, hk, addresses', hk', (exists_get_eq_iff (hresolved k hk _ hk') a).mp hf⟩
    | none => exact .inr ⟨k, hk, hk', hf⟩
  · rintro (⟨k, hk, addresses', hk', hlast⟩ | ⟨k, hk, -, hf⟩)
    · exact ⟨k, hk, (exists_get_eq_iff (hresolved k hk _ hk') a).mpr hlast⟩
    · exact ⟨k, hk, hf⟩

/-- Two addresses of one family. -/
def sampleAddresses : List Address :=
  [⟨.inet, "198.51.100.1", by decide, by decide, by decide⟩,
    ⟨.inet, "198.51.100.2", by decide, by decide, by decide⟩]

/-- An update of one host with these addresses, but for its return. -/
def sampleResolution : List (IpsEvent Bool) :=
  .call true ⟨fun _ => some sampleAddresses, 2⟩ 0 true :: List.replicate 12 (.thread true 0)

/-- The second address is allowed. -/
theorem mem_mAllowedIps_iff_of_last :
    let config : Config := { allowedHosts := ["gdt.example"] }
    let s := (updateIps Bool config).run (.start 0) sampleResolution
    "198.51.100.2" ∈ (s.next config (.thread true 0)).table.mAllowedIps := by
  intro config s
  obtain ⟨-, h⟩ := mem_mAllowedIps_iff config 0 sampleResolution true 0
    ⟨fun _ => some sampleAddresses, 2⟩ rfl
  refine (h 0 (by decide) sampleAddresses rfl _ (.tail _ (.head _))).mpr (.inl ?_)
  exact ⟨0, by decide, sampleAddresses, rfl, _, ⟨[_], [], rfl, nofun⟩, rfl⟩

/-- The first one is not. -/
theorem not_forall_mem_mAllowedIps :
    ¬ ∀ (config : Config) (events : List (IpsEvent Bool)) (i : Bool) (now : ℤ)
        (call : UpdateIpsCall),
      let s := (updateIps Bool config).run (.start 0) events
      s.position i = .leave call →
        ∀ j < config.allowedHosts.length, ∀ addresses, call.getaddrinfo j = some addresses →
          ∀ a ∈ addresses, a.text ∈ (s.next config (.thread i now)).table.mAllowedIps := by
  intro h
  have hmem := h { allowedHosts := ["gdt.example"] } sampleResolution true 0
    ⟨fun _ => some sampleAddresses, 2⟩ rfl 0 (by decide) sampleAddresses rfl _ (.head _)
  exact absurd hmem (by decide)

end UpdateIps

end CacheServer

end GdtCache
