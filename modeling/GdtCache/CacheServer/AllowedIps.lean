import Mathlib.Data.List.Basic
import Mathlib.Order.Lattice

/-!
# The allowed addresses

The table of `CacheServer` with the addresses of the hosts that may ask: how `updateAllowedIps`
fills it and how requests read it.

A call of `updateAllowedIps` changes the table in several critical sections (`Write`): first it
gives it two slots for each host, then it stores the texts of one host after another.  A reader may
come between any two of them, and a call that throws stops after some of them, so a table is
`Reachable` if calls lead to it of which each does any number of its writes.

Every slot of a reachable table is empty or holds an address of the host it belongs to
(`Reachable.slots`).
-/

namespace GdtCache

/-! ### Addresses -/

inductive AddressFamily
  | inet
  | inet6
  deriving DecidableEq

/-- `INET_ADDRSTRLEN` and `INET6_ADDRSTRLEN` -/
def AddressFamily.strLen : AddressFamily → ℕ
  | inet => 16
  | inet6 => 46

/-- The characters of addresses. -/
def isAddressChar (c : Char) : Bool :=
  c.isDigit || ('a' ≤ c && c ≤ 'f') || c = '.' || c = ':'

/-- An address with the text `inet_ntop` writes for it.  The text fits into a buffer of the family's
length together with the `'\0'` behind it. -/
structure Address where
  family : AddressFamily
  text : String
  nonempty : text ≠ ""
  chars : text.toList.all isAddressChar = true
  short : text.length < family.strLen

/-! ### The table -/

/-- `mAllowedIps`, a `std::vector`. -/
structure AllowedIps where
  mAllowedIps : List String
  capacity : ℕ
  size_le : mAllowedIps.length ≤ capacity

namespace AllowedIps

/-- An empty vector. -/
def new (capacity : ℕ) : AllowedIps :=
  ⟨[], capacity, Nat.zero_le capacity⟩

/-- `getAllowedIpsCount` -/
def getAllowedIpsCount (s : AllowedIps) : ℕ := s.capacity

/-- `getAllowedIp` -/
def getAllowedIp (s : AllowedIps) (i : ℕ) : String :=
  if h : i < s.mAllowedIps.length then s.mAllowedIps[i] else "error"

theorem getAllowedIp_of_lt {s : AllowedIps} {i : ℕ} (h : i < s.mAllowedIps.length) :
    s.getAllowedIp i = s.mAllowedIps[i] :=
  dif_pos h

theorem getAllowedIp_of_le {s : AllowedIps} {i : ℕ} (h : s.mAllowedIps.length ≤ i) :
    s.getAllowedIp i = "error" :=
  dif_neg (Nat.not_lt.mpr h)

/-- `mAllowedIps.resize(count, "")`; `grown` is the capacity that is allocated if the old one does
not suffice. -/
def resize (s : AllowedIps) (count grown : ℕ) : AllowedIps where
  mAllowedIps := s.mAllowedIps.take count ++ List.replicate (count - s.mAllowedIps.length) ""
  capacity := if count ≤ s.capacity then s.capacity else max count grown
  size_le := by
    have hlength : (s.mAllowedIps.take count
        ++ List.replicate (count - s.mAllowedIps.length) "").length = count := by
      simp only [List.length_append, List.length_take, List.length_replicate]
      omega
    rw [hlength]
    split_ifs with h
    · exact h
    · exact le_max_left count grown

/-- `mAllowedIps[i] = ip` -/
def set (s : AllowedIps) (i : ℕ) (ip : String) : AllowedIps where
  mAllowedIps := s.mAllowedIps.set i ip
  capacity := s.capacity
  size_le := by
    rw [List.length_set]
    exact s.size_le

/-- The text in slot `k`, empty if there is no such slot. -/
def slot (s : AllowedIps) (k : ℕ) : String := s.mAllowedIps[k]?.getD ""

@[simp] theorem length_resize (s : AllowedIps) (count grown : ℕ) :
    (s.resize count grown).mAllowedIps.length = count := by
  show (s.mAllowedIps.take count ++ List.replicate (count - s.mAllowedIps.length) "").length = count
  simp only [List.length_append, List.length_take, List.length_replicate]
  omega

@[simp] theorem length_set (s : AllowedIps) (k : ℕ) (ip : String) :
    (s.set k ip).mAllowedIps.length = s.mAllowedIps.length :=
  List.length_set

/-- Resizing leaves what stays alone. -/
theorem getElem?_resize {s : AllowedIps} {count k : ℕ} {ip : String} (hk : k < count) (grown : ℕ)
    (h : s.mAllowedIps[k]? = some ip) : (s.resize count grown).mAllowedIps[k]? = some ip := by
  obtain ⟨hlt, -⟩ := List.getElem?_eq_some_iff.mp h
  show (s.mAllowedIps.take count ++ List.replicate (count - s.mAllowedIps.length) "")[k]? = some ip
  rw [List.getElem?_append_left (by rw [List.length_take]; omega), List.getElem?_take_of_lt hk, h]

theorem slot_resize (s : AllowedIps) {count k : ℕ} (hk : k < count) (grown : ℕ) :
    (s.resize count grown).slot k = s.slot k := by
  unfold slot
  cases hold : s.mAllowedIps[k]? with
  | some ip => rw [getElem?_resize hk grown hold]
  | none =>
    have hle : s.mAllowedIps.length ≤ k := List.getElem?_eq_none_iff.mp hold
    show ((s.mAllowedIps.take count ++
      List.replicate (count - s.mAllowedIps.length) "")[k]?).getD "" = _
    -- the slot is a new one
    rw [List.getElem?_append_right (by rw [List.length_take]; omega), List.getElem?_replicate]
    split_ifs <;> rfl

/-- Resizing to the length there is leaves everything alone. -/
theorem slot_resize_of_length {s : AllowedIps} {count : ℕ} (h : s.mAllowedIps.length = count)
    (grown k : ℕ) : (s.resize count grown).slot k = s.slot k := by
  unfold slot
  show ((s.mAllowedIps.take count ++
    List.replicate (count - s.mAllowedIps.length) "")[k]?).getD "" = _
  rw [h, Nat.sub_self, List.replicate_zero, List.append_nil, List.take_of_length_le h.le]

theorem slot_set_self {s : AllowedIps} {k : ℕ} (hk : k < s.mAllowedIps.length) (ip : String) :
    (s.set k ip).slot k = ip := by
  show ((s.mAllowedIps.set k ip)[k]?).getD "" = ip
  rw [List.getElem?_set_self hk]
  rfl

theorem getElem?_set_of_ne (s : AllowedIps) {k q : ℕ} (h : k ≠ q) (ip : String) :
    (s.set k ip).mAllowedIps[q]? = s.mAllowedIps[q]? :=
  List.getElem?_set_ne h

theorem slot_set_of_ne (s : AllowedIps) {k q : ℕ} (h : k ≠ q) (ip : String) :
    (s.set k ip).slot q = s.slot q := by
  unfold slot
  rw [getElem?_set_of_ne s h]

/-- Storing a text changes one slot at most. -/
theorem eq_of_slot_set_ne {s : AllowedIps} {k q : ℕ} {ip : String}
    (h : (s.set k ip).slot q ≠ s.slot q) : q = k := by
  by_contra hne
  exact h (slot_set_of_ne s (Ne.symm hne) ip)

end AllowedIps

/-! ### One host -/

/-- The buffers `mbIp` and `mbIpv6`, as the strings in front of their `'\0'`. -/
structure AddressBuffers where
  mbIp : String
  mbIpv6 : String
  deriving DecidableEq

/-- `inet_ntop` into the buffer of the family. -/
def AddressBuffers.write (b : AddressBuffers) (a : Address) : AddressBuffers :=
  match a.family with
  | .inet => { b with mbIp := a.text }
  | .inet6 => { b with mbIpv6 := a.text }

/-- `updateAllowedIp` for the answer of `getaddrinfo`, `none` if it fails.  The buffers are cleared
before it is asked. -/
def updateAllowedIp (getaddrinfo : Option (List Address)) : Bool × AddressBuffers :=
  match getaddrinfo with
  | none => (false, ⟨"", ""⟩)
  | some addresses => (true, addresses.foldl AddressBuffers.write ⟨"", ""⟩)

/-! ### One call -/

/-- What the critical sections of `updateAllowedIps` do to the table. -/
inductive Write
  | resize (grown : ℕ)
  | store (i : ℕ) (b : AddressBuffers)

/-- What a call of `updateAllowedIps` meets. -/
structure UpdateIpsCall where
  /-- The answers for the hosts. -/
  getaddrinfo : ℕ → Option (List Address)
  /-- What is allocated if the table grows. -/
  grown : ℕ

/-- One critical section. -/
def Write.apply (hostsCount : ℕ) (s : AllowedIps) : Write → AllowedIps
  | .resize grown => s.resize (hostsCount * 2) grown
  | .store i b => (s.set i b.mbIp).set (i + hostsCount) b.mbIpv6

/-- The critical sections of a call that runs to its end. -/
def UpdateIpsCall.writes (call : UpdateIpsCall) (hostsCount : ℕ) : List Write :=
  .resize call.grown :: (List.range hostsCount).filterMap fun i =>
    match updateAllowedIp (call.getaddrinfo i) with
    | (true, b) => some (.store i b)
    | (false, _) => none

namespace AllowedIps

/-- The tables of an allowed hosts list.  `Resolves host a` says that `host` was resolved to `a` at
some time; nothing else is assumed about the answers of `getaddrinfo`. -/
inductive Reachable (allowedHosts : List String) (Resolves : String → Address → Prop) :
    AllowedIps → Prop
  | new (capacity : ℕ) : Reachable allowedHosts Resolves (new capacity)
  | update {s : AllowedIps} (call : UpdateIpsCall)
    (answers : ∀ i host addresses, allowedHosts[i]? = some host →
      call.getaddrinfo i = some addresses → ∀ a ∈ addresses, Resolves host a)
    (n : ℕ) : Reachable allowedHosts Resolves s → Reachable allowedHosts Resolves
      (((call.writes allowedHosts.length).take n).foldl (Write.apply allowedHosts.length) s)

/-! ### What the slots hold -/

variable {allowedHosts : List String} {Resolves : String → Address → Prop}

/-- The text is an address of the host that slot `k` belongs to. -/
def FromHost (allowedHosts : List String) (Resolves : String → Address → Prop) (k : ℕ)
    (ip : String) : Prop :=
  ∃ i host a, allowedHosts[i]? = some host ∧ (k = i ∨ k = i + allowedHosts.length) ∧
    Resolves host a ∧ a.text = ip

/-- The text is stored in the table for an allowed host. -/
def StoredFor (allowedHosts : List String) (Resolves : String → Address → Prop) (s : AllowedIps)
    (ip : String) : Prop :=
  ∃ k, s.mAllowedIps[k]? = some ip ∧ FromHost allowedHosts Resolves k ip

/-- Every slot is empty or holds an address of its host. -/
def Slots (allowedHosts : List String) (Resolves : String → Address → Prop) (s : AllowedIps) :
    Prop :=
  ∀ k ip, s.mAllowedIps[k]? = some ip → ip = "" ∨ FromHost allowedHosts Resolves k ip

/-- `updateAllowedIp` leaves nothing in the buffers but addresses of its host. -/
theorem updateAllowedIp_spec {getaddrinfo : Option (List Address)} {b : AddressBuffers}
    (h : updateAllowedIp getaddrinfo = (true, b)) :
    ∃ addresses, getaddrinfo = some addresses ∧
      (b.mbIp = "" ∨ ∃ a ∈ addresses, a.text = b.mbIp) ∧
      (b.mbIpv6 = "" ∨ ∃ a ∈ addresses, a.text = b.mbIpv6) := by
  cases getaddrinfo with
  | none => cases h
  | some addresses =>
    cases h
    refine ⟨addresses, rfl, ?_⟩
    refine List.foldlRecOn (motive := fun b : AddressBuffers =>
      (b.mbIp = "" ∨ ∃ a ∈ addresses, a.text = b.mbIp) ∧
        (b.mbIpv6 = "" ∨ ∃ a ∈ addresses, a.text = b.mbIpv6))
      addresses AddressBuffers.write ⟨.inl rfl, .inl rfl⟩ ?_
    rintro b ⟨hip, hipv6⟩ a ha
    unfold AddressBuffers.write
    cases a.family with
    | inet => exact ⟨.inr ⟨a, ha, rfl⟩, hipv6⟩
    | inet6 => exact ⟨hip, .inr ⟨a, ha, rfl⟩⟩

theorem Slots.new (capacity : ℕ) : Slots allowedHosts Resolves (new capacity) := by
  intro k ip hk
  cases hk

theorem Slots.resize {s : AllowedIps} (h : Slots allowedHosts Resolves s) (count grown : ℕ) :
    Slots allowedHosts Resolves (s.resize count grown) := by
  intro k ip hk
  show ip = "" ∨ _
  have hk : (s.mAllowedIps.take count
      ++ List.replicate (count - s.mAllowedIps.length) "")[k]? = some ip := hk
  rw [List.getElem?_append] at hk
  split_ifs at hk with hlt
  · rw [List.getElem?_take_of_lt (by simp at hlt; omega)] at hk
    exact h k ip hk
  · -- the new slots are empty
    exact .inl (List.eq_of_mem_replicate (List.mem_of_getElem? hk))

theorem Slots.set {s : AllowedIps} (h : Slots allowedHosts Resolves s) {i : ℕ} {ip : String}
    (hip : ip = "" ∨ FromHost allowedHosts Resolves i ip) :
    Slots allowedHosts Resolves (s.set i ip) := by
  intro k ip' hk
  have hk : (s.mAllowedIps.set i ip)[k]? = some ip' := hk
  rw [List.getElem?_set] at hk
  split_ifs at hk with hik hlt
  · obtain rfl := Option.some.inj hk
    rwa [← hik]
  · exact h k ip' hk

/-- **What a reachable table holds**: every slot is empty or has an address of its host. -/
theorem Reachable.slots {s : AllowedIps} (h : Reachable allowedHosts Resolves s) :
    Slots allowedHosts Resolves s := by
  induction h with
  | new capacity => exact .new capacity
  | @update s call answers n _ ih =>
    refine List.foldlRecOn _ (Write.apply allowedHosts.length) ih fun s hs w hw => ?_
    rcases List.mem_cons.mp (List.mem_of_mem_take hw) with rfl | hw
    · exact hs.resize _ _
    · obtain ⟨i, hi, hstore⟩ := List.mem_filterMap.mp hw
      have hi : i < allowedHosts.length := List.mem_range.mp hi
      have hhost := List.getElem?_eq_getElem hi
      split at hstore
      · rename_i b heq
        obtain rfl := Option.some.inj hstore
        obtain ⟨addresses, hanswer, hip, hipv6⟩ := updateAllowedIp_spec heq
        have hfrom : ∀ a ∈ addresses, Resolves allowedHosts[i] a :=
          answers i _ addresses hhost hanswer
        refine (hs.set (hip.imp_right ?_)).set (hipv6.imp_right ?_)
        · rintro ⟨a, ha, htext⟩
          exact ⟨i, _, a, hhost, .inl rfl, hfrom a ha, htext⟩
        · rintro ⟨a, ha, htext⟩
          exact ⟨i, _, a, hhost, .inr rfl, hfrom a ha, htext⟩
      · cases hstore

/-- What a reachable table holds is stored for a host, but for empty slots. -/
theorem Reachable.storedFor {s : AllowedIps} (h : Reachable allowedHosts Resolves s) {ip : String}
    (hmem : ip ∈ s.mAllowedIps) (hne : ip ≠ "") : StoredFor allowedHosts Resolves s ip := by
  obtain ⟨k, hk⟩ := List.getElem?_of_mem hmem
  exact ⟨k, hk, (h.slots k ip hk).resolve_left hne⟩

/-- It is the text of an address. -/
theorem StoredFor.exists_address {s : AllowedIps} {ip : String}
    (h : StoredFor allowedHosts Resolves s ip) : ∃ a : Address, a.text = ip := by
  obtain ⟨k, -, i, host, a, -, -, -, htext⟩ := h
  exact ⟨a, htext⟩

end AllowedIps

end GdtCache
