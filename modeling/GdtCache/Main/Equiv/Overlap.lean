import GdtCache.CacheServer.Equiv.ReachableTable
import GdtCache.CacheServer.Equiv.SteadySlot
import GdtCache.Main.Equiv.CheckIpAuthorized
import Mathlib.Data.List.MinMax

/-!
# Scans and updates at the same time

`checkIpAuthorized` reads the count and the slots of the table one at a time, while updates go on.
A scan finds a text that its slot holds whenever no update is in progress, wherever the readings
fall (`scan_of_states`).  Together with what the slots hold and who writes them this is the law of
the table (`table_of_run`).
-/

namespace GdtCache

open GdtCache.AllowedIps GdtCache.CacheServer GdtCache.CacheServer.UpdateIps GdtCache.Lib
  GdtCache.Model

variable {ι : Type} {config : Config} {Resolves : String → Address → Prop}

/-- Everything the scan reads it reads in one of the states, from a table that can be read. -/
def Watch.Sees (w : Watch config.allowedHosts Resolves) (states : List (UpdateIps ι)) : Prop :=
  ∀ k, (∃ s ∈ states, s.Readable ∧ w.counted k = s.table) ∧
    ∃ s ∈ states, s.Readable ∧ w.compared k = s.table

/-- A scan finds what is in its slot in all the states. -/
theorem Watch.Sees.scan {w : Watch config.allowedHosts Resolves} {states : List (UpdateIps ι)}
    (hsees : w.Sees states) {q : ℕ} {ip : String}
    (hslot : ∀ s ∈ states, s.table.mAllowedIps[q]? = some ip) : w.scan ip = true := by
  refine (w.scan_iff ip).mpr ⟨q, fun j hj => ?_, ?_⟩
  · obtain ⟨s, hs, -, hcounted⟩ := (hsees j).1
    obtain ⟨hlt, -⟩ := List.getElem?_eq_some_iff.mp (hslot s hs)
    have hle := s.table.size_le
    rw [hcounted]
    omega
  · obtain ⟨s, hs, -, hcompared⟩ := (hsees q).2
    obtain ⟨hlt, hget⟩ := List.getElem?_eq_some_iff.mp (hslot s hs)
    rw [hcompared, getAllowedIp_of_lt hlt, hget]

variable [DecidableEq ι]

/-- Whatever a request reads during a run, at whatever moments, makes up a scan. -/
theorem exists_watch_of_run (config : Config) (Resolves : String → Address → Prop) (capacity : ℕ)
    (events more : List (IpsEvent ι))
    (hanswers : ∀ e ∈ events ++ more, AnsweredEvent config.allowedHosts Resolves e) :
    let m := updateIps ι config
    let s := m.run (.start capacity) events
    ∀ counted compared : ℕ → UpdateIps ι,
      (∀ k, counted k ∈ m.states s more ∧ (counted k).Readable) →
      (∀ k, compared k ∈ m.states s more ∧ (compared k).Readable) →
      ∃ w : Watch config.allowedHosts Resolves, w.Sees (m.states s more) ∧
        ∀ k, w.counted k = (counted k).table ∧ w.compared k = (compared k).table := by
  intro m s counted compared hcounted hcompared
  -- a state the request sees is the end of a run of its own
  have hreachable (s' : UpdateIps ι) (hs' : s' ∈ m.states s more) (hreadable : s'.Readable) :
      AllowedIps.Reachable config.allowedHosts Resolves s'.table := by
    obtain ⟨pre, hpre, rfl⟩ := Machine.exists_prefix_of_mem_states hs'
    rw [← Machine.run_append] at hreadable ⊢
    refine reachable_of_run config Resolves capacity (events ++ pre) (fun e he => ?_) hreadable
    rcases List.mem_append.mp he with he | he
    · exact hanswers e (List.mem_append_left _ he)
    · exact hanswers e (List.mem_append_right _ (hpre.subset he))
  -- there are only finitely many tables, so their capacities have a bound
  let bound := ((m.states s more).map fun s' => s'.table.capacity).foldr max 0
  have hbound (s' : UpdateIps ι) (hs' : s' ∈ m.states s more) : s'.table.capacity ≤ bound :=
    List.le_max_of_le' 0 (List.mem_map_of_mem hs') le_rfl
  refine ⟨{
      counted := fun k => (counted k).table
      compared := fun k => (compared k).table
      bound := bound
      capacity_le := fun k => hbound _ (hcounted k).1
      reachable := fun k => hreachable _ (hcompared k).1 (hcompared k).2 },
    fun k => ⟨⟨_, (hcounted k).1, (hcounted k).2, rfl⟩, _, (hcompared k).1, (hcompared k).2, rfl⟩,
    fun k => ⟨rfl, rfl⟩⟩

/-- A scan that overlaps any number of updates finds a text that is in a slot whenever none of them
is in progress. -/
theorem scan_of_states {s : UpdateIps ι} {more : List (IpsEvent ι)} (howned : Owned s)
    (hwithin : s.core.position.Within config.allowedHosts.length)
    (hlength : s.table.mAllowedIps.length = config.allowedHosts.length * 2)
    (hstart : s.AtRest) (hend : ((updateIps ι config).run s more).AtRest) {q : ℕ} {ip : String}
    (hrest : ∀ s' ∈ (updateIps ι config).states s more, s'.AtRest →
      s'.table.mAllowedIps[q]? = some ip)
    {w : Watch config.allowedHosts Resolves} (hsees : w.Sees ((updateIps ι config).states s more)) :
    w.scan ip = true := by
  have hip := hrest s (Machine.mem_states_self s more) hstart
  obtain ⟨hlt, -⟩ := List.getElem?_eq_some_iff.mp hip
  rw [hlength] at hlt
  exact hsees.scan (getElem?_of_states howned hwithin hlt hip hrest hend)

/-- **The law of the table of allowed addresses.**  For `n` hosts, in every run of updates by any
number of threads: once the table has been resized it has `2 * n` slots; as long as it can be read,
slots `j` and `j + n` hold what the last successful resolution of host `j` has left in the buffers,
unless host `j` has just been resolved and its slots come next; nothing but an update that has
successfully resolved host `j` changes them, and it changes no other slot; and a scan that overlaps
any number of updates finds a text that is in a slot before and after each of them. -/
theorem table_of_run (config : Config) (Resolves : String → Address → Prop) (capacity : ℕ)
    (events : List (IpsEvent ι)) :
    let n := config.allowedHosts.length
    let s := (updateIps ι config).run (.start capacity) events
    let outputs := (updateIps ι config).outputs (.start capacity) events
    .resized ∈ outputs →
      s.table.mAllowedIps.length = 2 * n ∧
      (s.Readable → ∀ j < n, (∀ i call, s.position i ≠ .lockSlots call j) →
        s.table.slot j = (lastResolved outputs j).mbIp ∧
        s.table.slot (j + n) = (lastResolved outputs j).mbIpv6) ∧
      (∀ e q, (s.next config e).table.slot q ≠ s.table.slot q →
        ∃ i now call j, e = .thread i now ∧
          updateAllowedIp (call.getaddrinfo j) = (true, s.buffers) ∧
          (s.position i = .storeIp call j ∧ q = j ∨
            s.position i = .storeIpv6 call j ∧ q = j + n)) ∧
      (∀ (more : List (IpsEvent ι)) (w : Watch config.allowedHosts Resolves) (q : ℕ) (ip : String),
        s.AtRest → ((updateIps ι config).run s more).AtRest →
        (∀ s' ∈ (updateIps ι config).states s more, s'.AtRest →
          s'.table.mAllowedIps[q]? = some ip) →
        w.Sees ((updateIps ι config).states s more) → w.scan ip = true) := by
  intro n s outputs hresized
  obtain ⟨howned, hhistory⟩ : Owned s ∧ History n s.core outputs :=
    history_run config capacity events
  obtain ⟨hlength, hslots⟩ := slots_of_run config capacity events hresized
  refine ⟨hlength.trans (Nat.mul_comm n 2), hslots, writer_of_run config capacity events hresized,
    fun more w q ip hstart hend hrest hsees => ?_⟩
  exact scan_of_states howned hhistory.within hlength hstart hend hrest hsees

/-- The calls of a thread that updates the address of the sample host, over and over. -/
def sampleUpdate : List (IpsEvent Bool) :=
  .call true ⟨fun _ => some [sampleAddress], 2⟩ 0 true :: List.replicate 13 (.thread true 0)

/-- Two updates of the sample host, one after the other, and a scan that sees what is there in
between and at the end. -/
theorem table_of_run_of_two_updates :
    let m := updateIps Bool sampleConfig
    let s := m.run (.start 0) sampleUpdate
    let table := Watch.still (sampleTable 2) (sampleTable_reachable 2)
    s.table.slot 0 = "192.0.2.7" ∧ table.scan "192.0.2.7" = true := by
  intro m s table
  have hlast : .resized ∈ m.outputs (.start 0) sampleUpdate :=
    .tail _ (.tail _ (.tail _ (.head _)))
  obtain ⟨-, hslots, -, hscan⟩ := table_of_run sampleConfig (fun _ a => a = sampleAddress) 0
    sampleUpdate hlast
  have hrest (i : Bool) : s.position i = .idle := by cases i <;> rfl
  have hslot : (m.states s sampleUpdate).all
      (fun s' => s'.table.mAllowedIps[0]? = some "192.0.2.7") = true := by decide
  refine ⟨(hslots rfl 0 (by decide) fun i call => by rw [hrest]; nofun).1, ?_⟩
  refine hscan sampleUpdate table 0 _ (fun i => by rw [hrest]; exact id) ?_
    (fun s' hs' _ => of_decide_eq_true (List.all_eq_true.mp hslot s' hs')) fun k => ?_
  · intro i
    cases i <;> exact id
  · have hs : s ∈ m.states s sampleUpdate := Machine.mem_states_self s sampleUpdate
    exact ⟨⟨s, hs, rfl, rfl⟩, s, hs, rfl, rfl⟩

end GdtCache
