import GdtCache.CacheServer.Equiv.AllowedIps

/-!
# A slot that is the same between updates

An update writes a slot at most once.  So a slot that holds the same text whenever no update is in
progress holds it during the updates as well: what an update writes into it is still there when the
update is over (`getElem?_of_states`).
-/

namespace GdtCache.CacheServer

open GdtCache.Lib GdtCache.Model

/-- The update of `n` hosts does not write slot `q` any more. -/
def IpsPosition.Past (n q : ℕ) : IpsPosition → Prop
  | loop _ k => (q < n → q < k) ∧ (n ≤ q → q < k + n)
  | lockSlots _ k => (q < n → q < k) ∧ (n ≤ q → q < k + n)
  | storeIp _ k => (q < n → q < k) ∧ (n ≤ q → q < k + n)
  | storeIpv6 _ k => (q < n → q ≤ k) ∧ (n ≤ q → q < k + n)
  | unlockSlots _ k => (q < n → q ≤ k) ∧ (n ≤ q → q ≤ k + n)
  | stamp _ => True
  | unlockUpdate _ => True
  | leave _ => True
  | _ => False

variable {n q : ℕ} {c c' : IpsCore} {o : IpsOutput} {ip : String}

/-- **Step** before the slot is written: it keeps its text, or is written. -/
theorem CoreStep.getElem?_or_past (h : CoreStep n c o c') (hwithin : c.position.Within n)
    (hq : q < n * 2) (hip : c.table.mAllowedIps[q]? = some ip) :
    c'.table.mAllowedIps[q]? = some ip ∨ c'.position.Past n q := by
  cases h with
  | resize call t b l => exact .inl (AllowedIps.getElem?_resize hq _ hip)
  | storeIp call k t b l =>
    by_cases hkq : k = q
    · -- the slot is written now, and in this update never again
      subst hkq
      have hk : k < n := hwithin call k rfl
      exact .inr ⟨fun _ => le_rfl, fun hle => absurd hle (by omega)⟩
    · left
      show (t.set k b.mbIp).mAllowedIps[q]? = some ip
      rw [AllowedIps.getElem?_set_of_ne t hkq]
      exact hip
  | storeIpv6 call k t b l =>
    by_cases hkq : k + n = q
    · subst hkq
      exact .inr ⟨fun hlt => absurd hlt (by omega), fun _ => le_rfl⟩
    · left
      show (t.set (k + n) b.mbIpv6).mAllowedIps[q]? = some ip
      rw [AllowedIps.getElem?_set_of_ne t hkq]
      exact hip
  | _ => exact .inl hip

/-- **Step** after the slot has been written: it stays as it is, until the update is over. -/
theorem CoreStep.past (h : CoreStep n c o c') (hwithin : c.position.Within n)
    (hpast : c.position.Past n q) :
    c'.table.mAllowedIps[q]? = c.table.mAllowedIps[q]? ∧
      (c'.position.Past n q ∨ c'.position = .idle) := by
  cases h with
  | stay => exact ⟨rfl, .inl hpast⟩
  | enter => exact absurd hpast id
  | lockTable => exact absurd hpast id
  | resize => exact absurd hpast id
  | unlockTable => exact absurd hpast id
  | resolved => exact ⟨rfl, .inl hpast⟩
  | failed call k t b b' l hk hfailed =>
    obtain ⟨hfirst, hsecond⟩ := hpast
    exact ⟨rfl, .inl ⟨fun hlt => by have := hfirst hlt; omega,
      fun hle => by have := hsecond hle; omega⟩⟩
  | done => exact ⟨rfl, .inl trivial⟩
  | lockSlots => exact ⟨rfl, .inl hpast⟩
  | storeIp call k t b l =>
    obtain ⟨hfirst, hsecond⟩ := hpast
    have hk : k < n := hwithin call k rfl
    have hne : k ≠ q := by
      rintro rfl
      exact absurd (hfirst hk) (lt_irrefl k)
    exact ⟨AllowedIps.getElem?_set_of_ne t hne _, .inl ⟨fun hlt => (hfirst hlt).le, hsecond⟩⟩
  | storeIpv6 call k t b l =>
    obtain ⟨hfirst, hsecond⟩ := hpast
    have hne : k + n ≠ q := by
      rintro rfl
      exact absurd (hsecond (by omega)) (lt_irrefl _)
    exact ⟨AllowedIps.getElem?_set_of_ne t hne _, .inl ⟨hfirst, fun hle => (hsecond hle).le⟩⟩
  | unlockSlots call k t b l =>
    obtain ⟨hfirst, hsecond⟩ := hpast
    exact ⟨rfl, .inl ⟨fun hlt => by have := hfirst hlt; omega,
      fun hle => by have := hsecond hle; omega⟩⟩
  | stamp => exact ⟨rfl, .inl trivial⟩
  | unlockUpdate => exact ⟨rfl, .inl trivial⟩
  | leave => exact ⟨rfl, .inr rfl⟩
  | throw => exact ⟨rfl, .inr rfl⟩

namespace UpdateIps

variable {ι : Type} {s : UpdateIps ι}

/-- No update is in progress. -/
def AtRest (s : UpdateIps ι) : Prop :=
  ∀ i, ¬ (s.position i).OwnsUpdate

theorem atRest_iff (h : Owned s) : s.AtRest ↔ s.core.position = .idle := by
  constructor
  · intro hrest
    by_contra hne
    obtain ⟨i, howner, -⟩ := exists_position_of_active rfl hne
    exact hrest i ((h.update i).mpr howner)
  · intro hidle i hi
    rw [← h.core_position rfl hi, hidle] at hi
    exact hi

variable [DecidableEq ι] {config : Config}

/-- A slot that is not written any more is the same when the update is over. -/
theorem exists_atRest_of_past {s : UpdateIps ι} {events : List (IpsEvent ι)} (howned : Owned s)
    (hwithin : s.core.position.Within config.allowedHosts.length)
    (hpast : s.core.position.Past config.allowedHosts.length q)
    (hend : ((updateIps ι config).run s events).AtRest) :
    ∃ s' ∈ (updateIps ι config).states s events, s'.AtRest ∧
      s'.table.mAllowedIps[q]? = s.table.mAllowedIps[q]? := by
  induction events generalizing s with
  | nil =>
    -- an update in progress, but the run ends at rest
    have hidle := (atRest_iff howned).mp hend
    rw [hidle] at hpast
    exact absurd hpast id
  | cons e events ih =>
    have howned' : Owned (s.next config e) := howned.next e
    have hstep : CoreStep config.allowedHosts.length s.core (s.out config e)
        (s.next config e).core := next_coreStep howned e
    rcases hstep.past hwithin hpast with ⟨hsame, hpast' | hidle⟩
    · obtain ⟨s', hs', hrest, hslot⟩ := ih howned' (hstep.within hwithin) hpast' hend
      exact ⟨s', List.mem_cons_of_mem s hs', hrest, hslot.trans hsame⟩
    · exact ⟨_, List.mem_cons_of_mem s (Machine.mem_states_self _ events),
        (atRest_iff howned').mpr hidle, hsame⟩

/-- **A slot that holds the same text whenever no update is in progress holds it all the time.** -/
theorem getElem?_of_states {s : UpdateIps ι} {events : List (IpsEvent ι)} (howned : Owned s)
    (hwithin : s.core.position.Within config.allowedHosts.length)
    (hq : q < config.allowedHosts.length * 2) (hip : s.table.mAllowedIps[q]? = some ip)
    (hrest : ∀ s' ∈ (updateIps ι config).states s events, s'.AtRest →
      s'.table.mAllowedIps[q]? = some ip)
    (hend : ((updateIps ι config).run s events).AtRest) :
    ∀ s' ∈ (updateIps ι config).states s events, s'.table.mAllowedIps[q]? = some ip := by
  induction events generalizing s with
  | nil =>
    intro s' hs'
    rw [List.mem_singleton.mp hs']
    exact hip
  | cons e events ih =>
    have howned' : Owned (s.next config e) := howned.next e
    have hstep : CoreStep config.allowedHosts.length s.core (s.out config e)
        (s.next config e).core := next_coreStep howned e
    have hwithin' := hstep.within hwithin
    have hrest' : ∀ s' ∈ (updateIps ι config).states (s.next config e) events, s'.AtRest →
        s'.table.mAllowedIps[q]? = some ip :=
      fun s' hs' => hrest s' (List.mem_cons_of_mem s hs')
    have hip' : (s.next config e).table.mAllowedIps[q]? = some ip := by
      rcases hstep.getElem?_or_past hwithin hq hip with hip' | hpast
      · exact hip'
      · -- the update is still to end, and the slot is then as it is now
        obtain ⟨s', hs', hatRest, hslot⟩ := exists_atRest_of_past howned' hwithin' hpast hend
        exact hslot.symm.trans (hrest' s' hs' hatRest)
    intro s' hs'
    rcases List.mem_cons.mp hs' with rfl | hs'
    · exact hip
    · exact ih howned' hwithin' hip' hrest' hend s' hs'

end UpdateIps

end GdtCache.CacheServer
