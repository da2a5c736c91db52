import GdtCache.Main.CheckIpAuthorized

/-!
# Who is authorized

`checkIpAuthorized` returns for the localhost marker, for a client the first scan finds, and for one
the second scan finds; the second scan is made if one of the first ten calls of `updateAllowedIps`
is not busy and does not fail (`checkIpAuthorized_eq_ok_iff`).

* It accepts nobody else as long as no scan reads past the end of the table, where the string
  `error` is compared with the client (`checkIpAuthorized_sound_iff`).
* It accepts a client whose address is in the table if the address comes from the header: the
  string `ip_address` returns for the peer is padded with NULs and never equals a slot.  And an
  update that comes through in the eleventh call is too late (`checkIpAuthorized_complete_iff`).
-/

namespace GdtCache

open GdtCache.AllowedIps GdtCache.CacheServer GdtCache.Model

variable {allowedHosts : List String} {Resolves : String → Address → Prop}

/-! ### Scans -/

namespace Watch

/-- Round `i` of the scan is made if no earlier one finds the client. -/
def Made (w : Watch allowedHosts Resolves) (i : ℕ) : Prop :=
  ∀ j ≤ i, j < (w.counted j).capacity

theorem scanFrom_iff (w : Watch allowedHosts Resolves) (clientIp : String) :
    ∀ rounds i, w.bound ≤ i + rounds →
      (w.scanFrom clientIp rounds i = true ↔
        ∃ k, i ≤ k ∧ (∀ j, i ≤ j → j ≤ k → j < (w.counted j).capacity) ∧
          clientIp = (w.compared k).getAllowedIp k) := by
  intro rounds
  induction rounds with
  | zero =>
    intro i hbound
    refine iff_of_false (by simp [scanFrom]) ?_
    rintro ⟨k, hik, hcount, -⟩
    have hlt := hcount i le_rfl hik
    have hle := w.capacity_le i
    omega
  | succ rounds ih =>
    intro i hbound
    rw [scanFrom]
    have hcount : getAllowedIpsCount (w.counted i) = (w.counted i).capacity := rfl
    rw [hcount]
    split_ifs with hi hclient
    · refine iff_of_true rfl ⟨i, le_rfl, fun j hij hji => ?_, hclient⟩
      rwa [le_antisymm hji hij]
    · rw [ih (i + 1) (by omega)]
      constructor
      · rintro ⟨k, hik, hcount, heq⟩
        refine ⟨k, by omega, fun j hij hjk => ?_, heq⟩
        rcases Nat.eq_or_lt_of_le hij with rfl | hlt
        · exact hi
        · exact hcount j hlt hjk
      · rintro ⟨k, hik, hcount, heq⟩
        rcases Nat.eq_or_lt_of_le hik with rfl | hlt
        · exact absurd heq hclient
        · exact ⟨k, hlt, fun j hij hjk => hcount j (by omega) hjk, heq⟩
    · refine iff_of_false (by simp) ?_
      rintro ⟨k, hik, hcount, -⟩
      exact hi (hcount i le_rfl hik)

/-- **What a scan finds**: a client that is compared with itself in some round. -/
theorem scan_iff (w : Watch allowedHosts Resolves) (clientIp : String) :
    w.scan clientIp = true ↔ ∃ i, w.Made i ∧ clientIp = (w.compared i).getAllowedIp i := by
  rw [scan, scanFrom_iff w clientIp w.bound 0 (by omega)]
  constructor
  · rintro ⟨k, -, hcount, heq⟩
    exact ⟨k, fun j hj => hcount j (Nat.zero_le j) hj, heq⟩
  · rintro ⟨k, hmade, heq⟩
    exact ⟨k, Nat.zero_le k, fun j _ hj => hmade j hj, heq⟩

/-- The scan never reads past the end of the table. -/
def InRange (w : Watch allowedHosts Resolves) : Prop :=
  ∀ i, w.Made i → i < (w.compared i).mAllowedIps.length

/-- In some round the client's address is stored for an allowed host. -/
def Stores (w : Watch allowedHosts Resolves) (clientIp : String) : Prop :=
  ∃ i, StoredFor allowedHosts Resolves (w.compared i) clientIp

end Watch

/-! ### The check -/

/-- The tries that are left, and the last call. -/
theorem waitForUpdate_spec (status : ℕ → UpdateStatus) :
    ∀ tries k left last, waitForUpdate status tries k = (left, last) →
      left + last = tries + k ∧ (∀ j, k ≤ j → j < last → status j = .RUNNING) ∧
        (0 < left → status last ≠ .RUNNING) := by
  intro tries
  induction tries with
  | zero =>
    intro k left last h
    cases h
    exact ⟨rfl, fun j hj hlt => absurd hj (by omega), fun h => absurd h (lt_irrefl 0)⟩
  | succ tries ih =>
    intro k left last h
    rw [waitForUpdate] at h
    split_ifs at h with hrunning
    · obtain ⟨hsum, hbusy, hlast⟩ := ih (k + 1) left last h
      refine ⟨by omega, fun j hj hlt => ?_, hlast⟩
      rcases Nat.eq_or_lt_of_le hj with rfl | hlt'
      · exact hrunning
      · exact hbusy j hlt' hlt
    · cases h
      exact ⟨by omega, fun j hj hlt => absurd hj (by omega), fun _ => hrunning⟩

/-- Call `k` is made if the check gets to its calls: all before it are busy. -/
def Attempted (status : ℕ → UpdateStatus) (k : ℕ) : Prop :=
  ∀ j < k, status j = .RUNNING

/-- Call `k` ends the waiting, and the check goes on to its second scan. -/
def Rescans (status : ℕ → UpdateStatus) (k : ℕ) : Prop :=
  k < 10 ∧ Attempted status k ∧ status k ≠ .RUNNING ∧ status k ≠ .ERROR

/-- Only one call ends the waiting. -/
theorem Attempted.eq {status : ℕ → UpdateStatus} {k l : ℕ} (hk : Attempted status k)
    (hl : Attempted status l) (hk' : status k ≠ .RUNNING) (hl' : status l ≠ .RUNNING) : k = l := by
  by_contra hne
  rcases Nat.lt_or_gt_of_ne hne with hlt | hlt
  · exact hk' (hl k hlt)
  · exact hl' (hk l hlt)

theorem rescans_iff (status : ℕ → UpdateStatus) (k : ℕ) :
    Rescans status k ↔ k = (waitForUpdate status 10 0).2 ∧ 0 < (waitForUpdate status 10 0).1 ∧
      status k ≠ .ERROR := by
  generalize hwait : waitForUpdate status 10 0 = waited
  obtain ⟨left, last⟩ := waited
  obtain ⟨hsum, hbusy, hlast⟩ := waitForUpdate_spec status 10 0 left last hwait
  have hattempted : Attempted status last := fun j hj => hbusy j (Nat.zero_le j) hj
  constructor
  · rintro ⟨hk, hmade, hidle, herror⟩
    have hleft : 0 < left := by
      -- otherwise the first ten calls are all busy
      by_contra hzero
      exact hidle (hbusy k (Nat.zero_le k) (by omega))
    exact ⟨hmade.eq hattempted hidle (hlast hleft), hleft, herror⟩
  · rintro ⟨rfl, hleft, herror⟩
    exact ⟨by omega, hattempted, hlast hleft, herror⟩

/-- What the check throws. -/
theorem checkIpAuthorized_eq_error {config : Config} {request : ClientRequest}
    {first : Watch allowedHosts Resolves} {attempts : ℕ → Retry allowedHosts Resolves}
    {e : HttpError} (h : checkIpAuthorized config request first attempts = .error e) :
    e = .unauthorized "\x7b\"state\":\"error\"\x7d" := by
  unfold checkIpAuthorized at h
  split_ifs at h
  dsimp only at h
  split_ifs at h
  · cases h
    rfl
  · cases h
    rfl

/-- **When the check returns.** -/
theorem checkIpAuthorized_eq_ok_iff {config : Config} (hconfig : config.ipWhiteListing = true)
    (request : ClientRequest) (first : Watch allowedHosts Resolves)
    (attempts : ℕ → Retry allowedHosts Resolves) :
    checkIpAuthorized config request first attempts = .ok () ↔
      request.clientIp = localhostIpfv6 ∨ first.scan request.clientIp = true ∨
        ∃ k, Rescans (fun k => (attempts k).status) k ∧
          (attempts k).watch.scan request.clientIp = true := by
  have hrescans := rescans_iff fun k => (attempts k).status
  unfold checkIpAuthorized
  rw [hconfig]
  simp only [Bool.not_true, Bool.false_eq_true, if_false]
  split_ifs with hlocalhost hfirst hgiveUp hsecond
  · exact iff_of_true rfl (.inl hlocalhost)
  · exact iff_of_true rfl (.inr (.inl hfirst))
  · refine iff_of_false (by simp) ?_
    rintro (h | h | ⟨k, hk, -⟩)
    · exact hlocalhost h
    · exact hfirst h
    · obtain ⟨rfl, hleft, herror⟩ := (hrescans k).mp hk
      rcases hgiveUp with hgiveUp | hgiveUp
      · omega
      · exact herror hgiveUp
  · push Not at hgiveUp
    exact iff_of_true rfl (.inr (.inr ⟨_, (hrescans _).mpr ⟨rfl, hgiveUp⟩, hsecond⟩))
  · refine iff_of_false (by simp) ?_
    rintro (h | h | ⟨k, hk, hscan⟩)
    · exact hlocalhost h
    · exact hfirst h
    · obtain ⟨rfl, -, -⟩ := (hrescans k).mp hk
      exact hsecond hscan

/-! ### A small table -/

/-- The address of the only allowed host. -/
def sampleAddress : Address :=
  ⟨.inet, "192.0.2.7", by decide, by decide, by decide⟩

/-- A configuration with one allowed host. -/
def sampleConfig : Config :=
  { allowedHosts := ["gdt.example"] }

/-- Its table after one call of `updateAllowedIps`, in a vector with room for `grown` strings. -/
def sampleTable (grown : ℕ) : AllowedIps :=
  ((UpdateIpsCall.writes ⟨fun _ => some [sampleAddress], grown⟩ 1).take 2).foldl (Write.apply 1)
    (.new 0)

theorem sampleTable_reachable (grown : ℕ) :
    Reachable sampleConfig.allowedHosts (fun _ a => a = sampleAddress) (sampleTable grown) := by
  refine .update ⟨fun _ => some [sampleAddress], grown⟩ ?_ 2 (.new 0)
  rintro i host addresses - hanswer a ha
  obtain rfl := Option.some.inj hanswer
  exact List.mem_singleton.mp ha

/-! ### Nobody else -/

theorem clientIp_ne_empty (request : ClientRequest) : request.clientIp ≠ "" := by
  unfold ClientRequest.clientIp
  split_ifs with h
  · exact request.ipAddress_nonempty
  · intro hempty
    rw [hempty] at h
    exact h rfl

/-- The error string is no address. -/
theorem error_ne_text (a : Address) : a.text ≠ "error" := by
  intro h
  have hchars := a.chars
  rw [h] at hchars
  exact absurd hchars (by decide)

/-- What is compared is stored for an allowed host, an empty slot or the error string. -/
theorem getAllowedIp_cases {s : AllowedIps} (h : Reachable allowedHosts Resolves s) (i : ℕ) :
    (i < s.mAllowedIps.length ∧ s.getAllowedIp i = "") ∨
      (i < s.mAllowedIps.length ∧ StoredFor allowedHosts Resolves s (s.getAllowedIp i)) ∨
      (s.mAllowedIps.length ≤ i ∧ s.getAllowedIp i = "error") := by
  rcases Nat.lt_or_ge i s.mAllowedIps.length with hi | hi
  · rw [getAllowedIp_of_lt hi]
    rcases h.slots i _ (List.getElem?_eq_getElem hi) with hempty | hfrom
    · exact .inl ⟨hi, hempty⟩
    · exact .inr (.inl ⟨hi, i, List.getElem?_eq_getElem hi, hfrom⟩)
  · exact .inr (.inr ⟨hi, getAllowedIp_of_le hi⟩)

/-- A scan finds nobody who is not stored, unless it is the error string that is found. -/
theorem Watch.scan_sound (w : Watch allowedHosts Resolves) {clientIp : String}
    (hne : clientIp ≠ "") (h : w.scan clientIp = true) :
    w.Stores clientIp ∨ (clientIp = "error" ∧ ¬ w.InRange) := by
  obtain ⟨i, hmade, rfl⟩ := (w.scan_iff clientIp).mp h
  rcases getAllowedIp_cases (w.reachable i) i with ⟨-, hempty⟩ | ⟨-, hstored⟩ | ⟨hlength, herror⟩
  · exact absurd hempty hne
  · exact .inl ⟨i, hstored⟩
  · right
    refine ⟨herror, fun hrange => ?_⟩
    have hlt := hrange i hmade
    omega

/-- Past the end the error string is found. -/
theorem Watch.scan_error {w : Watch allowedHosts Resolves} (h : ¬ w.InRange) :
    w.scan "error" = true := by
  unfold Watch.InRange at h
  push Not at h
  obtain ⟨i, hmade, hlength⟩ := h
  exact (w.scan_iff "error").mpr ⟨i, hmade, (getAllowedIp_of_le hlength).symm⟩

/-- But it is never stored. -/
theorem Watch.not_stores_error (w : Watch allowedHosts Resolves) : ¬ w.Stores "error" := by
  rintro ⟨i, hstored⟩
  obtain ⟨a, htext⟩ := hstored.exists_address
  exact error_ne_text a htext

/-- **Who is accepted**: only the localhost marker and addresses that are stored for an allowed host
when they are compared, if and only if the client is not the error string or no scan reads past the
end of the table. -/
theorem checkIpAuthorized_sound_iff (config : Config) (hconfig : config.ipWhiteListing = true)
    (Resolves : String → Address → Prop) (request : ClientRequest)
    (first : Watch config.allowedHosts Resolves)
    (attempts : ℕ → Retry config.allowedHosts Resolves) :
    (checkIpAuthorized config request first attempts = .ok () →
        request.clientIp = localhostIpfv6 ∨ first.Stores request.clientIp ∨
          ∃ k, Rescans (fun k => (attempts k).status) k ∧
            (attempts k).watch.Stores request.clientIp) ↔
      request.clientIp ≠ "error" ∨
        (first.InRange ∧ ∀ k, Rescans (fun k => (attempts k).status) k →
          (attempts k).watch.InRange) := by
  rw [checkIpAuthorized_eq_ok_iff hconfig]
  constructor
  · intro h
    by_contra hbad
    push Not at hbad
    obtain ⟨herror, hbad⟩ := hbad
    rw [herror] at h
    have hlocalhost : "error" ≠ localhostIpfv6 := by decide
    have haccepted : first.scan "error" = true ∨
        ∃ k, Rescans (fun k => (attempts k).status) k ∧
          (attempts k).watch.scan "error" = true := by
      by_cases hfirst : first.InRange
      · obtain ⟨k, hk, hrange⟩ := hbad hfirst
        exact .inr ⟨k, hk, Watch.scan_error hrange⟩
      · exact .inl (Watch.scan_error hfirst)
    rcases h (.inr haccepted) with h | h | ⟨k, -, h⟩
    · exact hlocalhost h
    · exact first.not_stores_error h
    · exact (attempts k).watch.not_stores_error h
  · have hne := clientIp_ne_empty request
    rintro hgood (h | h | ⟨k, hk, h⟩)
    · exact .inl h
    · rcases first.scan_sound hne h with hstores | ⟨herror, hrange⟩
      · exact .inr (.inl hstores)
      · rcases hgood with hgood | ⟨hgood, -⟩
        · exact absurd herror hgood
        · exact absurd hgood hrange
    · rcases (attempts k).watch.scan_sound hne h with hstores | ⟨herror, hrange⟩
      · exact .inr (.inr ⟨k, hk, hstores⟩)
      · rcases hgood with hgood | ⟨-, hgood⟩
        · exact absurd herror hgood
        · exact absurd (hgood k hk) hrange

/-- The client at the address of the allowed host is accepted because it is stored. -/
theorem checkIpAuthorized_sound_of_header :
    let table := Watch.still (sampleTable 2) (sampleTable_reachable 2)
    let request := ClientRequest.ofPeer sampleAddress "192.0.2.7"
    checkIpAuthorized sampleConfig request table (fun _ => ⟨.OK, table⟩) = .ok () ∧
      (request.clientIp = localhostIpfv6 ∨ table.Stores request.clientIp ∨
        ∃ k, Rescans (fun _ => .OK) k ∧ table.Stores request.clientIp) := by
  intro table request
  have hok : checkIpAuthorized sampleConfig request table (fun _ => ⟨.OK, table⟩) = .ok () := by
    decide
  exact ⟨hok, (checkIpAuthorized_sound_iff sampleConfig rfl _ request table
    fun _ => ⟨.OK, table⟩).mpr (.inl (by decide)) hok⟩

/-- The error string in the header is accepted if the vector has room for more than it holds. -/
theorem checkIpAuthorized_accepts_error :
    let table := Watch.still (sampleTable 3) (sampleTable_reachable 3)
    let request := ClientRequest.ofPeer sampleAddress "error"
    checkIpAuthorized sampleConfig request table (fun _ => ⟨.OK, table⟩) = .ok () ∧
      ¬ (request.clientIp = localhostIpfv6 ∨ table.Stores request.clientIp ∨
        ∃ k, Rescans (fun _ => .OK) k ∧ table.Stores request.clientIp) := by
  intro table request
  have hnot : ¬ table.Stores request.clientIp := table.not_stores_error
  refine ⟨by decide, ?_⟩
  rintro (h | h | ⟨k, -, h⟩)
  · exact absurd h (by decide)
  · exact hnot h
  · exact hnot h

/-! ### Everybody who is in the table -/

/-- The address of the client. -/
def clientAddress (peer : Address) (xForwardedFor : String) : String :=
  if xForwardedFor.isEmpty then peer.text else xForwardedFor

/-- No address has a NUL. -/
theorem Address.ne_nul (a : Address) : ∀ c ∈ a.text.toList, c ≠ '\x00' := by
  rintro c hc rfl
  exact absurd (List.all_eq_true.mp a.chars _ hc) (by decide)

/-- The string of `ip_address` is cut off at its first NUL to get the address back. -/
theorem takeWhile_resizeString {text : String} {n : ℕ} (htext : ∀ c ∈ text.toList, c ≠ '\x00')
    (hn : text.length < n) :
    (resizeString text n).toList.takeWhile (· ≠ '\x00') = text.toList := by
  have hlength : text.toList.length < n := by rwa [String.length_toList]
  unfold resizeString
  rw [String.toList_ofList, List.take_of_length_le hlength.le,
    List.takeWhile_append_of_pos fun c hc => decide_eq_true (htext c hc)]
  obtain ⟨m, hm⟩ : ∃ m, n - text.toList.length = m + 1 := ⟨n - text.toList.length - 1, by omega⟩
  rw [hm, List.replicate_succ, List.takeWhile_cons_of_neg (by simp), List.append_nil]

theorem nul_mem_resizeString {text : String} {n : ℕ} (hn : text.length < n) :
    '\x00' ∈ (resizeString text n).toList := by
  have hlength : text.toList.length < n := by rwa [String.length_toList]
  unfold resizeString
  rw [String.toList_ofList]
  exact List.mem_append_right _ (List.mem_replicate.mpr ⟨by omega, rfl⟩)

theorem length_resizeString (text : String) (n : ℕ) : (resizeString text n).length = n := by
  unfold resizeString
  rw [String.length_ofList, List.length_append, List.length_take, List.length_replicate]
  omega

/-- The only peer that is taken for localhost. -/
theorem ipAddress_eq_localhostIpfv6_iff (peer : Address) :
    resizeString peer.text peer.family.strLen = localhostIpfv6 ↔
      peer.family = .inet6 ∧ peer.text = "::" := by
  constructor
  · intro h
    have hlength := congrArg String.length h
    rw [localhostIpfv6, length_resizeString, length_resizeString] at hlength
    have hfamily : peer.family = .inet6 := by
      cases hfamily : peer.family with
      | inet =>
        rw [hfamily] at hlength
        cases hlength
      | inet6 => rfl
    have htext := takeWhile_resizeString peer.ne_nul peer.short
    rw [h, localhostIpfv6, takeWhile_resizeString (by simp) (by decide)] at htext
    exact ⟨hfamily, (String.toList_injective htext).symm⟩
  · rintro ⟨hfamily, htext⟩
    rw [hfamily, htext, localhostIpfv6]

/-- What a table holds has no NUL. -/
theorem AllowedIps.Reachable.ne_nul {s : AllowedIps} (h : Reachable allowedHosts Resolves s)
    {ip : String} (hmem : ip ∈ s.mAllowedIps) : ∀ c ∈ ip.toList, c ≠ '\x00' := by
  by_cases hempty : ip = ""
  · rw [hempty]
    simp
  · obtain ⟨a, rfl⟩ := (h.storedFor hmem hempty).exists_address
    exact a.ne_nul

/-- A scan of a table that stays as it is finds what is in it. -/
theorem Watch.scan_still_iff {s : AllowedIps} (h : Reachable allowedHosts Resolves s)
    {clientIp : String} (hne : clientIp ≠ "error") :
    (Watch.still s h).scan clientIp = true ↔ clientIp ∈ s.mAllowedIps := by
  rw [Watch.scan_iff]
  constructor
  · rintro ⟨i, -, heq⟩
    have heq : clientIp = s.getAllowedIp i := heq
    rcases Nat.lt_or_ge i s.mAllowedIps.length with hi | hi
    · rw [heq, getAllowedIp_of_lt hi]
      exact List.getElem_mem hi
    · rw [getAllowedIp_of_le hi] at heq
      exact absurd heq hne
  · intro hmem
    obtain ⟨i, hi, rfl⟩ := List.getElem_of_mem hmem
    refine ⟨i, fun j hj => ?_, ?_⟩
    · have hsize := s.size_le
      show j < s.capacity
      omega
    · exact (getAllowedIp_of_lt hi).symm

/-- The padded string of a peer is in no table. -/
theorem Watch.not_scan_still_padded {s : AllowedIps} (h : Reachable allowedHosts Resolves s)
    (peer : Address) :
    ¬ (Watch.still s h).scan (resizeString peer.text peer.family.strLen) = true := by
  have hnul := nul_mem_resizeString peer.short
  have herror : resizeString peer.text peer.family.strLen ≠ "error" := by
    intro heq
    rw [heq] at hnul
    exact absurd hnul (by decide)
  rw [Watch.scan_still_iff h herror]
  exact fun hmem => h.ne_nul hmem _ hnul rfl

/-- A client in a table is neither the error string nor the localhost marker. -/
theorem AllowedIps.Reachable.ne_of_mem {s : AllowedIps} (h : Reachable allowedHosts Resolves s)
    {ip : String} (hmem : ip ∈ s.mAllowedIps) (hne : ip ≠ "") :
    ip ≠ "error" ∧ ip ≠ localhostIpfv6 := by
  constructor
  · rintro rfl
    obtain ⟨a, htext⟩ := (h.storedFor hmem hne).exists_address
    exact error_ne_text a htext
  · intro heq
    rw [heq] at hmem
    exact h.ne_nul hmem _ (nul_mem_resizeString (by decide)) rfl

/-- Behind a proxy the client is who the header says. -/
theorem clientIp_of_header (peer : Address) {xForwardedFor : String} (h : xForwardedFor ≠ "") :
    (ClientRequest.ofPeer peer xForwardedFor).clientIp = xForwardedFor ∧
      clientAddress peer xForwardedFor = xForwardedFor := by
  have hempty : xForwardedFor.isEmpty = false := by
    rw [Bool.eq_false_iff, ne_eq, String.isEmpty_iff]
    exact h
  constructor
  · unfold ClientRequest.clientIp
    exact if_neg (by rw [ClientRequest.ofPeer, hempty]; simp)
  · unfold clientAddress
    rw [hempty]
    rfl

/-- **Who in the table is accepted**: a client whose address is in the table when the check starts,
or is put into it by a call of the check that returns `OK`, is accepted if and only if the address
comes from the header and that call is among the first ten, or the client is the peer `::`. -/
theorem checkIpAuthorized_complete_iff (config : Config) (hconfig : config.ipWhiteListing = true)
    (Resolves : String → Address → Prop) (peer : Address) (xForwardedFor : String)
    (table : AllowedIps) (htable : Reachable config.allowedHosts Resolves table)
    (status : ℕ → UpdateStatus) (tables : ℕ → AllowedIps)
    (htables : ∀ k, Reachable config.allowedHosts Resolves (tables k))
    (hclient : clientAddress peer xForwardedFor ∈ table.mAllowedIps ∨
      ∃ k ≤ 10, Attempted status k ∧ status k = .OK ∧
        clientAddress peer xForwardedFor ∈ (tables k).mAllowedIps) :
    checkIpAuthorized config (.ofPeer peer xForwardedFor) (.still table htable)
        (fun k => ⟨status k, .still (tables k) (htables k)⟩) = .ok () ↔
      (xForwardedFor = "" ∧ peer.family = .inet6 ∧ peer.text = "::") ∨
        (xForwardedFor ≠ "" ∧ (clientAddress peer xForwardedFor ∈ table.mAllowedIps ∨
          ∃ k < 10, Attempted status k ∧ status k = .OK ∧
            clientAddress peer xForwardedFor ∈ (tables k).mAllowedIps)) := by
  rw [checkIpAuthorized_eq_ok_iff hconfig]
  by_cases hheader : xForwardedFor = ""
  · -- the string of the peer is padded, and no scan finds it
    have hclientIp : (ClientRequest.ofPeer peer xForwardedFor).clientIp
        = resizeString peer.text peer.family.strLen := by
      rw [hheader]
      rfl
    rw [hclientIp, ipAddress_eq_localhostIpfv6_iff]
    constructor
    · rintro (h | h | ⟨k, -, h⟩)
      · exact .inl ⟨hheader, h⟩
      · exact absurd h (Watch.not_scan_still_padded htable peer)
      · exact absurd h (Watch.not_scan_still_padded (htables k) peer)
    · rintro (⟨-, h⟩ | ⟨h, -⟩)
      · exact .inl h
      · exact absurd hheader h
  · obtain ⟨hclientIp, haddress⟩ := clientIp_of_header peer hheader
    rw [hclientIp]
    rw [haddress] at hclient ⊢
    have hstored : ∃ s, Reachable config.allowedHosts Resolves s ∧
        xForwardedFor ∈ s.mAllowedIps := by
      rcases hclient with h | ⟨k, -, -, -, h⟩
      · exact ⟨table, htable, h⟩
      · exact ⟨tables k, htables k, h⟩
    obtain ⟨s, hs, hmem⟩ := hstored
    obtain ⟨herror, hlocalhost⟩ := hs.ne_of_mem hmem hheader
    simp only [Watch.scan_still_iff _ herror, hheader, hlocalhost, false_or, false_and, ne_eq,
      not_false_iff, true_and]
    constructor
    · rintro (h | ⟨k, ⟨hk, hmade, hidle, -⟩, h⟩)
      · exact .inl h
      · rcases hclient with hclient | ⟨l, -, hmade', hok, h'⟩
        · exact .inl hclient
        · -- it is the call that puts the address into the table
          have hidle' : status l ≠ .RUNNING := by
            rw [hok]
            decide
          obtain rfl := Attempted.eq hmade hmade' hidle hidle'
          exact .inr ⟨k, hk, hmade, hok, h'⟩
    · rintro (h | ⟨k, hk, hmade, hok, h⟩)
      · exact .inl h
      · have hidle : status k ≠ .RUNNING := by
          rw [hok]
          decide
        have hnoError : status k ≠ .ERROR := by
          rw [hok]
          decide
        exact .inr ⟨k, ⟨hk, hmade, hidle, hnoError⟩, h⟩

/-- A client whose address is put into the table by the second call. -/
theorem checkIpAuthorized_complete_of_second :
    checkIpAuthorized sampleConfig (.ofPeer sampleAddress "192.0.2.7") (.still (.new 0) (.new 0))
      (fun k => ⟨if k = 0 then .RUNNING else .OK,
        .still (sampleTable 2) (sampleTable_reachable 2)⟩) = .ok () := by
  have hmem : clientAddress sampleAddress "192.0.2.7" ∈ (sampleTable 2).mAllowedIps := by decide
  have hfirst : Attempted (fun k => if k = 0 then UpdateStatus.RUNNING else .OK) 1 := fun j hj =>
    if_pos (by omega)
  exact (checkIpAuthorized_complete_iff sampleConfig rfl _ sampleAddress "192.0.2.7" (.new 0)
    (.new 0) (fun k => if k = 0 then .RUNNING else .OK) (fun _ => sampleTable 2)
    (fun _ => sampleTable_reachable 2) (.inr ⟨1, by decide, hfirst, rfl, hmem⟩)).mpr
      (.inr ⟨by decide, .inr ⟨1, by decide, hfirst, rfl, hmem⟩⟩)

/-- The allowed host itself is rejected when it asks without a proxy. -/
theorem checkIpAuthorized_rejects_peer :
    let table := Watch.still (sampleTable 2) (sampleTable_reachable 2)
    clientAddress sampleAddress "" ∈ (sampleTable 2).mAllowedIps ∧
      checkIpAuthorized sampleConfig (.ofPeer sampleAddress "") table (fun _ => ⟨.OK, table⟩)
        = .error (.unauthorized "\x7b\"state\":\"error\"\x7d") := by
  intro table
  exact ⟨by decide, by decide⟩

end GdtCache
