import GdtCache.CacheServer.AllowedIps
import GdtCache.CacheServer.Basic

/-!
# Who may ask

`checkIpAuthorized` of `main`, which every request for an account passes first.

The count of the table and each of its slots are read under a lock of their own, so every reading
may meet another table.  A `Watch` is what a scan meets, and a `Retry` what a call of
`updateAllowedIps(true)` returns and what a scan behind it would meet.
-/

namespace GdtCache

open GdtCache.AllowedIps GdtCache.CacheServer GdtCache.Model

/-! ### The client -/

/-- `str.resize(n)` -/
def resizeString (str : String) (n : ℕ) : String :=
  String.ofList (str.toList.take n ++ List.replicate (n - str.toList.length) '\x00')

/-- What `checkIpAuthorized` reads of a request. -/
structure ClientRequest where
  /-- What `ip_address()` returns: the address of the peer. -/
  ipAddress : String
  ipAddress_nonempty : ipAddress ≠ ""
  /-- The header `X-Forwarded-For`, empty if there is none. -/
  xForwardedFor : String

namespace ClientRequest

/-- The string that is compared. -/
def clientIp (request : ClientRequest) : String :=
  if request.xForwardedFor.isEmpty then request.ipAddress else request.xForwardedFor

/-- `ip_address`: the text of the peer's address in a string of the length of the buffer.  Lithium
keeps 16 bytes of what `accept` tells of the peer, which hold an IPv4 address, but only the first
half of an IPv6 address; it is taken as if it were whole here. -/
def ofPeer (peer : Address) (xForwardedFor : String) : ClientRequest where
  ipAddress := resizeString peer.text peer.family.strLen
  ipAddress_nonempty h := by
    have hlength := congrArg String.length h
    unfold resizeString at hlength
    rw [String.length_ofList] at hlength
    have hshort := peer.short
    simp only [List.length_append, List.length_take, List.length_replicate, String.length_toList,
      String.length_empty] at hlength
    omega
  xForwardedFor := xForwardedFor

end ClientRequest

/-- `localhost_ipfv6` -/
def localhostIpfv6 : String :=
  resizeString "::" AddressFamily.inet6.strLen

/-! ### Scans -/

variable {allowedHosts : List String} {Resolves : String → Address → Prop}

/-- What a scan meets in its rounds.  The count is read in every round; it has some bound. -/
structure Watch (allowedHosts : List String) (Resolves : String → Address → Prop) where
  /-- The table when the count is read. -/
  counted : ℕ → AllowedIps
  /-- The table when the slot is compared. -/
  compared : ℕ → AllowedIps
  bound : ℕ
  capacity_le : ∀ i, (counted i).capacity ≤ bound
  reachable : ∀ i, Reachable allowedHosts Resolves (compared i)

namespace Watch

/-- The loop of a scan from round `i` on. -/
def scanFrom (w : Watch allowedHosts Resolves) (clientIp : String) : ℕ → ℕ → Bool
  | 0, _ => false
  | rounds + 1, i =>
    if i < (w.counted i).getAllowedIpsCount then
      if clientIp = (w.compared i).getAllowedIp i then true else w.scanFrom clientIp rounds (i + 1)
    else false

/-- The scan finds the client. -/
def scan (w : Watch allowedHosts Resolves) (clientIp : String) : Bool :=
  w.scanFrom clientIp w.bound 0

/-- Nobody changes the table during the scan. -/
def still (s : AllowedIps) (h : Reachable allowedHosts Resolves s) :
    Watch allowedHosts Resolves where
  counted _ := s
  compared _ := s
  bound := s.capacity
  capacity_le _ := le_refl s.capacity
  reachable _ := h

end Watch

/-! ### The check -/

/-- A call of `updateAllowedIps(true)` in the check. -/
structure Retry (allowedHosts : List String) (Resolves : String → Address → Prop) where
  status : UpdateStatus
  /-- What the second scan meets if this is the last call. -/
  watch : Watch allowedHosts Resolves

/-- The loop that waits for an update, from call `k` on: the tries left and the last call. -/
def waitForUpdate (status : ℕ → UpdateStatus) : ℕ → ℕ → ℕ × ℕ
  | 0, k => (0, k)
  | updateTriesLeft + 1, k =>
    if status k = .RUNNING then waitForUpdate status updateTriesLeft (k + 1)
    else (updateTriesLeft + 1, k)

/-- `checkIpAuthorized` -/
def checkIpAuthorized (config : Config) (request : ClientRequest)
    (first : Watch allowedHosts Resolves) (attempts : ℕ → Retry allowedHosts Resolves) :
    Except HttpError Unit :=
  if !config.ipWhiteListing then .ok ()
  else if request.clientIp = localhostIpfv6 then .ok ()
  else if first.scan request.clientIp then .ok ()
  else
    let (updateTriesLeft, k) := waitForUpdate (fun k => (attempts k).status) 10 0
    if updateTriesLeft ≤ 0 ∨ (attempts k).status = .ERROR then
      .error (.unauthorized "\x7b\"state\":\"error\"\x7d")
    else if (attempts k).watch.scan request.clientIp then .ok ()
    else .error (.unauthorized "\x7b\"state\":\"error\"\x7d")

end GdtCache
