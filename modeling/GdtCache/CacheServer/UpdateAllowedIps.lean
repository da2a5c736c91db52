import GdtCache.CacheServer.AllowedIps
import GdtCache.CacheServer.Basic
import GdtCache.Lib.Machine
import Mathlib.Logic.Function.Basic

/-!
# The threads in `updateAllowedIps`

`updateAllowedIps` statement by statement.  Any number of threads call it, and they share the table,
the buffers of `updateAllowedIp` and three mutexes; the steps of all threads come in any order.
`mGdtEntriesUpdateMutex` is also taken and given back by `reloadCacheAfterTimeout`, of which nothing
else is of interest here.  `getAllowedIpsCount` and `getAllowedIp` read the table in a step of their
own, and only while nobody owns `mAllowedIpsMutex` (`Readable`).

A container or a string may throw wherever the code resizes, assigns or builds one.  The handlers
only log, so the exception, the end of `_lock` and the return are one step.

`mUpdateAllowedIpsMutex` is unlocked and never locked; what unlocking a mutex of somebody else does
is left open by the standard, and here it does what it would do to one's own.
-/

namespace GdtCache.CacheServer

open GdtCache.Lib GdtCache.Model

/-- Where a thread is in `updateAllowedIps`: what it does next. -/
inductive IpsPosition
  /-- It is not in `updateAllowedIps`. -/
  | idle
  /-- `std::unique_lock<std::mutex> _lock(mGdtEntriesUpdateMutex, std::try_to_lock)` -/
  | tryLock (call : UpdateIpsCall)
  /-- `mAllowedIpsMutex.lock()` -/
  | lockTable (call : UpdateIpsCall)
  /-- `mAllowedIps.resize(hostsCount*2, "")` -/
  | resize (call : UpdateIpsCall)
  /-- `mAllowedIpsMutex.unlock()` -/
  | unlockTable (call : UpdateIpsCall)
  /-- `i < hostsCount`, and `updateAllowedIp` for host `i` if it is. -/
  | loop (call : UpdateIpsCall) (i : ℕ)
  /-- `mAllowedIpsMutex.lock()`, in the loop -/
  | lockSlots (call : UpdateIpsCall) (i : ℕ)
  /-- `mAllowedIps[i] = mbIp` -/
  | storeIp (call : UpdateIpsCall) (i : ℕ)
  /-- `mAllowedIps[i+hostsCount] = mbIpv6` -/
  | storeIpv6 (call : UpdateIpsCall) (i : ℕ)
  /-- `mAllowedIpsMutex.unlock()`, in the loop -/
  | unlockSlots (call : UpdateIpsCall) (i : ℕ)
  /-- `mLastUpdateAllowedIps = std::time(nullptr)` -/
  | stamp (call : UpdateIpsCall)
  /-- `mUpdateAllowedIpsMutex.unlock()` -/
  | unlockUpdate (call : UpdateIpsCall)
  /-- `return UpdateStatus::OK`, which destroys `_lock` -/
  | leave (call : UpdateIpsCall)

/-- Who owns `mGdtEntriesUpdateMutex`. -/
inductive UpdateOwner (ι : Type)
  /-- A thread in `updateAllowedIps`. -/
  | thread (i : ι)
  | reloadCacheAfterTimeout
  deriving DecidableEq

/-- The members, and how far every thread has got. -/
structure UpdateIps (ι : Type) where
  table : AllowedIps
  /-- `mbIp` and `mbIpv6` -/
  buffers : AddressBuffers
  mLastUpdateAllowedIps : ℤ
  mGdtEntriesUpdateMutex : Option (UpdateOwner ι)
  mAllowedIpsMutex : Option ι
  mUpdateAllowedIpsMutex : Option ι
  position : ι → IpsPosition

/-- A step. -/
inductive IpsEvent (ι : Type)
  /-- Thread `i` calls the function at time `now`. -/
  | call (i : ι) (call : UpdateIpsCall) (now : ℤ) (ignoreTimeout : Bool)
  /-- Thread `i` does what comes next, at time `now`. -/
  | thread (i : ι) (now : ℤ)
  /-- What comes next throws.  In `updateAllowedIp` that is after `written` addresses. -/
  | throw (i : ι) (written : ℕ)
  /-- `reloadCacheAfterTimeout` tries to lock the mutex. -/
  | reloadLock
  | reloadUnlock

/-- What a step does to the table's history. -/
inductive IpsOutput
  /-- The table has been resized. -/
  | resized
  /-- `updateAllowedIp` has returned true for host `i` and left `b` in the buffers. -/
  | resolved (i : ℕ) (b : AddressBuffers)
  | nothing

namespace UpdateIps

variable {ι : Type}

/-- Before the first call. -/
def start (capacity : ℕ) : UpdateIps ι where
  table := .new capacity
  buffers := ⟨"", ""⟩
  mLastUpdateAllowedIps := 0
  mGdtEntriesUpdateMutex := none
  mAllowedIpsMutex := none
  mUpdateAllowedIpsMutex := none
  position _ := .idle

/-- Requests can read the table. -/
def Readable (s : UpdateIps ι) : Prop :=
  s.mAllowedIpsMutex = none

/-- `now - mLastUpdateAllowedIps > 60 * 60 || ignoreTimeout` -/
def elapsed (s : UpdateIps ι) (now : ℤ) (ignoreTimeout : Bool) : Bool :=
  decide (60 * 60 < now - s.mLastUpdateAllowedIps) || ignoreTimeout

variable [DecidableEq ι]

def setPosition (s : UpdateIps ι) (i : ι) (position : IpsPosition) : UpdateIps ι :=
  { s with position := Function.update s.position i position }

/-- `_lock` is destroyed, and the call returns. -/
def release (s : UpdateIps ι) (i : ι) : UpdateIps ι :=
  { s with mGdtEntriesUpdateMutex := none }.setPosition i .idle

/-- The next statement of thread `i`. -/
def threadStep (config : Config) (s : UpdateIps ι) (i : ι) (now : ℤ) : UpdateIps ι :=
  let hostsCount := config.allowedHosts.length
  match s.position i with
  | .idle => s
  | .tryLock call =>
    match s.mGdtEntriesUpdateMutex with
    | none => { s with mGdtEntriesUpdateMutex := some (.thread i) }.setPosition i (.lockTable call)
    | some _ => s.setPosition i .idle
  | .lockTable call =>
    match s.mAllowedIpsMutex with
    | none => { s with mAllowedIpsMutex := some i }.setPosition i (.resize call)
    | some _ => s
  | .resize call =>
    { s with table := s.table.resize (hostsCount * 2) call.grown }.setPosition i (.unlockTable call)
  | .unlockTable call => { s with mAllowedIpsMutex := none }.setPosition i (.loop call 0)
  | .loop call k =>
    if k < hostsCount then
      match updateAllowedIp (call.getaddrinfo k) with
      | (true, b) => { s with buffers := b }.setPosition i (.lockSlots call k)
      | (false, b) => { s with buffers := b }.setPosition i (.loop call (k + 1))
    else s.setPosition i (.stamp call)
  | .lockSlots call k =>
    match s.mAllowedIpsMutex with
    | none => { s with mAllowedIpsMutex := some i }.setPosition i (.storeIp call k)
    | some _ => s
  | .storeIp call k =>
    { s with table := s.table.set k s.buffers.mbIp }.setPosition i (.storeIpv6 call k)
  | .storeIpv6 call k =>
    { s with table := s.table.set (k + hostsCount) s.buffers.mbIpv6 }.setPosition i
      (.unlockSlots call k)
  | .unlockSlots call k => { s with mAllowedIpsMutex := none }.setPosition i (.loop call (k + 1))
  | .stamp call => { s with mLastUpdateAllowedIps := now }.setPosition i (.unlockUpdate call)
  | .unlockUpdate call => { s with mUpdateAllowedIpsMutex := none }.setPosition i (.leave call)
  | .leave _ => s.release i

/-- What comes next for thread `i` throws: the buffers it leaves; `none` if it cannot throw.
`updateAllowedIp` builds a message for each address after the second one. -/
def thrown (config : Config) (s : UpdateIps ι) (i : ι) (written : ℕ) : Option AddressBuffers :=
  match s.position i with
  | .resize _ => some s.buffers
  | .storeIp _ _ => some s.buffers
  | .storeIpv6 _ _ => some s.buffers
  | .loop call k =>
    match call.getaddrinfo k with
    | some addresses =>
      if k < config.allowedHosts.length ∧ 2 < written ∧ written ≤ addresses.length then
        some ((addresses.take written).foldl AddressBuffers.write ⟨"", ""⟩)
      else none
    | none => none
  | _ => none

/-- The state a step leads to. -/
def next (config : Config) (s : UpdateIps ι) : IpsEvent ι → UpdateIps ι
  | .call i call now ignoreTimeout =>
    match s.position i with
    | .idle =>
      if config.ipWhiteListing && s.elapsed now ignoreTimeout then s.setPosition i (.tryLock call)
      else s
    | _ => s
  | .thread i now => s.threadStep config i now
  | .throw i written =>
    match s.thrown config i written with
    | some b => { s with buffers := b }.release i
    | none => s
  | .reloadLock =>
    match s.mGdtEntriesUpdateMutex with
    | none => { s with mGdtEntriesUpdateMutex := some .reloadCacheAfterTimeout }
    | some _ => s
  | .reloadUnlock =>
    match s.mGdtEntriesUpdateMutex with
    | some .reloadCacheAfterTimeout => { s with mGdtEntriesUpdateMutex := none }
    | _ => s

/-- What a step does to the table's history. -/
def out (config : Config) (s : UpdateIps ι) : IpsEvent ι → IpsOutput
  | .thread i _ =>
    match s.position i with
    | .resize _ => .resized
    | .loop call k =>
      if k < config.allowedHosts.length then
        match updateAllowedIp (call.getaddrinfo k) with
        | (true, b) => .resolved k b
        | (false, _) => .nothing
      else .nothing
    | _ => .nothing
  | _ => .nothing

/-! ### Mutexes and returns -/

/-- The mutexes `updateAllowedIps` deals with. -/
inductive Mutex
  | mGdtEntriesUpdateMutex
  | mAllowedIpsMutex
  | mUpdateAllowedIpsMutex
  deriving DecidableEq

/-- Thread `i` holds the mutex. -/
def Holds (s : UpdateIps ι) (i : ι) : Mutex → Prop
  | .mGdtEntriesUpdateMutex => s.mGdtEntriesUpdateMutex = some (.thread i)
  | .mAllowedIpsMutex => s.mAllowedIpsMutex = some i
  | .mUpdateAllowedIpsMutex => s.mUpdateAllowedIpsMutex = some i

/-- The step unlocks the mutex, and thread `i` makes it. -/
inductive Unlocks (config : Config) (s : UpdateIps ι) : IpsEvent ι → ι → Mutex → Prop
  | unlockTable {i now call} (h : s.position i = .unlockTable call) :
    Unlocks config s (.thread i now) i .mAllowedIpsMutex
  | unlockSlots {i now call k} (h : s.position i = .unlockSlots call k) :
    Unlocks config s (.thread i now) i .mAllowedIpsMutex
  | unlockUpdate {i now call} (h : s.position i = .unlockUpdate call) :
    Unlocks config s (.thread i now) i .mUpdateAllowedIpsMutex
  /-- `_lock` is destroyed. -/
  | leave {i now call} (h : s.position i = .leave call) :
    Unlocks config s (.thread i now) i .mGdtEntriesUpdateMutex
  /-- `_lock` is destroyed. -/
  | throw {i written b} (h : s.thrown config i written = some b) :
    Unlocks config s (.throw i written) i .mGdtEntriesUpdateMutex

/-- With the step, thread `i` returns from `updateAllowedIps`. -/
inductive Returns (config : Config) (s : UpdateIps ι) : IpsEvent ι → ι → UpdateStatus → Prop
  | whiteListing {i call now ignoreTimeout} (h : s.position i = .idle)
    (hoff : config.ipWhiteListing = false) :
    Returns config s (.call i call now ignoreTimeout) i .OK
  | timeout {i call now ignoreTimeout} (h : s.position i = .idle)
    (hon : config.ipWhiteListing = true) (helapsed : s.elapsed now ignoreTimeout = false) :
    Returns config s (.call i call now ignoreTimeout) i .SKIPPED
  | running {i now call owner} (h : s.position i = .tryLock call)
    (howner : s.mGdtEntriesUpdateMutex = some owner) :
    Returns config s (.thread i now) i .RUNNING
  | ok {i now call} (h : s.position i = .leave call) : Returns config s (.thread i now) i .OK
  | caught {i written b} (h : s.thrown config i written = some b) :
    Returns config s (.throw i written) i .SKIPPED

end UpdateIps

/-- The steps in any order. -/
def updateIps (ι : Type) [DecidableEq ι] (config : Config) :
    Machine (UpdateIps ι) (IpsEvent ι) IpsOutput where
  next := UpdateIps.next config
  out := UpdateIps.out config

end GdtCache.CacheServer
