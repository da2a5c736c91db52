import GdtCache.CacheServer.Equiv.LoadFromDb

/-!
# The throttled reload

`reloadCacheAfterTimeout` either does nothing, or executes `loadFromDb` and then, if that threw,
stamps the time (`reloadCacheAfterTimeout_cases`).
-/

namespace GdtCache.CacheServer

open GdtCache.Lib GdtCache.Model GdtCache.Mysql

/-- A call finds the timeout not elapsed, or the lock busy, or loads in vain, or loads. -/
theorem reloadCacheAfterTimeout_cases (config : Config) (timeZone : TimeZone) (call : ReloadCall)
    (s : CacheServer) :
    (s.timeoutElapsed config call = false ∧
      s.reloadCacheAfterTimeout config timeZone call = ⟨.SKIPPED, none, s⟩) ∨
    (s.timeoutElapsed config call = true ∧ call.lockFree = false ∧
      s.reloadCacheAfterTimeout config timeZone call = ⟨.RUNNING, none, s⟩) ∨
    (s.timeoutElapsed config call = true ∧ call.lockFree = true ∧
      (∃ ex, (s.loadFromDb timeZone call.connection call.clock).1 = .error ex) ∧
      s.reloadCacheAfterTimeout config timeZone call = ⟨.SKIPPED, some call.now,
        { (s.loadFromDb timeZone call.connection call.clock).2 with
          mLastUpdateGdtEntries := call.now }⟩) ∨
    (s.timeoutElapsed config call = true ∧ call.lockFree = true ∧
      (s.loadFromDb timeZone call.connection call.clock).1 = .ok () ∧
      s.reloadCacheAfterTimeout config timeZone call = ⟨.OK, some call.now,
        (s.loadFromDb timeZone call.connection call.clock).2⟩) := by
  unfold reloadCacheAfterTimeout
  cases s.timeoutElapsed config call with
  | false => exact .inl ⟨rfl, rfl⟩
  | true =>
    right
    cases call.lockFree with
    | false => exact .inl ⟨rfl, rfl, rfl⟩
    | true =>
      right
      rcases s.loadFromDb timeZone call.connection call.clock with ⟨ex | _, s'⟩
      · exact .inl ⟨rfl, rfl, ⟨ex, rfl⟩, rfl⟩
      · exact .inr ⟨rfl, rfl, rfl, rfl⟩

end GdtCache.CacheServer
