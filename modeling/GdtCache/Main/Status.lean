import GdtCache.Logging.ContainerSingleton

/-!
# The status page

What the handler of `/status` writes.
-/

namespace GdtCache

open GdtCache.Logging

/-- The handler of `/status`; nothing is logged while it looks. -/
def status (ec : ContainerSingleton) : String :=
  if ec.hasErrors then
    "<html><head><title>Errors</title></head><body>" ++ ec.getErrorsHtml ++ "</body></html>"
  else ec.getDbLastUpdateTime ++ "<br>status: ok"

end GdtCache
