import Mathlib.Data.List.Basic
import Mathlib.Data.Int.Notation

/-!
# Configuration

The fields of `model::Config` the cache reads, with the defaults of its constructor, and the
pattern `g_EmailValidPattern`, which decides whether an unknown email is worth a database query.
-/

namespace GdtCache.Model

/-- `model::Config` -/
structure Config where
  /-- Minimal cache timeout in seconds. -/
  minCacheTimeout : ℤ := 10
  /-- Maximal cache timeout in seconds. -/
  maxCacheTimeout : ℤ := 60 * 60 * 4
  /-- The hosts whose addresses may ask. -/
  allowedHosts : List String := []
  /-- Whether only allowed hosts may ask. -/
  ipWhiteListing : Bool := true

/-! ### The email pattern -/

/-- `\s` in the C locale. -/
def isSpace (c : Char) : Bool :=
  c = ' ' || c = '\t' || c = '\n' || c = '\x0b' || c = '\x0c' || c = '\r'

/-- `[^\s@.,]`; the parts the pattern is applied to hold no `@` and no `.` any more. -/
def isLabelChar (c : Char) : Bool :=
  !isSpace c && c ≠ ','

/-- `[^\s@.,]+` -/
def isLabel (label : List Char) : Bool :=
  !label.isEmpty && label.all isLabelChar

/-- `std::regex_match(email, g_EmailValidPattern)` for
`^[^\s@]+@([^\s@.,]+\.)+[^\s@.,]{2,}$`: one `@`, something without blanks before it, and at least
two dot-separated labels behind it, the last of at least two bytes. -/
def emailValid (email : String) : Bool :=
  match email.toList.splitOn '@' with
  | [name, host] =>
    let labels := host.splitOn '.'
    !name.isEmpty && name.all (fun c => !isSpace c) && 2 ≤ labels.length && labels.all isLabel
      && 2 ≤ (String.ofList (labels.getLastD [])).utf8ByteSize
  | _ => false

example : ["bob@example.org", "bob@example", "bob@.org", "b b@example.org", "bob@example.o"].map
    emailValid = [true, false, false, false, false] := by decide

end GdtCache.Model
