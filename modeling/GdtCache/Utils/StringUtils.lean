import Mathlib.Data.List.Basic

/-!
# String helpers

`trim` and `toLowercase` of `utils/stringUtils`, which the request handlers apply to the email of
a request before they hand it to the cache.
-/

namespace GdtCache

/-- The characters `trim` looks for. -/
def isTrimmed (c : Char) : Bool :=
  c = ' ' || c = '\t' || c = '\n' || c = '\r'

/-- `find_first_not_of(" \t\n\r")`, `none` for `npos`. -/
def findFirstNotTrimmed (chars : List Char) : Option ℕ :=
  chars.findIdx? fun c => !isTrimmed c

/-- `find_last_not_of(" \t\n\r")`, `none` for `npos`. -/
def findLastNotTrimmed (chars : List Char) : Option ℕ :=
  (chars.reverse.findIdx? fun c => !isTrimmed c).map fun i => chars.length - 1 - i

/-- `trim`. -/
def trim (str : String) : String :=
  match findFirstNotTrimmed str.toList, findLastNotTrimmed str.toList with
  | some first, some last => String.ofList ((str.toList.drop first).take (last - first + 1))
  -- both searches fail together: nothing but white space, which is returned as it is
  | _, _ => str

/-- `toLowercase`: `::tolower` in the C locale, which only knows the letters of ASCII. -/
def toLowercase (str : String) : String :=
  String.ofList (str.toList.map Char.toLower)

example : trim (toLowercase "\t Bob@Example.org ") = "bob@example.org" := by decide

/-- The two searches of `trim` fail together. -/
theorem findFirstNotTrimmed_eq_none_iff (chars : List Char) :
    findFirstNotTrimmed chars = none ↔ findLastNotTrimmed chars = none := by
  simp [findFirstNotTrimmed, findLastNotTrimmed, List.findIdx?_eq_none_iff]

end GdtCache
