import Mathlib.Data.Nat.Notation

/-!
# Exceptions

The kinds of exception the program's `catch` clauses tell apart, and `http_error`, which the
request handlers throw and which is none of them: it has no base class.
-/

namespace GdtCache

/-- What a database call or a row callback may throw. -/
inductive Exception
  /-- `boost::bad_lexical_cast`: a column does not convert to its C++ type. -/
  | badLexicalCast
  /-- `std::runtime_error` -/
  | runtimeError (what : String)
  /-- Any other `std::exception`. -/
  | exception (what : String)
  /-- Anything else. -/
  | other
  deriving DecidableEq, Repr

/-- `li::http_error` -/
structure HttpError where
  status : ℕ
  what : String
  deriving DecidableEq, Repr

/-- `http_error::internal_server_error(what)` -/
def HttpError.internalServerError (what : String) : HttpError :=
  ⟨500, what⟩

/-- `http_error::unauthorized(what)` -/
def HttpError.unauthorized (what : String) : HttpError :=
  ⟨401, what⟩

/-- `http_error::not_found(what)` -/
def HttpError.notFound (what : String) : HttpError :=
  ⟨404, what⟩

/-- `http_error::bad_request(what)` -/
def HttpError.badRequest (what : String) : HttpError :=
  ⟨400, what⟩

end GdtCache
