import GdtCache.Lithium.Request

/-!
# Responses

The status line of a response and what `http_serve` makes of what a handler leaves: its headers,
and what it wrote or threw.
-/

namespace GdtCache.Lithium

/-- `set_status`; a status it does not know is sent as `200 OK`. -/
def setStatus (status : ℕ) : String :=
  match status with
  | 200 => "200 OK"
  | 201 => "201 Created"
  | 204 => "204 No Content"
  | 301 => "301 Moved Permanently"
  | 302 => "302 Object moved"
  | 303 => "303 See Other"
  | 304 => "304 Not Modified"
  | 307 => "307 Temporary redirect"
  | 400 => "400 Bad Request"
  | 401 => "401 Unauthorized"
  | 402 => "402 Payment Required"
  | 403 => "403 Forbidden"
  | 404 => "404 Not Found"
  | 405 => "405 HTTP verb used to access this page is not allowed (method not allowed)"
  | 406 => "406 Client browser does not accept the MIME type of the requested page"
  | 409 => "409 Conflict"
  | 500 => "500 Internal Server Error"
  | _ => "200 OK"

/-- What a handler leaves behind: the headers it has set, and what it writes or throws. -/
structure Reply where
  headers : List (String × String)
  result : Except Thrown String

/-- A response. -/
structure Response where
  status_ : String
  headers : List (String × String)
  body : String
  deriving DecidableEq

/-- The handler of `http_serve`. -/
def Reply.response (reply : Reply) : Response :=
  match reply.result with
  | .ok body => ⟨setStatus 200, reply.headers, body⟩
  | .error (.httpError e) => ⟨setStatus e.status, reply.headers, e.what⟩
  | .error (.runtimeError _) => ⟨setStatus 500, reply.headers, "Internal server error."⟩

end GdtCache.Lithium
