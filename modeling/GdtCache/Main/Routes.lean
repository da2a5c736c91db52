import GdtCache.CacheServer.Run
import GdtCache.Lithium.Api
import GdtCache.Lithium.OutputBuffer
import GdtCache.Lithium.Response
import GdtCache.Main.CheckIpAuthorized
import GdtCache.Main.Status
import GdtCache.Utils.StringUtils

/-!
# The routes of the server

The handlers `main` registers and the table they are registered in; then a whole request: the
handler is looked up, checks who asks, takes its parameters from the url and asks the cache,
`http_serve` makes a response of what it writes or throws, and the response is written into the
buffer of the connection.

The body of a `POST` comes decoded here.  `none` stands for the end of the program: an assertion, an
exception that nobody catches, or what C++ leaves undefined.
-/

namespace GdtCache

open GdtCache.AllowedIps GdtCache.CacheServer GdtCache.Lithium GdtCache.Logging GdtCache.Model
  GdtCache.View

/-! ### The table -/

/-- The lambdas `main` registers, in their order. -/
inductive Handler
  | status
  | listParameterError
  | listEmail
  | listPage
  | listCount
  | listOrderDirection
  | sumNoPost
  | sumEmail
  | sumPost
  deriving DecidableEq

/-- `api` of `main`. -/
def api : Api Handler :=
  Api.new
    |>.get "/status" .status
    |>.get "/listPerEmailApi" .listParameterError
    |>.get "/listPerEmailApi/{{email}}" .listEmail
    |>.get "/listPerEmailApi/{{email}}/{{page}}" .listPage
    |>.get "/listPerEmailApi/{{email}}/{{page}}/{{count}}" .listCount
    |>.get "/listPerEmailApi/{{email}}/{{page}}/{{count}}/{{orderDirection}}" .listOrderDirection
    |>.get "/sumPerEmailApi" .sumNoPost
    |>.get "/sumPerEmailApi/{{email}}" .sumEmail
    |>.post "/sumPerEmailApi" .sumPost

/-! ### A request -/

/-- A request as it comes in: the peer, the head, and the email in the body as `post_parameters`
returns it. -/
structure HttpRequest where
  peer : Address
  head : Head
  header_map : Lib.UnorderedMap String String
  /-- No header field is read past its end. -/
  indexed : head.indexHeaders = some header_map
  /-- A part of a line is never empty. -/
  url_nonempty : head.parseFirstLine.url_ ≠ ""
  post_parameters : Except HttpError (Option String)

namespace HttpRequest

/-- `http_ctx.method()` -/
def method (request : HttpRequest) : String :=
  request.head.parseFirstLine.method_

/-- `http_ctx.url()` -/
def url (request : HttpRequest) : String :=
  request.head.parseFirstLine.url_

/-- What `checkIpAuthorized` reads. -/
def client (request : HttpRequest) : ClientRequest :=
  .ofPeer request.peer ((request.header_map.lookup "X-Forwarded-For").getD "")

end HttpRequest

variable {allowedHosts : List String} {Resolves : String → Address → Prop}

/-- What a request meets besides the state of the server: the table of addresses, the lock and the
buffer of its connection.  Other threads and other requests, refused ones too, change them while it
runs, so every request meets some of its own, whatever they have become. -/
structure Surroundings (allowedHosts : List String) (Resolves : String → Address → Prop) where
  circumstances : Circumstances
  /-- The first scan of `checkIpAuthorized`. -/
  first : Watch allowedHosts Resolves
  /-- The calls of `updateAllowedIps` it makes. -/
  attempts : ℕ → Retry allowedHosts Resolves
  cast : LexicalCast
  /-- What the connection has written and not flushed. -/
  output_stream : OutputBuffer
  capacity_eq : output_stream.capacity = outputBufferSize
  /-- The last status that was set on the connection. -/
  status_code_ : ℕ
  /-- `http_top_header.top_header()` and `http_top_header.top_header_200()`, with the date. -/
  top_header : List UInt8
  top_header_200 : List UInt8
  /-- Both come from buffers of 150 bytes. -/
  top_header_short : top_header.length ≤ 150 ∧ top_header_200.length ≤ 150

/-- `http_ctx.set_header(k, v)` -/
def headerLine (header : String × String) : List UInt8 :=
  bytes (header.1 ++ ": " ++ header.2 ++ "\r\n")

namespace Surroundings

/-- `checkIpAuthorized(request)` -/
def check (around : Surroundings allowedHosts Resolves) (config : Config) (request : HttpRequest) :
    Except HttpError Unit :=
  checkIpAuthorized config request.client around.first around.attempts

/-- What `respond` reads for a reply.  The next request of a connection does not begin with status
200 again, but with its text. -/
def parts (around : Surroundings allowedHosts Resolves) (reply : Reply) : ResponseParts where
  status_code_ :=
    match reply.result with
    | .ok _ => around.status_code_
    | .error (.httpError e) => e.status
    | .error (.runtimeError _) => 500
  status_ := bytes reply.response.status_
  top_header := around.top_header
  top_header_200 := around.top_header_200
  headers := reply.headers.flatMap headerLine
  body := bytes reply.response.body

end Surroundings

/-! ### The handlers -/

namespace Handler

/-- `response.set_header("content-type", "application/json")` -/
def json : List (String × String) :=
  [("content-type", "application/json")]

/-- The answer without an email. -/
def parameterError : String :=
  "\x7b\"state\":\"error\",\"msg\":\"parameter error\"\x7d"

/-- The email as the handlers hand it on. -/
def normalised (email : String) : String :=
  trim (toLowercase email)

/-- What a handler of `listPerEmailApi` asks for, with the parameters it takes from the url and the
defaults of the declaration for the others; `none` for the other handlers. -/
def listRequest (cast : LexicalCast) (fmt : List (List Char × UrlParserInfoNode)) (url : String) :
    Handler → Option (Except Thrown ApiRequest)
  | .listEmail => some do
    let email ← urlString fmt url "email"
    return .list (normalised email) 1 25 .ASC
  | .listPage => some do
    let email ← urlString fmt url "email"
    let page ← urlInt cast fmt url "page"
    return .list (normalised email) page 25 .ASC
  | .listCount => some do
    let email ← urlString fmt url "email"
    let page ← urlInt cast fmt url "page"
    let count ← urlInt cast fmt url "count"
    return .list (normalised email) page count .ASC
  | .listOrderDirection => some do
    let email ← urlString fmt url "email"
    let page ← urlInt cast fmt url "page"
    let count ← urlInt cast fmt url "count"
    let orderDirection ← urlString fmt url "orderDirection"
    return .list (normalised email) page count (orderDirectionFromString orderDirection)
  | _ => none

variable (config : Config) (around : Surroundings allowedHosts Resolves) (request : HttpRequest)
  (s : CacheServer)

/-- `response.write(cs->...)` -/
def ask (apiRequest : ApiRequest) : Option (Reply × CacheServer) :=
  (s.served config around.circumstances apiRequest).map fun (response, s) =>
    (⟨json, response.mapError .httpError⟩, s)

/-- The sum for the email a handler has got; without one, the cache is not asked. -/
def askSum : Except Thrown (Option String) → Option (Reply × CacheServer)
  | .error e => some (⟨json, .error e⟩, s)
  | .ok none => some (⟨json, .ok parameterError⟩, s)
  | .ok (some email) =>
    if email = "" then some (⟨json, .ok parameterError⟩, s)
    else ask config around s (.sum (normalised email))

/-- A handler behind its `checkIpAuthorized`. -/
def handleChecked (fmt : List (List Char × UrlParserInfoNode)) (handler : Handler) :
    Option (Reply × CacheServer) :=
  match handler.listRequest around.cast fmt request.url with
  -- the content type is set behind the parameters
  | some (.error e) => some (⟨[], .error e⟩, s)
  | some (.ok apiRequest) => ask config around s apiRequest
  | none =>
    match handler with
    | .sumEmail => askSum config around s ((urlString fmt request.url "email").map some)
    | .sumPost => askSum config around s (request.post_parameters.mapError .httpError)
    | _ => some (⟨json, .ok parameterError⟩, s)

/-- `response.set_header("content-type", "text/html; charset=utf-8")` -/
def html : List (String × String) :=
  [("content-type", "text/html; charset=utf-8")]

/-- A handler.  `/status` and the first one of `/sumPerEmailApi` do not check who asks. -/
def handle (ec : ContainerSingleton) (fmt : List (List Char × UrlParserInfoNode))
    (handler : Handler) : Option (Reply × CacheServer) :=
  match handler with
  | .status => some (⟨html, .ok (GdtCache.status ec)⟩, s)
  | .sumNoPost => some (⟨json, .ok "\x7b\"state\":\"error\",\"msg\":\"no post\"\x7d"⟩, s)
  | handler =>
    match around.check config request with
    | .error e => some (⟨[], .error (.httpError e)⟩, s)
    | .ok () => handleChecked config around request s fmt handler

end Handler

/-! ### The server -/

/-- The server between two requests. -/
structure Server where
  api : Api Handler
  cacheServer : CacheServer
  /-- `ContainerSingleton::getInstance()` -/
  ec : ContainerSingleton

namespace Server

/-- `main` before it serves: the table, and the cache as start-up leaves it. -/
def start (cacheServer : CacheServer) : Server where
  api := GdtCache.api
  cacheServer := cacheServer
  ec := .new

/-- What the handler of `http_serve` is left with.  The braces in a route are closed; the call of an
entry without a handler throws what is not caught. -/
def reply (config : Config) (around : Surroundings allowedHosts Resolves) (request : HttpRequest)
    (server : Server) : Option (Reply × Server) :=
  match server.api.call request.method request.url with
  | (.ok (some vh), api) =>
    (vh.handler.handle config around request server.cacheServer server.ec
      ((makeUrlParserInfo vh.url_spec).getD [])).map fun (reply, cacheServer) =>
        (reply, ⟨api, cacheServer, server.ec⟩)
  | (.ok none, _) => none
  | (.error e, api) =>
    some (⟨[], .error (.httpError e)⟩, ⟨api, server.cacheServer, server.ec⟩)

/-- A request: its response, what the connection has written then, and the server. -/
def serve (config : Config) (around : Surroundings allowedHosts Resolves) (request : HttpRequest)
    (server : Server) : Option (Response × OutputBuffer × Server) := do
  let (reply, server) ← server.reply config around request
  let output_stream ← (around.parts reply).respond around.output_stream
  return (reply.response, output_stream, server)

/-- What happens to the server: a request, a call of the cache by a background thread, and what is
logged on the way, by any of them. -/
inductive Input (allowedHosts : List String) (Resolves : String → Address → Prop)
  | request (around : Surroundings allowedHosts Resolves) (request : HttpRequest)
  | action (action : CacheServer.Action)
  /-- `LOG_ERROR` -/
  | addLog (log : Entry)
  /-- A load is done, and tells how long it took. -/
  | setDbUpdateTime (str : String)

/-- The server, as long as the program runs; only a request has a response. -/
def machine (config : Config) (timeZone : TimeZone) :
    Lib.Machine (Option Server) (Input allowedHosts Resolves) (Option Response) where
  next server
    | .request around request =>
      (server.bind (serve config around request)).map fun served => served.2.2
    | .action action =>
      server.map fun server => { server with
        cacheServer := (CacheServer.machine config timeZone).next server.cacheServer action }
    | .addLog log => server.map fun server => { server with ec := server.ec.addLog log }
    | .setDbUpdateTime str =>
      server.map fun server => { server with ec := server.ec.setDbUpdateTime str }
  out server
    | .request around request => (server.bind (serve config around request)).map Prod.fst
    | _ => none

end Server

end GdtCache
