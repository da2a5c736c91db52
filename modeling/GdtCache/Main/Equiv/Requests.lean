import GdtCache.BackgroundTasks.Equiv.UpdateGdtEntryList
import GdtCache.CacheServer.Equiv.ListPerEmailApi
import GdtCache.CacheServer.Equiv.Run
import GdtCache.Lib.Json
import GdtCache.Lithium.Equiv.OutputBuffer
import GdtCache.Main.Equiv.CheckIpAuthorized
import GdtCache.Main.Equiv.Routes

/-!
# What becomes of a request

What a request does depends on the route table, whose memory other requests have changed, on the
cache, and on what other threads have made of everything else.  The memory of the table does not
show (`reply_of_inl`, `reply_of_inr`), and a reply becomes a response if its body fits into the
buffer of the connection (`serve_isSome_iff`).

A request that does not pass `checkIpAuthorized` leaves the cache as it is, and but for `/status` it
is answered without a look at anything that changes (`refused_response_eq`).
-/

namespace GdtCache

open GdtCache.AllowedIps GdtCache.CacheServer GdtCache.Lib GdtCache.Lithium GdtCache.Lithium.Api
  GdtCache.Logging GdtCache.Model

variable {allowedHosts : List String} {Resolves : String → Address → Prop}

namespace Server

/-! ### The memory of the table -/

/-- The table is the one of `main`, and what is remembered of it is right. -/
structure Valid (server : Server) : Prop where
  remembers : server.api.Remembers
  routes_map : server.api.routes_map_ = GdtCache.api.routes_map_

theorem valid_start (cacheServer : CacheServer) : (start cacheServer).Valid where
  remembers := remembers_of_empty rfl
  routes_map := rfl

theorem Valid.outcome_call {server : Server} (h : server.Valid) (request : HttpRequest) :
    outcome (server.api.call request.method request.url).1 =
      routed request.method request.url := by
  have hcall : outcome (server.api.call request.method request.url).1 =
      outcome (server.api.dispatch request.method request.url) :=
    Api.outcome_call h.remembers request.url_nonempty
  rw [hcall, dispatch_congr h.routes_map, dispatch_api]

/-- The handler for an entry of the table. -/
def answer (config : Config) (around : Surroundings allowedHosts Resolves) (request : HttpRequest)
    (server : Server) (vh : VH Handler) : Option (Reply × CacheServer) :=
  vh.handler.handle config around request server.cacheServer server.ec
    ((makeUrlParserInfo vh.url_spec).getD [])

theorem routed_ne_inr_none (method url : String) : routed method url ≠ .inr none := by
  rw [routed]
  split
  · exact Sum.inl_ne_inr
  · split_ifs
    · exact fun h => Option.some_ne_none _ (Sum.inr_injective h)
    · exact Sum.inl_ne_inr

variable {config : Config} {around : Surroundings allowedHosts Resolves} {request : HttpRequest}
  {server : Server}

/-- A call that ends without a handler. -/
theorem reply_of_inl (h : server.Valid) {status : ℕ}
    (hrouted : routed request.method request.url = .inl status) :
    ∃ what, server.reply config around request =
      some (⟨[], .error (.httpError ⟨status, what⟩)⟩,
        ⟨(server.api.call request.method request.url).2, server.cacheServer, server.ec⟩) := by
  have hcall := h.outcome_call request
  rw [hrouted] at hcall
  rw [reply]
  generalize server.api.call request.method request.url = called at hcall ⊢
  rcases called with ⟨e | vh, api⟩
  · have hstatus : e.status = status := Sum.inl_injective hcall
    exact ⟨e.what, by rw [← hstatus]⟩
  · exact absurd hcall Sum.inr_ne_inl

/-- A call that ends at an entry. -/
theorem reply_of_inr (h : server.Valid) {vh : VH Handler}
    (hrouted : routed request.method request.url = .inr (some vh)) :
    server.reply config around request =
      (answer config around request server vh).map fun answered =>
        (answered.1,
          ⟨(server.api.call request.method request.url).2, answered.2, server.ec⟩) := by
  have hcall := h.outcome_call request
  rw [hrouted] at hcall
  rw [reply]
  generalize server.api.call request.method request.url = called at hcall ⊢
  rcases called with ⟨e | vh', api⟩
  · exact absurd hcall Sum.inl_ne_inr
  · have hvh : vh' = some vh := Sum.inr_injective hcall
    subst hvh
    rfl

/-- Besides the cache, a reply changes the memory of the table only. -/
theorem server_reply {server' : Server} {reply : Reply}
    (h : server.reply config around request = some (reply, server')) :
    server'.api = (server.api.call request.method request.url).2 ∧ server'.ec = server.ec := by
  rw [Server.reply] at h
  split at h
  · rename_i hcall
    obtain ⟨answered, -, heq⟩ := Option.map_eq_some_iff.mp h
    cases heq
    exact ⟨by rw [hcall], rfl⟩
  · cases h
  · rename_i hcall
    cases h
    exact ⟨by rw [hcall], rfl⟩

theorem Valid.reply (h : server.Valid) {server' : Server} {reply : Reply}
    (hreply : server.reply config around request = some (reply, server')) : server'.Valid where
  remembers := by
    rw [(server_reply hreply).1]
    exact h.remembers.call _ _
  routes_map := by rw [(server_reply hreply).1, routes_map_call, h.routes_map]

/-! ### What fits into the buffer -/

theorem utf8ByteSize_setStatus_le (status : ℕ) : (setStatus status).utf8ByteSize ≤ 100 := by
  unfold setStatus
  split <;> decide

/-- The headers that handlers set. -/
def headerSets : List (List (String × String)) :=
  [[], Handler.json, Handler.html]

theorem headers_ask {s : CacheServer} {apiRequest : ApiRequest} {answered : Reply × CacheServer}
    (h : Handler.ask config around s apiRequest = some answered) :
    answered.1.headers = Handler.json := by
  obtain ⟨served, -, rfl⟩ := Option.map_eq_some_iff.mp h
  rfl

theorem headers_askSum {s : CacheServer} {email : Except Thrown (Option String)}
    {answered : Reply × CacheServer}
    (h : Handler.askSum config around s email = some answered) :
    answered.1.headers = Handler.json := by
  cases email with
  | error e =>
    cases h
    rfl
  | ok email =>
    cases email with
    | none =>
      cases h
      rfl
    | some email =>
      rw [Handler.askSum] at h
      split_ifs at h
      · cases h
        rfl
      · exact headers_ask h

theorem headers_handleChecked {s : CacheServer} {fmt : List (List Char × UrlParserInfoNode)}
    {handler : Handler} {answered : Reply × CacheServer}
    (h : handler.handleChecked config around request s fmt = some answered) :
    answered.1.headers = [] ∨ answered.1.headers = Handler.json := by
  unfold Handler.handleChecked at h
  split at h
  · cases h
    exact .inl rfl
  · exact .inr (headers_ask h)
  · split at h
    · exact .inr (headers_askSum h)
    · exact .inr (headers_askSum h)
    · cases h
      exact .inr rfl

theorem headers_handle {s : CacheServer} {ec : ContainerSingleton}
    {fmt : List (List Char × UrlParserInfoNode)} {handler : Handler}
    {answered : Reply × CacheServer}
    (h : handler.handle config around request s ec fmt = some answered) :
    answered.1.headers ∈ headerSets := by
  unfold Handler.handle at h
  split at h
  · cases h
    simp [headerSets]
  · cases h
    simp [headerSets]
  · split at h
    · cases h
      simp [headerSets]
    · rcases headers_handleChecked h with hheaders | hheaders <;> simp [headerSets, hheaders]

theorem headers_reply {server' : Server} {reply : Reply}
    (h : server.reply config around request = some (reply, server')) :
    reply.headers ∈ headerSets := by
  rw [Server.reply] at h
  split at h
  · obtain ⟨answered, hanswered, heq⟩ := Option.map_eq_some_iff.mp h
    cases heq
    exact headers_handle hanswered
  · cases h
  · cases h
    simp [headerSets]

/-- Only the body of a response may be too long. -/
theorem fits_parts (around : Surroundings allowedHosts Resolves) {reply : Reply}
    (hheaders : reply.headers ∈ headerSets) :
    (around.parts reply).Fits outputBufferSize ↔
      reply.response.body.utf8ByteSize < outputBufferSize := by
  have hbuffer : outputBufferSize = 51200 := rfl
  have hstatus : (bytes reply.response.status_).length ≤ 100 := by
    rw [length_bytes]
    unfold Reply.response
    split <;> exact utf8ByteSize_setStatus_le _
  have hversion : (bytes "HTTP/1.1 ").length ≤ 100 := by
    rw [length_bytes]
    decide
  have hlength : (bytes "Content-Length: ").length ≤ 100 := by
    rw [length_bytes]
    decide
  have hlines : (around.parts reply).headers.length ≤ 100 := by
    have hlines : ∀ headers ∈ headerSets, (headers.flatMap headerLine).length ≤ 100 := by
      decide +kernel
    exact hlines _ hheaders
  obtain ⟨htop, htop'⟩ := around.top_header_short
  have hhead : ∀ piece ∈ (around.parts reply).head, piece.length < outputBufferSize := by
    intro piece hpiece
    rw [ResponseParts.head, List.mem_append] at hpiece
    rcases hpiece with hpiece | hpiece
    · split_ifs at hpiece
      · rw [List.mem_singleton.mp hpiece]
        exact Nat.lt_of_le_of_lt htop' (by decide)
      · simp only [List.mem_cons, List.not_mem_nil, or_false] at hpiece
        rcases hpiece with rfl | rfl | rfl
        · omega
        · exact Nat.lt_of_le_of_lt hstatus (by decide)
        · exact Nat.lt_of_le_of_lt htop (by decide)
    · simp only [List.mem_cons, List.not_mem_nil, or_false] at hpiece
      rcases hpiece with rfl | rfl
      · omega
      · omega
  have hbody : (around.parts reply).body.length = reply.response.body.utf8ByteSize :=
    length_bytes _
  rw [ResponseParts.Fits, hbody]
  exact and_iff_right hhead

/-- **A reply becomes a response** if its body fits into the buffer. -/
theorem serve_isSome_iff (config : Config) (around : Surroundings allowedHosts Resolves)
    (request : HttpRequest) (server : Server) :
    (server.serve config around request).isSome = true ↔
      ∃ reply server', server.reply config around request = some (reply, server') ∧
        reply.response.body.utf8ByteSize < outputBufferSize := by
  rw [serve]
  cases hreply : server.reply config around request with
  | none => simp
  | some replied =>
    obtain ⟨reply, server'⟩ := replied
    have hfits := ResponseParts.respond_isSome_iff (around.parts reply) around.output_stream
    rw [around.capacity_eq, fits_parts around (headers_reply hreply)] at hfits
    cases hrespond : (around.parts reply).respond around.output_stream with
    | none => simpa [hrespond] using hfits
    | some output_stream => simpa [hrespond] using hfits

theorem exists_serve (h : ((server.reply config around request).map fun replied =>
    decide (replied.1.response.body.utf8ByteSize < outputBufferSize)) = some true) :
    ∃ response output_stream server',
      server.serve config around request = some (response, output_stream, server') := by
  obtain ⟨⟨reply, server₁⟩, hreply, hfits⟩ := Option.map_eq_some_iff.mp h
  obtain ⟨⟨response, output_stream, server'⟩, hserve⟩ := Option.isSome_iff_exists.mp
    ((serve_isSome_iff config around request server).mpr
      ⟨reply, server₁, hreply, of_decide_eq_true hfits⟩)
  exact ⟨response, output_stream, server', hserve⟩

/-- What is written is the response. -/
theorem exists_reply_of_serve {response : Response} {output_stream : OutputBuffer}
    {server' : Server}
    (h : server.serve config around request = some (response, output_stream, server')) :
    ∃ reply, server.reply config around request = some (reply, server') ∧
      response = reply.response ∧
      output_stream.content = around.output_stream.content ++ (around.parts reply).text := by
  obtain ⟨⟨reply, server₁⟩, hreply, h⟩ := Option.bind_eq_some_iff.mp h
  obtain ⟨b, hrespond, h⟩ := Option.bind_eq_some_iff.mp h
  cases h
  exact ⟨reply, hreply, rfl, (ResponseParts.respond_spec hrespond).content_eq⟩

/-! ### Runs -/

section

variable (config) (timeZone : TimeZone)

theorem next_request (server : Server) (around : Surroundings allowedHosts Resolves)
    (request : HttpRequest) :
    (machine config timeZone).next (some server) (.request around request) =
      (server.serve config around request).map fun served => served.2.2 := by
  rw [machine]
  dsimp only
  rw [Option.bind_some]

theorem valid_next {input : Input allowedHosts Resolves} {server server' : Server}
    (h : server.Valid) (hnext : (machine config timeZone).next (some server) input = some server') :
    server'.Valid := by
  cases input with
  | request around request =>
    rw [next_request, Option.map_eq_some_iff] at hnext
    obtain ⟨⟨response, output_stream, server''⟩, hserve, rfl⟩ := hnext
    obtain ⟨reply, hreply, -⟩ := exists_reply_of_serve hserve
    exact h.reply hreply
  | action action =>
    cases hnext
    exact ⟨h.remembers, h.routes_map⟩
  | addLog log =>
    cases hnext
    exact ⟨h.remembers, h.routes_map⟩
  | setDbUpdateTime str =>
    cases hnext
    exact ⟨h.remembers, h.routes_map⟩

/-- The program has ended, or its table is in order. -/
theorem valid_run (cacheServer : CacheServer) (inputs : List (Input allowedHosts Resolves)) :
    ∀ server, (machine config timeZone).run (some (start cacheServer)) inputs = some server →
      server.Valid := by
  refine @Machine.run_induction _ _ _ (machine config timeZone)
    (fun s => ∀ server, s = some server → server.Valid) _ inputs ?_ ?_
  · intro server h
    cases h
    exact valid_start cacheServer
  · intro input _ s ih server h
    cases s with
    | none => cases input <;> cases h
    | some server₀ => exact valid_next config timeZone (ih server₀ rfl) h

end

/-! ### Without authorization -/

/-- What a handler replies to a request that is not authorized. -/
def refusal (ec : ContainerSingleton) : Handler → Reply
  | .status => ⟨Handler.html, .ok (GdtCache.status ec)⟩
  | .sumNoPost => ⟨Handler.json, .ok "\x7b\"state\":\"error\",\"msg\":\"no post\"\x7d"⟩
  | _ => ⟨[], .error (.httpError (.unauthorized "\x7b\"state\":\"error\"\x7d"))⟩

/-- The handlers that ask the cache check first. -/
theorem answer_of_refused (h : around.check config request ≠ .ok ()) (server : Server)
    (vh : VH Handler) :
    answer config around request server vh =
      some (refusal server.ec vh.handler, server.cacheServer) := by
  obtain ⟨e, he⟩ : ∃ e, around.check config request = .error e := by
    cases hcheck : around.check config request with
    | error e => exact ⟨e, rfl⟩
    | ok u => exact absurd hcheck h
  have he' := checkIpAuthorized_eq_error he
  subst he'
  obtain ⟨verb, handler, url_spec⟩ := vh
  cases handler <;> simp only [answer, Handler.handle, he, refusal]

/-- A response; of one with status 404 only that. -/
def view (response : Response) : Response :=
  if response.status_ = setStatus 404 then ⟨response.status_, [], ""⟩ else response

theorem eq_404_of_routed {method url : String} {status : ℕ}
    (h : routed method url = .inl status) : status = 404 := by
  rw [routed] at h
  split at h
  · exact (Sum.inl_injective h).symm
  · split_ifs at h
    exact (Sum.inl_injective h).symm

/-- What a request gets that is not authorized; of an error of the table only the status. -/
def refusedView (ec : ContainerSingleton) (request : HttpRequest) : Response :=
  match routed request.method request.url with
  | .inr (some vh) => view (refusal ec vh.handler).response
  | _ => ⟨setStatus 404, [], ""⟩

theorem refused_serve (hserver : server.Valid) (h : around.check config request ≠ .ok ())
    {response : Response} {output_stream : OutputBuffer} {server' : Server}
    (hserve : server.serve config around request = some (response, output_stream, server')) :
    view response = refusedView server.ec request ∧ server'.cacheServer = server.cacheServer := by
  obtain ⟨reply, hreply, rfl, -⟩ := exists_reply_of_serve hserve
  rw [refusedView]
  cases hrouted : routed request.method request.url with
  | inl status =>
    obtain ⟨what, hwhat⟩ := @reply_of_inl _ _ config around _ _ hserver _ hrouted
    rw [hwhat, eq_404_of_routed hrouted] at hreply
    cases hreply
    exact ⟨rfl, rfl⟩
  | inr vh =>
    cases vh with
    | none => exact absurd hrouted (routed_ne_inr_none _ _)
    | some vh =>
      rw [reply_of_inr hserver hrouted, answer_of_refused h] at hreply
      cases hreply
      exact ⟨rfl, rfl⟩

/-- The request is for the log. -/
def AsksStatus (request : HttpRequest) : Prop :=
  ∃ vh, routed request.method request.url = .inr (some vh) ∧ vh.handler = .status

theorem refusedView_congr (ec ec' : ContainerSingleton) (h : ¬ AsksStatus request) :
    refusedView ec request = refusedView ec' request := by
  rw [refusedView, refusedView]
  cases hrouted : routed request.method request.url with
  | inl status => rfl
  | inr vh =>
    cases vh with
    | none => rfl
    | some vh =>
      have hstatus : vh.handler ≠ .status := fun hvh => h ⟨vh, hrouted, hvh⟩
      have hrefusal : refusal ec vh.handler = refusal ec' vh.handler := by
        cases hvh : vh.handler with
        | status => exact absurd hvh hstatus
        | _ => rfl
      dsimp only
      rw [hrefusal]

/-- **Who is not authorized learns nothing but the log**: a request that does not pass the check is
answered the same in any two runs of the server, whatever the caches, the logs and the tables of
addresses are, unless it asks for the status page; and it leaves the cache as it is. -/
theorem refused_response_eq {config : Config} {timeZone : TimeZone}
    {cacheServer cacheServer' : CacheServer} {inputs inputs' : List (Input allowedHosts Resolves)}
    {server server' : Server}
    (hserver : (machine config timeZone).run (some (start cacheServer)) inputs = some server)
    (hserver' : (machine config timeZone).run (some (start cacheServer')) inputs' = some server')
    {around around' : Surroundings allowedHosts Resolves} {request : HttpRequest}
    (hcheck : around.check config request ≠ .ok ())
    (hcheck' : around'.check config request ≠ .ok ())
    (hstatus : ¬ AsksStatus request)
    {response response' : Response} {output_stream output_stream' : OutputBuffer}
    {next next' : Server}
    (hserve : server.serve config around request = some (response, output_stream, next))
    (hserve' : server'.serve config around' request = some (response', output_stream', next')) :
    view response = view response' ∧ next.cacheServer = server.cacheServer ∧
      next'.cacheServer = server'.cacheServer := by
  obtain ⟨hview, hcache⟩ :=
    refused_serve (valid_run config timeZone _ _ _ hserver) hcheck hserve
  obtain ⟨hview', hcache'⟩ :=
    refused_serve (valid_run config timeZone _ _ _ hserver') hcheck' hserve'
  exact ⟨by rw [hview, hview', refusedView_congr server.ec server'.ec hstatus], hcache, hcache'⟩

/-! ### Two servers -/

/-- `boost::lexical_cast` for decimal numbers. -/
def sampleCast : LexicalCast where
  toInt text := (Json.intValue text).map Int32.ofInt
  what := "bad lexical cast: source type value could not be interpreted as target"
  toInt_toString n := by rw [Json.intValue_toString, Option.map_some, Int32.ofInt_toInt]

/-- The server's part of a status line and its header. -/
def sampleHeader : List UInt8 :=
  bytes "\r\nServer: Lithium\r\n"

def sampleHeader200 : List UInt8 :=
  bytes "HTTP/1.1 200 OK\r\nServer: Lithium\r\n"

theorem sampleHeader_short : sampleHeader.length ≤ 150 ∧ sampleHeader200.length ≤ 150 := by
  rw [sampleHeader, sampleHeader200, length_bytes, length_bytes]
  exact ⟨by decide, by decide⟩

/-- The allowed host is in the table, and nothing changes; the connection is new. -/
def sampleSurroundings : Surroundings sampleConfig.allowedHosts fun _ a => a = sampleAddress where
  circumstances := { sampleCircumstances with now := 100 }
  first := Watch.still (sampleTable 2) (sampleTable_reachable 2)
  attempts _ := ⟨.OK, Watch.still (sampleTable 2) (sampleTable_reachable 2)⟩
  cast := sampleCast
  output_stream := .new outputBufferSize
  capacity_eq := rfl
  status_code_ := 200
  top_header := sampleHeader
  top_header_200 := sampleHeader200
  top_header_short := sampleHeader_short

/-- An error that is logged. -/
def sampleLog : Entry :=
  ⟨.ERROR, "empty date", "getAll", "GdtEntry.cpp", 64⟩

/-- Bob's list is loaded before anybody asks, and an error has been logged. -/
def sampleInputs : List (Input sampleConfig.allowedHosts fun _ a => a = sampleAddress) :=
  [.addLog sampleLog, .action (.loadFromDb (bobTables.answer .ascii) ⟨0, fun _ => 0⟩),
    .setDbUpdateTime "dbTime: 12 ms"]

/-- The server with Bob's list. -/
def sampleServer : Server where
  api := GdtCache.api
  cacheServer := (CacheServer.new.loadFromDb (fun _ => 0) (bobTables.answer .ascii)
    ⟨0, fun _ => 0⟩).2
  ec := ⟨[sampleLog], 0, "dbTime: 12 ms"⟩

/-- Somebody whose address is in no table asks for Bob's list. -/
def refusedRequest : HttpRequest where
  peer := sampleAddress
  head := ⟨"GET /listPerEmailApi/bob@example.org HTTP/1.1\r\n".toList, [], ['\r', '\n']⟩
  header_map := ∅
  indexed := rfl
  url_nonempty := by decide +kernel
  post_parameters := .ok none

/-- The table is empty, and no update succeeds; an earlier request of the connection was refused. -/
def otherSurroundings : Surroundings sampleConfig.allowedHosts fun _ a => a = sampleAddress :=
  { sampleSurroundings with
    first := Watch.still _ (.new 0)
    attempts := fun _ => ⟨.ERROR, Watch.still _ (.new 0)⟩
    status_code_ := 401 }

/-- The request is refused by the server that has Bob's list, and by one that has just started. -/
theorem refused_response_eq_bob :
    ∃ response response' output_stream output_stream' next next',
      sampleServer.serve sampleConfig sampleSurroundings refusedRequest =
          some (response, output_stream, next) ∧
        (start .new).serve sampleConfig otherSurroundings refusedRequest =
          some (response', output_stream', next') ∧
        view response = view response' ∧ next.cacheServer = sampleServer.cacheServer ∧
        next'.cacheServer = (start .new).cacheServer := by
  obtain ⟨response, output_stream, next, hserve⟩ := @exists_serve _ _ sampleConfig
    sampleSurroundings refusedRequest sampleServer (by decide +kernel)
  obtain ⟨response', output_stream', next', hserve'⟩ := @exists_serve _ _ sampleConfig
    otherSurroundings refusedRequest (start .new) (by decide +kernel)
  have hhandler : (match routed refusedRequest.method refusedRequest.url with
      | .inr (some vh) => decide (vh.handler = .status)
      | _ => false) = false := by decide +kernel
  have hstatus : ¬ AsksStatus refusedRequest := by
    rintro ⟨vh, hvh, hstatus⟩
    rw [hvh] at hhandler
    exact of_decide_eq_false hhandler hstatus
  exact ⟨_, _, _, _, _, _, hserve, hserve', @refused_response_eq _ _ sampleConfig (fun _ => 0) .new
    .new sampleInputs [] sampleServer (start .new) rfl rfl sampleSurroundings otherSurroundings
    refusedRequest (by decide +kernel) (by decide +kernel) hstatus _ _ _ _ _ _ hserve hserve'⟩

end Server

end GdtCache
