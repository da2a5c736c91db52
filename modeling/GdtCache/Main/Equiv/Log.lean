import GdtCache.Logging.Equiv.Window
import GdtCache.Main.Equiv.Requests

/-!
# What the status page shows

The log of the server is the log of its whole run: every error that was logged, whoever logged it,
and the time of the last load (`ec_run`).  The status page shows it to anyone, and but for it
nothing that the server has (`status_response`); how much of it is shown is
`Logging.ContainerSingleton.getErrorsHtml_afterLogs`.
-/

namespace GdtCache

open GdtCache.AllowedIps GdtCache.CacheServer GdtCache.Lib GdtCache.Lithium GdtCache.Lithium.Api
  GdtCache.Logging GdtCache.Logging.ContainerSingleton GdtCache.Model

variable {allowedHosts : List String} {Resolves : String → Address → Prop}

namespace Server

/-! ### The log of a run -/

/-- The error that is logged, if one is. -/
def Input.log : Input allowedHosts Resolves → Option Entry
  | .addLog log => some log
  | _ => none

/-- The time of the last load, if it was `time` before. -/
def Input.dbUpdateTime (time : String) : Input allowedHosts Resolves → String
  | .setDbUpdateTime str => str
  | _ => time

/-- All errors that are logged, the oldest first. -/
def loggedErrors (inputs : List (Input allowedHosts Resolves)) : List Entry :=
  inputs.filterMap Input.log

/-- The time of the last load; empty before the first one. -/
def lastDbUpdateTime (inputs : List (Input allowedHosts Resolves)) : String :=
  inputs.foldl Input.dbUpdateTime ""

section

variable {config : Config} {timeZone : TimeZone}

/-- **Step.**  The log after an input is the one before it, with what the input has logged. -/
theorem ec_next {inputs : List (Input allowedHosts Resolves)}
    {input : Input allowedHosts Resolves} {server server' : Server}
    (h : server.ec = afterLogs (lastDbUpdateTime inputs) (loggedErrors inputs))
    (hnext : (machine config timeZone).next (some server) input = some server') :
    server'.ec =
      afterLogs (lastDbUpdateTime (inputs ++ [input])) (loggedErrors (inputs ++ [input])) := by
  rw [lastDbUpdateTime, List.foldl_append, loggedErrors, List.filterMap_append]
  cases input with
  | request around request =>
    rw [next_request, Option.map_eq_some_iff] at hnext
    obtain ⟨⟨response, output_stream, server''⟩, hserve, rfl⟩ := hnext
    obtain ⟨reply, hreply, -⟩ := exists_reply_of_serve hserve
    rw [(server_reply hreply).2, h]
    exact congrArg (afterLogs _) (List.append_nil _).symm
  | action action =>
    cases hnext
    exact h.trans (congrArg (afterLogs _) (List.append_nil _).symm)
  | addLog log =>
    cases hnext
    show server.ec.addLog log = _
    rw [h, addLog_afterLogs]
    rfl
  | setDbUpdateTime str =>
    cases hnext
    show server.ec.setDbUpdateTime str = _
    rw [h, setDbUpdateTime_afterLogs]
    exact congrArg (afterLogs _) (List.append_nil _).symm

/-- **The log of a run** is that of all its inputs. -/
theorem ec_run (cacheServer : CacheServer) (inputs : List (Input allowedHosts Resolves)) :
    ∀ server, (machine config timeZone).run (some (start cacheServer)) inputs = some server →
      server.ec = afterLogs (lastDbUpdateTime inputs) (loggedErrors inputs) := by
  induction inputs using List.reverseRecOn with
  | nil =>
    intro server h
    cases h
    rfl
  | append_singleton inputs input ih =>
    intro server h
    rw [Machine.run_append] at h
    cases hrun : (machine config timeZone).run (some (start cacheServer)) inputs with
    | none =>
      rw [hrun] at h
      cases input <;> cases h
    | some server₀ =>
      rw [hrun] at h
      exact ec_next (ih server₀ hrun) h

end

/-! ### The page -/

theorem handler_listTarget_ne (params : List (List Char)) :
    (listTarget params).handler ≠ .status := by
  rcases params with _ | ⟨email, _ | ⟨page, _ | ⟨count, _ | ⟨order, params⟩⟩⟩⟩ <;> nofun

theorem handler_sumTarget_ne (params : List (List Char)) :
    (sumTarget params).handler ≠ .status := by
  cases params <;> nofun

/-- The entry of the page is found by its name alone. -/
theorem target_eq_status {p : List (List Char)} {vh : VH Handler} (h : target p = some vh)
    (hvh : vh.handler = .status) :
    vh = entry .GET "/status" .status ∧ p.head? = some "status".toList := by
  cases p with
  | nil => cases h
  | cons name params =>
    rw [target] at h
    split_ifs at h with hstatus hlist hsum
    · exact ⟨(Option.some.inj h).symm, congrArg some hstatus⟩
    · cases h
      exact absurd hvh (handler_listTarget_ne params)
    · cases h
      exact absurd hvh (handler_sumTarget_ne params)

/-- Behind `status`, anything may follow. -/
theorem asksStatus_iff (request : HttpRequest) :
    AsksStatus request ↔ request.method = "GET" ∧
      (parts (strip request.url).toList).head? = some "status".toList := by
  have hallows : allows (entry .GET "/status" .status) request.method = true ↔
      request.method = "GET" := by
    unfold allows entry parseVerb
    split_ifs <;> simp_all
  rw [AsksStatus, routed]
  constructor
  · rintro ⟨vh, hrouted, hvh⟩
    cases htarget : target (parts (strip request.url).toList) with
    | none =>
      rw [htarget] at hrouted
      exact absurd hrouted Sum.inl_ne_inr
    | some vh' =>
      rw [htarget] at hrouted
      dsimp only at hrouted
      split_ifs at hrouted with hmethod
      obtain rfl : vh' = vh := Option.some.inj (Sum.inr_injective hrouted)
      obtain ⟨rfl, hhead⟩ := target_eq_status htarget hvh
      exact ⟨hallows.mp hmethod, hhead⟩
  · rintro ⟨hmethod, hhead⟩
    obtain ⟨params, hparts⟩ := List.head?_eq_some_iff.mp hhead
    have htarget : target (parts (strip request.url).toList)
        = some (entry .GET "/status" .status) := by
      rw [hparts, target, if_pos rfl]
    rw [htarget]
    exact ⟨_, if_pos (hallows.mpr hmethod), rfl⟩

theorem reply_of_asksStatus {config : Config} {around : Surroundings allowedHosts Resolves}
    {request : HttpRequest} {server : Server} (hvalid : server.Valid)
    (h : AsksStatus request) :
    server.reply config around request =
      some (⟨Handler.html, .ok (GdtCache.status server.ec)⟩,
        ⟨(server.api.call request.method request.url).2, server.cacheServer, server.ec⟩) := by
  obtain ⟨⟨verb, handler, url_spec⟩, hrouted, rfl⟩ := h
  rw [reply_of_inr hvalid hrouted]
  rfl

/-- **Anybody may read the log**, of the whole run and of nothing else: after any run, a request for
the status page, authorized or not, is answered if and only if the page fits into the buffer of the
connection, and the page is made of the errors logged in the run and the time of the last load
alone. -/
theorem status_response {config : Config} {timeZone : TimeZone} {cacheServer : CacheServer}
    {inputs : List (Input allowedHosts Resolves)} {server : Server}
    (hserver : (machine config timeZone).run (some (start cacheServer)) inputs = some server)
    {around : Surroundings allowedHosts Resolves} {request : HttpRequest}
    (hget : request.method = "GET")
    (hurl : (parts (strip request.url).toList).head? = some "status".toList) :
    let page := status (afterLogs (lastDbUpdateTime inputs) (loggedErrors inputs))
    ((server.serve config around request).isSome = true ↔
      page.utf8ByteSize < outputBufferSize) ∧
    ∀ response output_stream next,
      server.serve config around request = some (response, output_stream, next) →
        response =
          ⟨"200 OK", [("content-type", "text/html; charset=utf-8")], page⟩ ∧
        next.cacheServer = server.cacheServer ∧ next.ec = server.ec := by
  have hreply := @reply_of_asksStatus _ _ config around request server
    (valid_run config timeZone cacheServer inputs server hserver)
    ((asksStatus_iff request).mpr ⟨hget, hurl⟩)
  rw [ec_run cacheServer inputs server hserver] at hreply
  intro page
  constructor
  · rw [serve_isSome_iff, hreply]
    constructor
    · rintro ⟨reply, next, hsome, hfits⟩
      cases hsome
      exact hfits
    · exact fun hfits => ⟨_, _, rfl, hfits⟩
  · intro response output_stream next hserve
    obtain ⟨reply, hsome, rfl, -⟩ := exists_reply_of_serve hserve
    rw [hreply] at hsome
    cases hsome
    exact ⟨rfl, rfl, (ec_run cacheServer inputs server hserver).symm⟩

/-- Somebody whose address is in no table asks for the page. -/
def statusRequest : HttpRequest where
  peer := sampleAddress
  head := ⟨"GET /status/ HTTP/1.1\r\n".toList, [], ['\r', '\n']⟩
  header_map := ∅
  indexed := rfl
  url_nonempty := by decide +kernel
  post_parameters := .ok none

/-- The page shows the error and the time of the load to a client that is not authorized. -/
theorem status_response_of_refused :
    otherSurroundings.check sampleConfig statusRequest ≠ .ok () ∧
      ∃ response output_stream next,
        sampleServer.serve sampleConfig otherSurroundings statusRequest =
          some (response, output_stream, next) ∧
        response.body = status (afterLogs "dbTime: 12 ms" [sampleLog]) := by
  refine ⟨by decide +kernel, ?_⟩
  obtain ⟨hsome, hresponse⟩ := @status_response _ _ sampleConfig (fun _ => 0) .new sampleInputs
    sampleServer rfl otherSurroundings statusRequest (by decide +kernel) (by decide +kernel)
  have hfits : (status (afterLogs "dbTime: 12 ms" [sampleLog])).utf8ByteSize
      < outputBufferSize := by decide +kernel
  obtain ⟨⟨response, output_stream, next⟩, hserve⟩ := Option.isSome_iff_exists.mp (hsome.mpr hfits)
  obtain ⟨rfl, -⟩ := hresponse _ _ _ hserve
  exact ⟨_, output_stream, next, hserve, rfl⟩

end Server

end GdtCache
