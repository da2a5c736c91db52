import GdtCache.Lib.Json
import GdtCache.Main.Equiv.Requests

/-!
# What an authorized client gets

A `Query` is what a client may ask for by `GET`, and `Query.url` how it writes it.  The table leads
to the handler of the query, and the handler reads the parameters back that were written, so the
client is answered with what the cache says to it, if the cache gets to say it and it fits into the
buffer of the connection (`serve_query`).

Nothing is decoded on the way: the email is the text of the url, without white space around it and
in lower case.
-/

namespace GdtCache

open GdtCache.AllowedIps GdtCache.CacheServer GdtCache.Lib GdtCache.Lithium GdtCache.Lithium.Api
  GdtCache.Logging GdtCache.Model GdtCache.View

/-! ### Parts of a url -/

/-- A text that can stand between two slashes of a url. -/
structure IsPart (text : List Char) : Prop where
  ne_nil : text ≠ []
  slash_notMem : '/' ∉ text
  space_notMem : ' ' ∉ text
  mark_notMem : '?' ∉ text

theorem isPart_toString (n : Int32) : IsPart (toString n.toInt).toList := by
  have hnumber := Json.isNumber_toString n.toInt
  obtain ⟨c, text, htext, -⟩ := hnumber.exists_cons
  refine ⟨by rw [htext]; exact List.cons_ne_nil c text, fun h => ?_, fun h => ?_, fun h => ?_⟩
  · exact absurd (hnumber.isNumberChar _ h) (by decide)
  · exact absurd (hnumber.isNumberChar _ h) (by decide)
  · exact absurd (hnumber.isNumberChar _ h) (by decide)

/-- A url with these parts, and with some slashes at its end. -/
def writeUrl (segments : List (List Char)) (slashes : ℕ) : List Char :=
  '/' :: (['/'].intercalate segments ++ List.replicate slashes '/')

theorem splitOn_segments {segments : List (List Char)} (hne : segments ≠ [])
    (h : ∀ segment ∈ segments, IsPart segment) :
    (['/'].intercalate segments).splitOn '/' = segments :=
  List.splitOn_intercalate '/' (fun segment hsegment => (h segment hsegment).slash_notMem) hne

/-- The parts are read back, whatever slashes follow them. -/
theorem getElem?_splitOn_writeUrl {segments : List (List Char)} (hne : segments ≠ [])
    (h : ∀ segment ∈ segments, IsPart segment) (slashes : ℕ) {i : ℕ} {segment : List Char}
    (hi : segments[i]? = some segment) :
    ((writeUrl segments slashes).splitOn '/')[i + 1]? = some segment := by
  have hhead : ∀ text : List Char, ('/' :: text).splitOn '/' = [] :: text.splitOn '/' :=
    fun text => List.splitOn_append_cons_self [] text
  have hlt : i < segments.length := (List.getElem?_eq_some_iff.mp hi).1
  rw [writeUrl, hhead, List.getElem?_cons_succ]
  cases slashes with
  | zero => rw [List.replicate_zero, List.append_nil, splitOn_segments hne h, hi]
  | succ slashes =>
    rw [List.replicate_succ, List.splitOn_append_cons_self, splitOn_segments hne h,
      List.getElem?_append_left hlt, hi]

/-- A text that is joined ends with its last part. -/
theorem exists_intercalate_eq_append {segments : List (List Char)} (hne : segments ≠ []) :
    ∃ before, ['/'].intercalate segments = before ++ segments.getLast hne := by
  induction segments with
  | nil => exact absurd rfl hne
  | cons segment segments ih =>
    cases segments with
    | nil => exact ⟨[], by simp⟩
    | cons segment' segments =>
      obtain ⟨before, hbefore⟩ := ih (List.cons_ne_nil segment' segments)
      refine ⟨segment ++ '/' :: before, ?_⟩
      rw [List.getLast_cons (List.cons_ne_nil segment' segments), List.append_assoc,
        List.cons_append, ← hbefore]
      simp [List.intercalate]

theorem stripEnd_slashes {c : Char} (hslash : c ≠ '/') (hspace : c ≠ ' ') (text : List Char) :
    ∀ slashes, stripEnd (List.replicate slashes '/' ++ c :: text) = c :: text := by
  intro slashes
  induction slashes with
  | zero =>
    rw [List.replicate_zero, List.nil_append]
    cases text with
    | nil => rfl
    | cons d text =>
      rw [stripEnd, if_neg]
      rintro (h | h)
      · exact hslash h
      · exact hspace h
  | succ slashes ih =>
    obtain ⟨d, rest, hrest⟩ : ∃ d rest,
        List.replicate slashes '/' ++ c :: text = d :: rest := by
      cases slashes with
      | zero => exact ⟨c, text, rfl⟩
      | succ slashes => exact ⟨'/', _, rfl⟩
    rw [List.replicate_succ, List.cons_append, hrest, stripEnd, if_pos (.inl rfl), ← hrest, ih]

/-- The slashes at the end are what is cut off. -/
theorem strip_writeUrl {segments : List (List Char)} (hne : segments ≠ [])
    (h : ∀ segment ∈ segments, IsPart segment) (slashes : ℕ) :
    strip (String.ofList (writeUrl segments slashes)) =
      String.ofList (writeUrl segments 0) := by
  obtain ⟨before, hbefore⟩ := exists_intercalate_eq_append hne
  have hlast := h _ (List.getLast_mem hne)
  obtain ⟨init, c, hc⟩ := (segments.getLast hne).eq_nil_or_concat.resolve_left hlast.ne_nil
  rw [List.concat_eq_append] at hc
  have hslash : c ≠ '/' := fun h => hlast.slash_notMem (by rw [hc]; simp [h])
  have hspace : c ≠ ' ' := fun h => hlast.space_notMem (by rw [hc]; simp [h])
  have hreverse : (writeUrl segments slashes).reverse =
      List.replicate slashes '/' ++ c :: ('/' :: (before ++ init)).reverse := by
    rw [writeUrl, hbefore, hc]
    simp
  rw [strip, String.toList_ofList, hreverse, stripEnd_slashes hslash hspace, writeUrl, hbefore, hc]
  refine congrArg String.ofList ?_
  simp

theorem parts_writeUrl {segments : List (List Char)} (hne : segments ≠ [])
    (h : ∀ segment ∈ segments, IsPart segment) (slashes : ℕ) :
    parts (strip (String.ofList (writeUrl segments slashes))).toList = segments := by
  rw [strip_writeUrl hne h, String.toList_ofList, writeUrl, parts_slash, List.replicate_zero,
    List.append_nil, splitOn_segments hne h]

theorem notMem_intercalate {c : Char} (hslash : c ≠ '/') {segments : List (List Char)}
    (h : ∀ segment ∈ segments, c ∉ segment) : c ∉ ['/'].intercalate segments := by
  induction segments with
  | nil => simp
  | cons segment segments ih =>
    have hsegment := h segment List.mem_cons_self
    have htail := ih fun segment' hmem => h segment' (List.mem_cons_of_mem segment hmem)
    cases segments with
    | nil => simpa using hsegment
    | cons segment' segments =>
      have hcons : ['/'].intercalate (segment :: segment' :: segments) =
          segment ++ '/' :: ['/'].intercalate (segment' :: segments) := by simp [List.intercalate]
      rw [hcons, List.mem_append, List.mem_cons]
      rintro (hmem | hmem | hmem)
      · exact hsegment hmem
      · exact hslash hmem
      · exact htail hmem

theorem notMem_writeUrl {c : Char} (hslash : c ≠ '/') {segments : List (List Char)}
    (h : ∀ segment ∈ segments, c ∉ segment) (slashes : ℕ) : c ∉ writeUrl segments slashes := by
  rw [writeUrl, List.mem_cons, List.mem_append, List.mem_replicate]
  rintro (hmem | hmem | hmem)
  · exact hslash hmem
  · exact notMem_intercalate hslash h hmem
  · exact hslash hmem.2

/-! ### Queries -/

/-- What a client may ask for. -/
inductive Query
  | list (email : String)
  | listPage (email : String) (page : Int32)
  | listCount (email : String) (page count : Int32)
  | listOrderDirection (email : String) (page count : Int32) (orderDirection : String)
  | sum (email : String)

namespace Query

/-- The parts of its url. -/
def segments : Query → List (List Char)
  | list email => ["listPerEmailApi".toList, email.toList]
  | listPage email page => ["listPerEmailApi".toList, email.toList, (toString page.toInt).toList]
  | listCount email page count =>
    ["listPerEmailApi".toList, email.toList, (toString page.toInt).toList,
      (toString count.toInt).toList]
  | listOrderDirection email page count orderDirection =>
    ["listPerEmailApi".toList, email.toList, (toString page.toInt).toList,
      (toString count.toInt).toList, orderDirection.toList]
  | sum email => ["sumPerEmailApi".toList, email.toList]

/-- What the cache is asked for. -/
def apiRequest : Query → ApiRequest
  | list email => .list (Handler.normalised email) 1 25 .ASC
  | listPage email page => .list (Handler.normalised email) page 25 .ASC
  | listCount email page count => .list (Handler.normalised email) page count .ASC
  | listOrderDirection email page count orderDirection =>
    .list (Handler.normalised email) page count (orderDirectionFromString orderDirection)
  | sum email => .sum (Handler.normalised email)

/-- Its texts can stand in a url. -/
def Plain : Query → Prop
  | list email | listPage email _ | listCount email _ _ | sum email => IsPart email.toList
  | listOrderDirection email _ _ orderDirection =>
    IsPart email.toList ∧ IsPart orderDirection.toList

/-- The entry of the table for it. -/
def vh : Query → VH Handler
  | list _ => entry .GET "/listPerEmailApi/{{email}}" .listEmail
  | listPage _ _ => entry .GET "/listPerEmailApi/{{email}}/{{page}}" .listPage
  | listCount _ _ _ => entry .GET "/listPerEmailApi/{{email}}/{{page}}/{{count}}" .listCount
  | listOrderDirection _ _ _ _ =>
    entry .GET "/listPerEmailApi/{{email}}/{{page}}/{{count}}/{{orderDirection}}"
      .listOrderDirection
  | sum _ => entry .GET "/sumPerEmailApi/{{email}}" .sumEmail

/-- The request asks for it: by `GET` and its url, behind which some slashes and a question mark
with anything may follow. -/
def SentBy (query : Query) (request : HttpRequest) : Prop :=
  ∃ slashes behindMark version, (behindMark = [] ∨ behindMark.head? = some '?') ∧
    ' ' ∉ behindMark ∧ version ≠ [] ∧ '\r' ∉ version ∧
      request.head.firstLine =
        writeFirstLine "GET".toList (writeUrl query.segments slashes ++ behindMark) version

theorem segments_ne_nil (query : Query) : query.segments ≠ [] := by
  cases query <;> exact List.cons_ne_nil _ _

theorem Plain.isPart {query : Query} (h : query.Plain) :
    ∀ segment ∈ query.segments, IsPart segment := by
  have hlist : IsPart "listPerEmailApi".toList := ⟨by decide, by decide, by decide, by decide⟩
  have hsum : IsPart "sumPerEmailApi".toList := ⟨by decide, by decide, by decide, by decide⟩
  cases query with
  | list email => simpa [segments] using ⟨hlist, h⟩
  | listPage email page => simpa [segments] using ⟨hlist, h, isPart_toString page⟩
  | listCount email page count =>
    simpa [segments] using ⟨hlist, h, isPart_toString page, isPart_toString count⟩
  | listOrderDirection email page count orderDirection =>
    simpa [segments] using ⟨hlist, h.1, isPart_toString page, isPart_toString count, h.2⟩
  | sum email => simpa [segments] using ⟨hsum, h⟩

/-- The first line of the request is read. -/
theorem SentBy.read {query : Query} {request : HttpRequest} (hsent : query.SentBy request)
    (h : query.Plain) : request.method = "GET" ∧
      ∃ slashes, request.url = String.ofList (writeUrl query.segments slashes) := by
  obtain ⟨slashes, behindMark, version, hmark, hspace, hversion, hversion', hline⟩ := hsent
  have hurl : writeUrl query.segments slashes ≠ [] := List.cons_ne_nil _ _
  have hurl' := notMem_writeUrl (c := ' ') (by decide)
    (fun segment hsegment => (h.isPart segment hsegment).space_notMem) slashes
  have hurl'' := notMem_writeUrl (c := '?') (by decide)
    (fun segment hsegment => (h.isPart segment hsegment).mark_notMem) slashes
  have hlength : (writeUrl query.segments slashes).length ≠ 1 := by
    obtain ⟨before, hbefore⟩ := exists_intercalate_eq_append query.segments_ne_nil
    have hlast := (h.isPart _ (List.getLast_mem query.segments_ne_nil)).ne_nil
    have hpos := List.length_pos_of_ne_nil hlast
    rw [writeUrl, hbefore, List.length_cons, List.length_append, List.length_append]
    omega
  have hread := parseFirstLine_write (show "GET".toList ≠ [] by decide) (by decide) hurl hurl'
    hurl'' hmark hspace hversion hversion' request.head.headerLines request.head.behind
  rw [← hline, if_neg fun h => hlength h.2] at hread
  exact ⟨congrArg Head.FirstLine.method_ hread, slashes, congrArg Head.FirstLine.url_ hread⟩

/-- The table leads to the entry for the query. -/
theorem SentBy.routed {query : Query} {request : HttpRequest} (hsent : query.SentBy request)
    (h : query.Plain) : routed request.method request.url = .inr (some query.vh) := by
  obtain ⟨hmethod, slashes, hurl⟩ := hsent.read h
  rw [GdtCache.routed, hurl, parts_writeUrl query.segments_ne_nil h.isPart, hmethod]
  have htarget : target query.segments = some query.vh := by
    cases query with
    | sum email => exact target_sum _
    | list email => exact target_list _
    | listPage email page => exact target_list _
    | listCount email page count => exact target_list _
    | listOrderDirection email page count orderDirection => exact target_list _
  have hverb : allows query.vh "GET" = true := by
    cases query <;> rfl
  rw [htarget]
  exact if_pos hverb

/-! ### Parameters -/

/-- The names of the parameters of the query. -/
def names : Query → List String
  | list _ | sum _ => ["email"]
  | listPage _ _ => ["email", "page"]
  | listCount _ _ _ => ["email", "page", "count"]
  | listOrderDirection _ _ _ _ => ["email", "page", "count", "orderDirection"]

/-- Parameters with these names, one after another from a slash on. -/
def fieldsFrom : ℕ → List String → List (List Char × UrlParserInfoNode)
  | _, [] => []
  | pos, name :: names => (name.toList, ⟨pos, false⟩) :: fieldsFrom (pos + 1) names

theorem makeUrlParserInfo_vh (query : Query) :
    (makeUrlParserInfo query.vh.url_spec).getD [] = fieldsFrom 1 query.names := by
  cases query with
  | list email =>
    show (makeUrlParserInfo "/listPerEmailApi/{{email}}").getD [] = fieldsFrom 1 ["email"]
    decide
  | listPage email page =>
    show (makeUrlParserInfo "/listPerEmailApi/{{email}}/{{page}}").getD [] =
      fieldsFrom 1 ["email", "page"]
    decide
  | listCount email page count =>
    show (makeUrlParserInfo "/listPerEmailApi/{{email}}/{{page}}/{{count}}").getD [] =
      fieldsFrom 1 ["email", "page", "count"]
    decide
  | listOrderDirection email page count orderDirection =>
    show (makeUrlParserInfo
        "/listPerEmailApi/{{email}}/{{page}}/{{count}}/{{orderDirection}}").getD [] =
      fieldsFrom 1 ["email", "page", "count", "orderDirection"]
    decide +kernel
  | sum email =>
    show (makeUrlParserInfo "/sumPerEmailApi/{{email}}").getD [] = fieldsFrom 1 ["email"]
    decide

variable {allowedHosts : List String} {Resolves : String → Address → Prop}

/-- Behind the check. -/
theorem handle_of_checked {config : Config} {around : Surroundings allowedHosts Resolves}
    {request : HttpRequest} (hcheck : around.check config request = .ok ())
    (fmt : List (List Char × UrlParserInfoNode)) {handler : Handler} (hstatus : handler ≠ .status)
    (hnoPost : handler ≠ .sumNoPost) (s : CacheServer) (ec : ContainerSingleton) :
    handler.handle config around request s ec fmt =
      handler.handleChecked config around request s fmt := by
  cases handler with
  | status => exact absurd rfl hstatus
  | sumNoPost => exact absurd rfl hnoPost
  | _ => simp only [Handler.handle, hcheck]

/-- A handler that has its parameters and may go on asks the cache. -/
theorem handle_of_listRequest {config : Config} {around : Surroundings allowedHosts Resolves}
    {request : HttpRequest} (hcheck : around.check config request = .ok ())
    {fmt : List (List Char × UrlParserInfoNode)} {handler : Handler} {apiRequest : ApiRequest}
    (h : handler.listRequest around.cast fmt request.url = some (.ok apiRequest))
    (s : CacheServer) (ec : ContainerSingleton) :
    handler.handle config around request s ec fmt = Handler.ask config around s apiRequest := by
  have hstatus : handler ≠ .status := by
    rintro rfl
    exact Option.some_ne_none _ h.symm
  have hnoPost : handler ≠ .sumNoPost := by
    rintro rfl
    exact Option.some_ne_none _ h.symm
  rw [handle_of_checked hcheck fmt hstatus hnoPost]
  simp only [Handler.handleChecked, h]

/-- The parts of a query are the parts of the url. -/
theorem SentBy.part {query : Query} {request : HttpRequest} (hsent : query.SentBy request)
    (h : query.Plain) {i : ℕ} {segment : List Char} (hi : query.segments[i]? = some segment) :
    (request.url.toList.splitOn '/')[i + 1]? = some segment := by
  obtain ⟨-, slashes, hurl⟩ := hsent.read h
  rw [hurl, String.toList_ofList]
  exact getElem?_splitOn_writeUrl query.segments_ne_nil h.isPart slashes hi

/-- Every query begins with its email. -/
theorem SentBy.email {query : Query} {request : HttpRequest} (hsent : query.SentBy request)
    (h : query.Plain) {email : String} {names : List String}
    (hi : query.segments[1]? = some email.toList) :
    urlString (fieldsFrom 1 ("email" :: names)) request.url "email" = .ok email :=
  urlString_eq 1 (by simp [fieldsFrom]) (hsent.part h hi)

/-- The handler asks the cache for the query. -/
theorem SentBy.answer {query : Query} {request : HttpRequest} (hsent : query.SentBy request)
    (h : query.Plain) {config : Config} {around : Surroundings allowedHosts Resolves}
    (hcheck : around.check config request = .ok ()) (server : Server) :
    Server.answer config around request server query.vh =
      Handler.ask config around server.cacheServer query.apiRequest := by
  rw [Server.answer, makeUrlParserInfo_vh]
  cases query with
  | list email =>
    refine handle_of_listRequest hcheck ?_ _ _
    show some _ = _
    rw [names, hsent.email h rfl]
    rfl
  | listPage email page =>
    have hpage : urlInt around.cast (fieldsFrom 1 ["email", "page"]) request.url "page"
        = .ok page :=
      urlInt_eq around.cast 2 (by decide) (hsent.part h rfl)
    refine handle_of_listRequest hcheck ?_ _ _
    show some _ = _
    rw [names, hsent.email h rfl, hpage]
    rfl
  | listCount email page count =>
    have hpage : urlInt around.cast (fieldsFrom 1 ["email", "page", "count"]) request.url "page" =
        .ok page := urlInt_eq around.cast 2 (by decide) (hsent.part h rfl)
    have hcount : urlInt around.cast (fieldsFrom 1 ["email", "page", "count"]) request.url "count" =
        .ok count := urlInt_eq around.cast 3 (by decide) (hsent.part h rfl)
    refine handle_of_listRequest hcheck ?_ _ _
    show some _ = _
    rw [names, hsent.email h rfl, hpage, hcount]
    rfl
  | listOrderDirection email page count orderDirection =>
    obtain ⟨fmt, hfmt⟩ : ∃ fmt, fmt = fieldsFrom 1 ["email", "page", "count", "orderDirection"] :=
      ⟨_, rfl⟩
    have hpage : urlInt around.cast fmt request.url "page" = .ok page :=
      urlInt_eq around.cast 2 (by rw [hfmt]; decide) (hsent.part h rfl)
    have hcount : urlInt around.cast fmt request.url "count" = .ok count :=
      urlInt_eq around.cast 3 (by rw [hfmt]; decide) (hsent.part h rfl)
    have horder : urlString fmt request.url "orderDirection" = .ok orderDirection :=
      urlString_eq 4 (by rw [hfmt]; decide) (hsent.part h rfl)
    refine handle_of_listRequest hcheck ?_ _ _
    show some _ = _
    rw [names, hsent.email h rfl, ← hfmt, hpage, hcount, horder]
    rfl
  | sum email =>
    have hne : email ≠ "" := by
      intro hempty
      exact h.ne_nil (by rw [hempty]; rfl)
    refine (handle_of_checked hcheck (fieldsFrom 1 ["email"])
      (show Handler.sumEmail ≠ .status by decide) (by decide) _ _).trans ?_
    show Handler.askSum config around server.cacheServer
      ((urlString (fieldsFrom 1 ["email"]) request.url "email").map some) = _
    rw [hsent.email h rfl]
    exact if_neg hne

/-- What the handler leaves behind if the cache answers. -/
def reply (config : Config) (around : Surroundings allowedHosts Resolves) (s : CacheServer)
    (query : Query) : Reply :=
  ⟨Handler.json, (s.serve config around.circumstances query.apiRequest).1.mapError .httpError⟩

/-- The cache is asked for the query. -/
theorem SentBy.reply_eq_some_iff {query : Query} {request : HttpRequest}
    (hsent : query.SentBy request) (h : query.Plain) {config : Config}
    {around : Surroundings allowedHosts Resolves} (hcheck : around.check config request = .ok ())
    {server : Server} (hvalid : server.Valid) {reply : Reply} {server' : Server} :
    server.reply config around request = some (reply, server') ↔
      (server.cacheServer.served config around.circumstances query.apiRequest).isSome = true ∧
        reply = query.reply config around server.cacheServer ∧
        server' = ⟨(server.api.call request.method request.url).2,
          (server.cacheServer.serve config around.circumstances query.apiRequest).2,
          server.ec⟩ := by
  rw [Server.reply_of_inr hvalid (hsent.routed h), hsent.answer h hcheck, Handler.ask]
  cases hserved : server.cacheServer.served config around.circumstances query.apiRequest with
  | none => simp
  | some answer =>
    obtain rfl := eq_of_served hserved
    simp only [Option.map_some, Option.some.injEq, Prod.mk.injEq, Option.isSome_some, true_and]
    exact ⟨fun h => ⟨h.1.symm, h.2.symm⟩, fun h => ⟨h.1.symm, h.2.symm⟩⟩

end Query

/-! ### Authorized requests -/

namespace Server

variable {allowedHosts : List String} {Resolves : String → Address → Prop}

/-- **Authorized clients get what the cache says to them**: after any run of the server, whatever
was requested before and however the cache has changed, a query is answered with what the cache
answers to it, for the email in lower case and without white space around it.  The answer comes if
no task has to be made for an email that is too short or too long for one, and if it fits into the
buffer of the connection. -/
theorem serve_query {config : Config} {timeZone : TimeZone} {cacheServer : CacheServer}
    {inputs : List (Input allowedHosts Resolves)} {server : Server}
    (hserver : (machine config timeZone).run (some (start cacheServer)) inputs = some server)
    {around : Surroundings allowedHosts Resolves} {request : HttpRequest}
    (hcheck : around.check config request = .ok ()) {query : Query} (hplain : query.Plain)
    (hsent : query.SentBy request) :
    ((server.serve config around request).isSome = true ↔
      (around.circumstances.locked = true →
        server.cacheServer.refreshDue config around.circumstances.now query.apiRequest.email
            = true →
          2 ≤ query.apiRequest.email.utf8ByteSize ∧
            query.apiRequest.email.utf8ByteSize ≤ 2 ^ 31 + 1) ∧
        (query.reply config around server.cacheServer).response.body.utf8ByteSize
          < outputBufferSize) ∧
    ∀ response output_stream next,
      server.serve config around request = some (response, output_stream, next) →
        response = (query.reply config around server.cacheServer).response ∧
        next.cacheServer =
          (server.cacheServer.serve config around.circumstances query.apiRequest).2 ∧
        output_stream.content = around.output_stream.content ++
          (around.parts (query.reply config around server.cacheServer)).text := by
  have hvalid := valid_run config timeZone cacheServer inputs server hserver
  have hreply := @Query.SentBy.reply_eq_some_iff _ _ _ _ hsent hplain _ _ hcheck _ hvalid
  constructor
  · rw [serve_isSome_iff, ← served_isSome_iff]
    constructor
    · rintro ⟨reply, next, hsome, hfits⟩
      obtain ⟨hserved, rfl, -⟩ := hreply.mp hsome
      exact ⟨hserved, hfits⟩
    · rintro ⟨hserved, hfits⟩
      exact ⟨_, _, hreply.mpr ⟨hserved, rfl, rfl⟩, hfits⟩
  · intro response output_stream next hserve
    obtain ⟨reply, hsome, rfl, hcontent⟩ := exists_reply_of_serve hserve
    obtain ⟨-, rfl, rfl⟩ := hreply.mp hsome
    exact ⟨rfl, rfl, hcontent⟩

/-! ### A request of a client -/

/-- The first page of Bob's list. -/
def sampleQuery : Query :=
  .listPage "Bob@example.org" 1

/-- The head of a request for it, from behind a proxy. -/
def sampleHead : Head where
  firstLine := writeFirstLine "GET".toList (writeUrl sampleQuery.segments 1 ++ [])
    "HTTP/1.1".toList
  headerLines := ["X-Forwarded-For: 192.0.2.7\r\n".toList]
  behind := ['\r', '\n']

def sampleRequest : HttpRequest where
  peer := sampleAddress
  head := sampleHead
  header_map := (∅ : Lib.UnorderedMap String String).assign "X-Forwarded-For" "192.0.2.7"
  indexed := rfl
  url_nonempty := by decide +kernel
  post_parameters := .ok none

theorem serve_query_bob :
    ∃ response output_stream next,
      sampleServer.serve sampleConfig sampleSurroundings sampleRequest =
        some (response, output_stream, next) ∧
      response =
        (sampleQuery.reply sampleConfig sampleSurroundings sampleServer.cacheServer).response := by
  have hquery := @serve_query _ _ sampleConfig (fun _ => 0) .new sampleInputs sampleServer rfl
    sampleSurroundings sampleRequest rfl sampleQuery
    ⟨by decide, by decide, by decide, by decide⟩
    ⟨1, [], "HTTP/1.1".toList, .inl rfl, by decide, by decide, by decide, rfl⟩
  have hfits : (sampleQuery.reply sampleConfig sampleSurroundings
      sampleServer.cacheServer).response.body.utf8ByteSize < outputBufferSize := by decide +kernel
  obtain ⟨⟨response, output_stream, next⟩, hserve⟩ := Option.isSome_iff_exists.mp
    (hquery.1.mpr ⟨fun _ _ => ⟨by decide, by decide⟩, hfits⟩)
  exact ⟨response, output_stream, next, hserve, (hquery.2 _ _ _ hserve).1⟩

end Server

end GdtCache
