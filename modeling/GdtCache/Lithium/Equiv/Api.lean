import GdtCache.Lib.Machine
import GdtCache.Lithium.Api
import GdtCache.Lithium.Equiv.RoutingTable

/-!
# Calls of `api`

`call` remembers its last route across requests.  `Api.calls` makes it a machine, and the invariant
of its runs is that the remembered handler is the one the table has for the remembered route
(`Remembers`).

* So a call after any others does what it would do as the first one, up to how the route is
  spelled in the text of an error (`outputs_calls`).
* A registered route is called by its own text (`call_registered`).
-/

namespace GdtCache.Lithium.Api

open GdtCache.Lib

variable {H : Type}

/-! ### Without a memory -/

/-- What the table says about a call. -/
def dispatch (api : Api H) (method route : String) : Except HttpError (Option (VH H)) :=
  match api.routes_map_.find (parts (strip route).toList) with
  | none => .error (.notFound ("Route " ++ strip route ++ " does not exist."))
  | some none => .ok none
  | some (some vh) =>
    if allows vh method then .ok (some vh) else .error (notImplemented method (strip route))

/-- A call that remembers nothing. -/
theorem call_of_ne {api : Api H} {method route : String} (h : route ≠ api.last_called_route_) :
    (api.call method route).1 = api.dispatch method route := by
  rw [call, if_neg h, dispatch]
  cases api.routes_map_.find (parts (strip route).toList) with
  | none => rfl
  | some vh =>
    cases vh with
    | none => rfl
    | some vh => exact apply_ite Prod.fst _ _ _

/-! ### The memory -/

/-- The remembered handler is the table's, unless nothing is remembered. -/
def Remembers (api : Api H) : Prop :=
  api.last_called_route_ ≠ "" →
    api.routes_map_.find (parts (strip api.last_called_route_).toList) = some api.last_handler_

theorem routes_map_call (api : Api H) (method route : String) :
    (api.call method route).2.routes_map_ = api.routes_map_ := by
  unfold call
  repeat' split
  all_goals rfl

theorem Remembers.call {api : Api H} (h : api.Remembers) (method route : String) :
    (api.call method route).2.Remembers := by
  unfold Api.call
  split_ifs with hroute
  · split
    · exact h
    · split_ifs
      · exact h
      · exact h
  · split
    · exact h
    · rename_i hfind
      exact fun _ => hfind
    · rename_i vh hfind
      split_ifs
      · exact fun _ => hfind
      · exact h

/-- The text of an error for a route as it is written. -/
def spelled (method route : String) :
    Except HttpError (Option (VH H)) → Except HttpError (Option (VH H))
  | .error _ => .error (notImplemented method route)
  | .ok vh => .ok vh

/-- The remembered route is answered as the table says. -/
theorem Remembers.call_eq {api : Api H} (h : api.Remembers) {method route : String}
    (hroute : route ≠ "") :
    (api.call method route).1 =
      if route = api.last_called_route_ then spelled method route (api.dispatch method route)
      else api.dispatch method route := by
  split_ifs with hlast
  · have hfind := h (hlast ▸ hroute)
    rw [Api.call, if_pos hlast, dispatch, hlast, hfind]
    cases api.last_handler_ with
    | none => rfl
    | some vh =>
      dsimp only
      split_ifs
      · rfl
      · rfl
  · exact call_of_ne hlast

/-! ### Any number of calls -/

/-- The calls of `api` one after another, each with its method and its route. -/
def calls : Machine (Api H) (String × String) (Except HttpError (Option (VH H))) where
  next api c := (api.call c.1 c.2).2
  out api c := (api.call c.1 c.2).1

/-- The handler that is called, or the status of the error. -/
def outcome : Except HttpError (Option (VH H)) → ℕ ⊕ Option (VH H)
  | .error e => .inl e.status
  | .ok vh => .inr vh

theorem outcome_spelled {api : Api H} (method route : String) :
    outcome (spelled method route (api.dispatch method route)) =
      outcome (api.dispatch method route) := by
  unfold dispatch
  split
  · rfl
  · rfl
  · split_ifs
    · rfl
    · rfl

theorem outcome_call {api : Api H} (h : api.Remembers) {method route : String}
    (hroute : route ≠ "") :
    outcome (api.call method route).1 = outcome (api.dispatch method route) := by
  rw [h.call_eq hroute]
  split_ifs
  · exact outcome_spelled method route
  · rfl

/-- What is remembered stays right, and the table as it is. -/
theorem remembers_run {api : Api H} (h : api.Remembers) (before : List (String × String)) :
    (calls.run api before).Remembers ∧ (calls.run api before).routes_map_ = api.routes_map_ :=
  Machine.run_induction (I := fun s => s.Remembers ∧ s.routes_map_ = api.routes_map_) ⟨h, rfl⟩
    fun c _ s hs => ⟨hs.1.call c.1 c.2, (routes_map_call s c.1 c.2).trans hs.2⟩

theorem dispatch_congr {api api' : Api H} (h : api.routes_map_ = api'.routes_map_)
    (method route : String) : api.dispatch method route = api'.dispatch method route := by
  rw [dispatch, h, dispatch]

/-- After any calls, a call does what the table says. -/
theorem outcome_call_run {api : Api H} (h : api.Remembers) (before : List (String × String))
    {method route : String} (hroute : route ≠ "") :
    outcome ((calls.run api before).call method route).1 =
      outcome (api.dispatch method route) := by
  obtain ⟨hrun, htable⟩ := remembers_run h before
  rw [outcome_call hrun hroute, dispatch_congr htable]

theorem remembers_of_empty {api : Api H} (h : api.last_called_route_ = "") : api.Remembers :=
  fun hne => absurd h hne

theorem outputs_dispatch {api : Api H} (h : api.Remembers) {requests : List (String × String)}
    (hroutes : ∀ c ∈ requests, c.2 ≠ "") :
    (calls.outputs api requests).map outcome =
      requests.map fun c => outcome (api.dispatch c.1 c.2) := by
  induction requests using List.reverseRecOn with
  | nil => rfl
  | append_singleton requests c ih =>
    rw [Machine.outputs_append, List.map_append, List.map_append,
      ih fun d hd => hroutes d (by simp [hd])]
    have hc : c.2 ≠ "" := hroutes c (by simp)
    exact congrArg _ (congrArg (fun o => [o]) (outcome_call_run h requests hc))

/-- **The memory of `call` does not show**: in any sequence of calls, each calls the handler, or
throws with the status, that it would as the first call of all. -/
theorem outputs_calls {api : Api H} (h : api.last_called_route_ = "")
    {requests : List (String × String)} (hroutes : ∀ c ∈ requests, c.2 ≠ "") :
    (calls.outputs api requests).map outcome =
      requests.map fun c => outcome (api.call c.1 c.2).1 := by
  rw [outputs_dispatch (remembers_of_empty h) hroutes]
  refine List.map_congr_left fun c hc => ?_
  rw [outcome_call (remembers_of_empty h) (hroutes c hc)]

theorem outputs_calls_statusTwice :
    (calls.outputs (new.get "/status" 0) [("GET", "/status"), ("POST", "/status/")]).map outcome =
      [("GET", "/status"), ("POST", "/status/")].map fun c =>
        outcome ((new.get "/status" 0).call c.1 c.2).1 :=
  outputs_calls rfl (by decide)

/-! ### Registered routes -/

/-- The routes in the order in which they are registered. -/
def register (api : Api H) (routes : List (VH H)) : Api H :=
  routes.foldl (fun api vh => api.add vh.verb vh.url_spec vh.handler) api

theorem lookup_add (api : Api H) (vh : VH H) (r : List (List Char)) :
    (api.add vh.verb vh.url_spec vh.handler).routes_map_.lookup r =
      if r = parts vh.url_spec.toList then some vh else api.routes_map_.lookup r :=
  DrtNode.lookup_findOrCreate _ _ _ _

/-- A route is not lost when others are registered. -/
theorem lookup_register {r : List (List Char)} {routes : List (VH H)}
    (h : ∀ vh ∈ routes, parts vh.url_spec.toList ≠ r) (api : Api H) :
    (api.register routes).routes_map_.lookup r = api.routes_map_.lookup r :=
  List.foldlRecOn
    (motive := fun api' : Api H => api'.routes_map_.lookup r = api.routes_map_.lookup r)
    routes _ rfl fun api' hapi' vh hvh => by
      rw [lookup_add, if_neg fun hr => h vh hvh hr.symm, hapi']

theorem last_called_route_register (api : Api H) (routes : List (VH H)) :
    (api.register routes).last_called_route_ = api.last_called_route_ :=
  List.foldlRecOn
    (motive := fun api' : Api H => api'.last_called_route_ = api.last_called_route_)
    routes _ rfl fun _ hapi' _ _ => hapi'

theorem parts_ne_of_ne {r r' : String} (h : r.toList.head? = some '/')
    (h' : r'.toList.head? = some '/') (hne : r ≠ r') : parts r.toList ≠ parts r'.toList := by
  obtain ⟨l, hl⟩ := List.head?_eq_some_iff.mp h
  obtain ⟨l', hl'⟩ := List.head?_eq_some_iff.mp h'
  intro hparts
  rw [hl, hl'] at hparts
  exact hne (String.toList_inj.mp (by rw [hl, hl', parts_slash_inj hparts]))

/-- **Registered routes are called**: after any calls, a call with the text of a registered route
reaches the handler registered last for it, whatever else is registered before or after it, or ends
with 404 if the verb is another. -/
theorem call_registered {pre post : List (VH H)} {vh : VH H}
    (hslash : ∀ vh' ∈ pre ++ vh :: post, vh'.url_spec.toList.head? = some '/')
    (hlast : ∀ vh' ∈ post, vh'.url_spec ≠ vh.url_spec) (hstrip : strip vh.url_spec = vh.url_spec)
    (before : List (String × String)) (method : String) :
    outcome ((calls.run (new.register (pre ++ vh :: post)) before).call method vh.url_spec).1 =
      if allows vh method then .inr (some vh) else .inl 404 := by
  have hvh : vh.url_spec.toList.head? = some '/' := hslash vh (by simp)
  have hroute : vh.url_spec ≠ "" := by
    intro h
    simp [h] at hvh
  have hlookup : (new.register (pre ++ vh :: post)).routes_map_.lookup
      (parts vh.url_spec.toList) = some vh := by
    rw [register, List.foldl_append, List.foldl_cons]
    refine (lookup_register (fun vh' hvh' => ?_) _).trans ?_
    · exact parts_ne_of_ne (hslash vh' (by simp [hvh'])) hvh (hlast vh' hvh')
    · rw [lookup_add, if_pos rfl]
  rw [outcome_call_run (remembers_of_empty (last_called_route_register new _)) before hroute,
    dispatch, hstrip, DrtNode.find_of_lookup hlookup]
  dsimp only
  split_ifs
  · rfl
  · rfl

theorem call_registered_status :
    outcome ((calls.run (new.register ([] ++ ⟨.GET, 0, "/status"⟩ :: [⟨.GET, 1, "/sum"⟩]))
        [("GET", "/sum")]).call "GET" "/status").1 =
      if allows (H := ℕ) ⟨.GET, 0, "/status"⟩ "GET" then .inr (some ⟨.GET, 0, "/status"⟩)
      else .inl 404 :=
  call_registered (by decide) (by decide) (by decide) [("GET", "/sum")] "GET"

end GdtCache.Lithium.Api
