import GdtCache.Lithium.RoutingTable
import GdtCache.Utils.Exception

/-!
# Lithium's `api`

A table of routes with a verb and a handler each, and `call`, which finds the handler of a request.
`call` remembers the last route it found and its handler, and takes that handler at once if the next
request is for the same route.

A handler is a value of a type `H` here; what it does is modelled with the program.
-/

namespace GdtCache.Lithium

/-- `api`'s verbs. -/
inductive Verb
  | ANY
  | GET
  | POST
  | PUT
  | HTTP_DELETE
  deriving DecidableEq

/-- `api::VH` -/
structure VH (H : Type) where
  verb : Verb
  handler : H
  url_spec : String

/-- `api` -/
structure Api (H : Type) where
  routes_map_ : DrtNode (VH H)
  last_called_route_ : String
  /-- `none` until a route was found: its handler is empty then. -/
  last_handler_ : Option (VH H)

namespace Api

variable {H : Type}

/-- The constructor. -/
def new : Api H where
  routes_map_ := .node none []
  last_called_route_ := ""
  last_handler_ := none

/-- `api(verb, r) = handler` -/
def add (api : Api H) (verb : Verb) (r : String) (handler : H) : Api H :=
  { api with routes_map_ := api.routes_map_.findOrCreate ⟨verb, handler, r⟩ (parts r.toList) }

/-- `api.get(r) = handler` -/
def get (api : Api H) (r : String) (handler : H) : Api H :=
  api.add .GET r handler

/-- `api.post(r) = handler` -/
def post (api : Api H) (r : String) (handler : H) : Api H :=
  api.add .POST r handler

/-- `parse_verb` -/
def parseVerb (method : String) : Verb :=
  if method = "GET" then .GET
  else if method = "PUT" then .PUT
  else if method = "POST" then .POST
  else if method = "HTTP_DELETE" then .HTTP_DELETE
  else .ANY

/-- The test of the verb in `call`. -/
def allows (vh : VH H) (method : String) : Bool :=
  vh.verb = .ANY || parseVerb method = vh.verb

/-- A route without the slashes and spaces at its end, but not empty; from its end. -/
def stripEnd : List Char → List Char
  | c :: d :: route => if c = '/' ∨ c = ' ' then stripEnd (d :: route) else c :: d :: route
  | route => route

/-- `route2` -/
def strip (route : String) : String :=
  String.ofList (stripEnd route.toList.reverse).reverse

/-- The error for a route with another verb. -/
def notImplemented (method route : String) : HttpError :=
  .notFound ("Method " ++ method ++ " not implemented on route " ++ route)

/-- `call`, up to the call of the handler: which one is called, `none` for an empty one, or what is
thrown. -/
def call (api : Api H) (method route : String) : Except HttpError (Option (VH H)) × Api H :=
  if route = api.last_called_route_ then
    match api.last_handler_ with
    | none => (.ok none, api)
    | some vh =>
      if allows vh method then (.ok (some vh), api)
      else (.error (notImplemented method route), api)
  else
    match api.routes_map_.find (parts (strip route).toList) with
    | none => (.error (.notFound ("Route " ++ strip route ++ " does not exist.")), api)
    | some none => (.ok none, { api with last_called_route_ := route, last_handler_ := none })
    | some (some vh) =>
      if allows vh method then
        (.ok (some vh), { api with last_called_route_ := route, last_handler_ := some vh })
      else (.error (notImplemented method (strip route)), api)

end Api

end GdtCache.Lithium
