import GdtCache.Lithium.Equiv.Api
import GdtCache.Lithium.Equiv.Request
import GdtCache.Main.Routes

/-!
# Which handler is called

`target` says which entry of the table of `main` a url leads to, by the parts between its slashes
(`find_api`), and `outputs_calls_api` that every call of a run ends there.  The first handler of
`/sumPerEmailApi` is never called: the one for `POST` takes its place.
-/

namespace GdtCache

open GdtCache.Lithium GdtCache.Lithium.Api

/-! ### The table -/

/-- An entry of the table. -/
def entry (verb : Verb) (url_spec : String) (handler : Handler) : VH Handler :=
  ⟨verb, handler, url_spec⟩

/-- The entry for a url of `/listPerEmailApi` with these parameters; behind the last one, anything
may follow. -/
def listTarget : List (List Char) → VH Handler
  | [] => entry .GET "/listPerEmailApi" .listParameterError
  | [_] => entry .GET "/listPerEmailApi/{{email}}" .listEmail
  | [_, _] => entry .GET "/listPerEmailApi/{{email}}/{{page}}" .listPage
  | [_, _, _] => entry .GET "/listPerEmailApi/{{email}}/{{page}}/{{count}}" .listCount
  | _ :: _ :: _ :: _ :: _ =>
    entry .GET "/listPerEmailApi/{{email}}/{{page}}/{{count}}/{{orderDirection}}"
      .listOrderDirection

/-- The entry for a url of `/sumPerEmailApi`. -/
def sumTarget : List (List Char) → VH Handler
  | [] => entry .POST "/sumPerEmailApi" .sumPost
  | _ :: _ => entry .GET "/sumPerEmailApi/{{email}}" .sumEmail

/-- The entry for a url that is cut into these parts.  Behind `status`, anything may follow. -/
def target : List (List Char) → Option (VH Handler)
  | [] => none
  | name :: params =>
    if name = "status".toList then some (entry .GET "/status" .status)
    else if name = "listPerEmailApi".toList then some (listTarget params)
    else if name = "sumPerEmailApi".toList then some (sumTarget params)
    else none

theorem target_list (params : List (List Char)) :
    target ("listPerEmailApi".toList :: params) = some (listTarget params) := by
  have hstatus : ¬ "listPerEmailApi".toList = "status".toList := by decide
  rw [target, if_neg hstatus, if_pos rfl]

theorem target_sum (params : List (List Char)) :
    target ("sumPerEmailApi".toList :: params) = some (sumTarget params) := by
  have hstatus : ¬ "sumPerEmailApi".toList = "status".toList := by decide
  have hlist : ¬ "sumPerEmailApi".toList = "listPerEmailApi".toList := by decide
  rw [target, if_neg hstatus, if_neg hlist, if_pos rfl]

/-- A node without children. -/
def leaf (vh : VH Handler) : DrtNode (VH Handler) :=
  .node (some vh) []

/-- A node with one child, a parameter. -/
def branch (vh : VH Handler) (name : String) (child : DrtNode (VH Handler)) :
    DrtNode (VH Handler) :=
  .node (some vh) [(name.toList, child)]

/-- The nodes of `/listPerEmailApi`. -/
def listNode : DrtNode (VH Handler) :=
  branch (entry .GET "/listPerEmailApi" .listParameterError) "{{email}}"
    (branch (entry .GET "/listPerEmailApi/{{email}}" .listEmail) "{{page}}"
      (branch (entry .GET "/listPerEmailApi/{{email}}/{{page}}" .listPage) "{{count}}"
        (branch (entry .GET "/listPerEmailApi/{{email}}/{{page}}/{{count}}" .listCount)
          "{{orderDirection}}"
          (leaf (entry .GET "/listPerEmailApi/{{email}}/{{page}}/{{count}}/{{orderDirection}}"
            .listOrderDirection)))))

/-- The nodes of `/sumPerEmailApi`. -/
def sumNode : DrtNode (VH Handler) :=
  branch (entry .POST "/sumPerEmailApi" .sumPost) "{{email}}"
    (leaf (entry .GET "/sumPerEmailApi/{{email}}" .sumEmail))

/-- The parts of the routes. -/
theorem parts_routes :
    parts "/status".toList = ["status".toList] ∧
    parts "/listPerEmailApi".toList = ["listPerEmailApi".toList] ∧
    parts "/listPerEmailApi/{{email}}".toList =
      ["listPerEmailApi".toList, "{{email}}".toList] ∧
    parts "/listPerEmailApi/{{email}}/{{page}}".toList =
      ["listPerEmailApi".toList, "{{email}}".toList, "{{page}}".toList] ∧
    parts "/listPerEmailApi/{{email}}/{{page}}/{{count}}".toList =
      ["listPerEmailApi".toList, "{{email}}".toList, "{{page}}".toList, "{{count}}".toList] ∧
    parts "/listPerEmailApi/{{email}}/{{page}}/{{count}}/{{orderDirection}}".toList =
      ["listPerEmailApi".toList, "{{email}}".toList, "{{page}}".toList, "{{count}}".toList,
        "{{orderDirection}}".toList] ∧
    parts "/sumPerEmailApi".toList = ["sumPerEmailApi".toList] ∧
    parts "/sumPerEmailApi/{{email}}".toList = ["sumPerEmailApi".toList, "{{email}}".toList] := by
  refine ⟨?_, ?_, ?_, ?_, ?_, ?_, ?_, ?_⟩
  all_goals exact (parts_slash _).trans (by decide)

theorem routes_map_api :
    api.routes_map_ = .node none [("status".toList, leaf (entry .GET "/status" .status)),
      ("listPerEmailApi".toList, listNode), ("sumPerEmailApi".toList, sumNode)] := by
  obtain ⟨h0, h1, h2, h3, h4, h5, h6, h7⟩ := parts_routes
  simp only [api, Api.get, Api.post, Api.add, Api.new]
  rw [h0, h1, h2, h3, h4, h5, h6, h7]
  rfl

theorem find_leaf (vh : VH Handler) (r : List (List Char)) : (leaf vh).find r = some (some vh) := by
  cases r <;> rfl

theorem find_branch_nil (vh : VH Handler) (name : String) (child : DrtNode (VH Handler)) :
    (branch vh name child).find [] = some (some vh) :=
  rfl

theorem find_branch_cons (vh : VH Handler) {name : String} (h : isParameter name.toList = true)
    (child : DrtNode (VH Handler)) (k : List Char) (r : List (List Char)) :
    (branch vh name child).find (k :: r) = child.find r := by
  rw [branch, DrtNode.find, List.isEmpty_cons, if_neg Bool.false_ne_true]
  by_cases hk : name.toList = k
  · simp [hk ▸ h, hk]
  · simp [h, hk]

theorem find_listNode (params : List (List Char)) :
    listNode.find params = some (some (listTarget params)) := by
  have hemail : isParameter "{{email}}".toList = true := by decide
  have hpage : isParameter "{{page}}".toList = true := by decide
  have hcount : isParameter "{{count}}".toList = true := by decide
  have horder : isParameter "{{orderDirection}}".toList = true := by decide
  rw [listNode]
  rcases params with _ | ⟨email, _ | ⟨page, _ | ⟨count, _ | ⟨order, params⟩⟩⟩⟩
  · rw [find_branch_nil]
    rfl
  · rw [find_branch_cons _ hemail, find_branch_nil]
    rfl
  · rw [find_branch_cons _ hemail, find_branch_cons _ hpage, find_branch_nil]
    rfl
  · rw [find_branch_cons _ hemail, find_branch_cons _ hpage, find_branch_cons _ hcount,
      find_branch_nil]
    rfl
  · rw [find_branch_cons _ hemail, find_branch_cons _ hpage, find_branch_cons _ hcount,
      find_branch_cons _ horder, find_leaf]
    rfl

theorem find_sumNode (params : List (List Char)) :
    sumNode.find params = some (some (sumTarget params)) := by
  have hemail : isParameter "{{email}}".toList = true := by decide
  rw [sumNode]
  cases params with
  | nil =>
    rw [find_branch_nil]
    rfl
  | cons email params =>
    rw [find_branch_cons _ hemail, find_leaf]
    rfl

/-- A child of the root is found by its name. -/
theorem find_root {children_ : List (List Char × DrtNode (VH Handler))} (hne : children_ ≠ [])
    (h : ∀ child ∈ children_, isParameter child.1 = false) (k : List Char) (r : List (List Char)) :
    (DrtNode.node none children_).find (k :: r) =
      (children_.find? fun child => child.1 = k).bind fun child => child.2.find r := by
  have hparameter : (children_.find? fun child => isParameter child.1) = none := by
    rw [List.find?_eq_none]
    intro child hchild
    rw [h child hchild]
    exact Bool.false_ne_true
  have hempty : children_.isEmpty = false := by simpa using hne
  rw [DrtNode.find, hempty, if_neg Bool.false_ne_true, hparameter, Option.bind_none, Option.or_none]

theorem find?_child {a b c : List Char} (ta tb tc : DrtNode (VH Handler)) (k : List Char) :
    ([(a, ta), (b, tb), (c, tc)].find? fun child => child.1 = k) =
      if k = a then some (a, ta) else if k = b then some (b, tb) else if k = c then some (c, tc)
      else none := by
  split_ifs with ha hb hc
  · simp [ha]
  · have ha' : ¬ a = k := fun h => ha h.symm
    simp [ha', hb.symm]
  · have ha' : ¬ a = k := fun h => ha h.symm
    have hb' : ¬ b = k := fun h => hb h.symm
    simp [ha', hb', hc.symm]
  · have ha' : ¬ a = k := fun h => ha h.symm
    have hb' : ¬ b = k := fun h => hb h.symm
    have hc' : ¬ c = k := fun h => hc h.symm
    simp [ha', hb', hc']

/-- **The table of `main`.** -/
theorem find_api (p : List (List Char)) :
    GdtCache.api.routes_map_.find p = (target p).map some := by
  rw [routes_map_api]
  cases p with
  | nil => rfl
  | cons name params =>
    rw [find_root (by simp) (by decide), target, find?_child]
    split_ifs
    · exact find_leaf _ params
    · exact find_listNode params
    · exact find_sumNode params
    · rfl

/-! ### Calls -/

/-- Where a call ends: at an entry of the table, or with the status 404. -/
def routed (method url : String) : ℕ ⊕ Option (VH Handler) :=
  match target (parts (strip url).toList) with
  | none => .inl 404
  | some vh => if allows vh method then .inr (some vh) else .inl 404

theorem dispatch_api (method url : String) :
    outcome (GdtCache.api.dispatch method url) = routed method url := by
  rw [dispatch, find_api, routed]
  cases target (parts (strip url).toList) with
  | none => rfl
  | some vh =>
    rw [Option.map_some]
    dsimp only
    split_ifs
    · rfl
    · rfl

/-- **Which handler is called**: whatever was called before, a call ends where `target` says, and
with another verb, or at no entry, with 404. -/
theorem outputs_calls_api {requests : List (String × String)} (hroutes : ∀ c ∈ requests, c.2 ≠ "") :
    (calls.outputs GdtCache.api requests).map outcome = requests.map fun c => routed c.1 c.2 := by
  have hremembers : GdtCache.api.Remembers := remembers_of_empty rfl
  rw [outputs_dispatch hremembers hroutes]
  exact List.map_congr_left fun c _ => dispatch_api c.1 c.2

theorem outputs_calls_api_sum :
    (calls.outputs GdtCache.api [("GET", "/sumPerEmailApi"), ("GET", "/sumPerEmailApi")]).map
        outcome =
      [("GET", "/sumPerEmailApi"), ("GET", "/sumPerEmailApi")].map fun c => routed c.1 c.2 :=
  outputs_calls_api (by decide)

end GdtCache
