import Mathlib.Data.List.TakeWhile

/-!
# Lithium's routing table

`internal::drt_node` and `dynamic_routing_table`: a tree whose edges are named by the parts of the
routes between two slashes.  A part `{{name}}` of a route stands for any part of a request.

The source goes through a route by a position and cuts off a part for every node on the way.  Where
it cuts does not depend on the nodes, so here the route comes in its parts (`parts`).  The children
of a node are in the order in which the container enumerates them, here the one in which they were
added.
-/

namespace GdtCache.Lithium

/-! ### The parts of a route -/

/-- `if (r[c] == '/') c++` -/
def skipSlash (r : List Char) : List Char :=
  if r.head? = some '/' then r.tail else r

/-- The part up to the next slash, and what is left. -/
def nextPart (r : List Char) : List Char × List Char :=
  ((skipSlash r).takeWhile (· ≠ '/'), (skipSlash r).dropWhile (· ≠ '/'))

theorem skipSlash_of_ne {c : Char} (hc : c ≠ '/') (r : List Char) : skipSlash (c :: r) = c :: r :=
  if_neg (by simpa using hc)

theorem length_nextPart_lt {r : List Char} (h : r ≠ []) : (nextPart r).2.length < r.length := by
  obtain ⟨c, r, rfl⟩ := List.exists_cons_of_ne_nil h
  have hle := (List.dropWhile_suffix (fun d => decide (d ≠ '/')) (l := r)).length_le
  by_cases hc : c = '/'
  · rw [hc]
    show (r.dropWhile _).length < _
    rw [List.length_cons]
    omega
  · have hnext : (nextPart (c :: r)).2 = r.dropWhile fun d => decide (d ≠ '/') := by
      simp [nextPart, skipSlash_of_ne hc, hc]
    rw [hnext, List.length_cons]
    omega

/-- The parts of a route. -/
def parts (r : List Char) : List (List Char) :=
  if r = [] then [] else (nextPart r).1 :: parts (nextPart r).2
termination_by r.length
decreasing_by exact length_nextPart_lt ‹_›

/-! ### The tree -/

/-- `internal::drt_node`; without a `v_`, there is no handler. -/
inductive DrtNode (V : Type) where
  | node (v_ : Option V) (children_ : List (List Char × DrtNode V))

/-- `{{name}}` -/
def isParameter (name : List Char) : Bool :=
  4 < name.length && name[0]? = some '{' && name[1]? = some '{'
    && name[name.length - 2]? = some '}' && name[name.length - 1]? = some '}'

namespace DrtNode

variable {V : Type}

/-- `find_or_create(r, c) = v` -/
def findOrCreate (v : V) : List (List Char) → DrtNode V → DrtNode V
  | [], node _ children_ => node (some v) children_
  | k :: r, node v_ children_ =>
    if children_.any fun child => child.1 = k then
      node v_ (children_.map fun child =>
        if child.1 = k then (k, findOrCreate v r child.2) else child)
    else node v_ (children_ ++ [(k, findOrCreate v r (node none []))])

/-- `find(r, c)`, with `none` for `end()`.  A node without children is found by whatever is left. -/
def find : List (List Char) → DrtNode V → Option (Option V)
  | [], node v_ children_ => if v_.isSome ∨ children_.isEmpty then some v_ else none
  | k :: r, node v_ children_ =>
    if children_.isEmpty then some v_
    else
      -- a child of that name first, and if it leads nowhere, the first child that is a parameter
      ((children_.find? fun child => child.1 = k).bind fun child => find r child.2).or
        ((children_.find? fun child => isParameter child.1).bind fun child => find r child.2)

end DrtNode

end GdtCache.Lithium
