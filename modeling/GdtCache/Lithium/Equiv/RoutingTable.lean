import GdtCache.Lithium.RoutingTable

/-!
# What the routing table finds

The table is a map from routes, as lists of parts, to values: `lookup` reads it without the rules
for parameters and leaves, and `lookup_findOrCreate` is the law of a map.  `find` extends `lookup`:
what is registered is found (`find_of_lookup`), whatever else the table holds.
-/

namespace GdtCache.Lithium

/-! ### Parts -/

theorem nextPart_slash (r : List Char) :
    nextPart ('/' :: r) = (r.takeWhile (· ≠ '/'), r.dropWhile (· ≠ '/')) := by
  simp [nextPart, skipSlash]

theorem splitOn_slash (r : List Char) :
    r.splitOn '/' = r.takeWhile (· ≠ '/') ::
      (if r.dropWhile (· ≠ '/') = [] then [] else (r.dropWhile (· ≠ '/')).tail.splitOn '/') := by
  induction r with
  | nil => simp
  | cons c r ih =>
    by_cases hc : c = '/'
    · simp [hc, List.splitOn_cons_eq_if_modifyHead]
    · rw [List.splitOn_cons_eq_if_modifyHead, if_neg (by simpa using hc), ih]
      simp [hc]

theorem dropWhile_slash {r : List Char} (h : r.dropWhile (· ≠ '/') ≠ []) :
    r.dropWhile (· ≠ '/') = '/' :: (r.dropWhile (· ≠ '/')).tail := by
  have hhead : (r.dropWhile (· ≠ '/')).head h = '/' := by
    simpa using List.head_dropWhile_not (fun c => decide (c ≠ '/')) h
  calc r.dropWhile (· ≠ '/') = (r.dropWhile (· ≠ '/')).head h :: (r.dropWhile (· ≠ '/')).tail :=
        (List.cons_head_tail h).symm
    _ = _ := congrArg (· :: _) hhead

/-- A route that begins with a slash is cut at its slashes. -/
theorem parts_slash (r : List Char) : parts ('/' :: r) = r.splitOn '/' := by
  induction hn : r.length using Nat.strong_induction_on generalizing r with
  | _ n ih =>
    rw [parts, if_neg (by simp), nextPart_slash, splitOn_slash]
    refine congrArg _ ?_
    by_cases hrest : r.dropWhile (· ≠ '/') = []
    · rw [if_pos hrest, hrest, parts, if_pos rfl]
    · have hle := (List.dropWhile_suffix (fun c => decide (c ≠ '/')) (l := r)).length_le
      have heq := dropWhile_slash hrest
      have hlen := congrArg List.length heq
      rw [List.length_cons] at hlen
      rw [if_neg hrest, heq, List.tail_cons]
      exact ih _ (by omega) _ rfl

/-- Different routes have different parts. -/
theorem parts_slash_inj {r r' : List Char} (h : parts ('/' :: r) = parts ('/' :: r')) :
    r = r' := by
  rw [parts_slash, parts_slash] at h
  calc r = ['/'].intercalate (r.splitOn '/') := (List.intercalate_splitOn '/').symm
    _ = r' := by rw [h, List.intercalate_splitOn]

/-! ### The table as a map -/

namespace DrtNode

variable {V : Type}

/-- The child of that name. -/
def child (k : List Char) : DrtNode V → Option (DrtNode V)
  | node _ children_ => (children_.find? fun child => child.1 = k).map (·.2)

/-- The value at the end of a route. -/
def lookup : List (List Char) → DrtNode V → Option V
  | [], node v_ _ => v_
  | k :: r, t => (t.child k).bind (lookup r)

theorem find?_replace (children_ : List (List Char × DrtNode V)) (k j : List Char)
    (f : DrtNode V → DrtNode V) :
    ((children_.map fun child => if child.1 = k then (k, f child.2) else child).find? fun child =>
        child.1 = j) =
      (children_.find? fun child => child.1 = j).map fun child =>
        if child.1 = k then (k, f child.2) else child := by
  rw [List.find?_map]
  refine congrArg _ (congrArg (fun p => List.find? p children_) (funext fun child => ?_))
  by_cases hk : child.1 = k <;> simp [hk]

theorem child_findOrCreate (v : V) (k : List Char) (r : List (List Char)) (t : DrtNode V)
    (j : List Char) :
    (findOrCreate v (k :: r) t).child j =
      if j = k then some (findOrCreate v r ((t.child k).getD (node none []))) else t.child j := by
  obtain ⟨v_, children_⟩ := t
  have hany : (children_.any fun child => child.1 = k) =
      (children_.find? fun child => child.1 = k).isSome := by
    rw [Bool.eq_iff_iff, List.any_eq_true, List.find?_isSome]
  rw [findOrCreate, hany]
  cases hk : children_.find? fun child => child.1 = k with
  | some c =>
    have hck : c.1 = k := by simpa using List.find?_some hk
    rw [Option.isSome_some, if_pos rfl, child, child, find?_replace, hk, child]
    split_ifs with hj
    · rw [hj, hk]
      simp [hck]
    · cases hj' : children_.find? fun child => child.1 = j with
      | none => rfl
      | some d =>
        have hdj : d.1 = j := by simpa using List.find?_some hj'
        simp [hdj, hj]
  | none =>
    rw [Option.isSome_none, if_neg Bool.false_ne_true, child, child, List.find?_append, hk, child]
    split_ifs with hj
    · simp [hj, hk]
    · have hkj : ¬ k = j := fun h => hj h.symm
      simp [hkj]

/-- Registering a route changes the value of this route, and of no other. -/
theorem lookup_findOrCreate (v : V) :
    ∀ (r : List (List Char)) (t : DrtNode V) (r' : List (List Char)),
      (findOrCreate v r t).lookup r' = if r' = r then some v else t.lookup r' := by
  intro r
  induction r with
  | nil =>
    rintro ⟨v_, children_⟩ r'
    cases r' with
    | nil => simp [findOrCreate, lookup]
    | cons j r' => simp [findOrCreate, lookup, child]
  | cons k r ih =>
    intro t r'
    cases r' with
    | nil =>
      obtain ⟨v_, children_⟩ := t
      rw [if_neg (by simp), findOrCreate]
      split_ifs <;> rfl
    | cons j r' =>
      rw [lookup, child_findOrCreate, lookup]
      by_cases hj : j = k
      · rw [if_pos hj, Option.bind_some, ih, hj]
        by_cases hr : r' = r
        · rw [if_pos hr, if_pos (by rw [hr])]
        · rw [if_neg hr, if_neg (by simpa using hr)]
          cases t.child k with
          | none => cases r' <;> rfl
          | some c => rfl
      · rw [if_neg hj, if_neg (by simp [hj])]

/-- What the table holds for a route is found, whatever else it holds. -/
theorem find_of_lookup {v : V} :
    ∀ {r : List (List Char)} {t : DrtNode V}, t.lookup r = some v → t.find r = some (some v) := by
  intro r
  induction r with
  | nil =>
    rintro ⟨v_, children_⟩ h
    have hv : v_ = some v := h
    simp [find, hv]
  | cons k r ih =>
    rintro ⟨v_, children_⟩ h
    obtain ⟨t, ht, htv⟩ := Option.bind_eq_some_iff.mp h
    obtain ⟨c, hc, rfl⟩ := Option.map_eq_some_iff.mp ht
    have hne : children_.isEmpty = false := by
      cases children_ with
      | nil => simp at hc
      | cons _ _ => rfl
    rw [find, hne, if_neg Bool.false_ne_true, hc, Option.bind_some, ih htv, Option.some_or]

end DrtNode

end GdtCache.Lithium
