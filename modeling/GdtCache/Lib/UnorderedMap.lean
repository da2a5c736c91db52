import Mathlib.Data.Finmap

/-!
# Finite maps with the operations of `std::unordered_map`

`UnorderedMap κ ν` is Mathlib's `Finmap` at a constant family: a finite map compared by its
lookups, as an unordered container is.  `find` is `Finmap.lookup`; `insertNew` is `insert`,
which leaves an element that is already there alone; `assign` writes through an iterator.

Three loops over rows are read off once and for all:

* `lookup_insertAll`: inserting key-value rows one after another keeps the *first* row of each
  key;
* `lookup_assignAll`: assigning them keeps the *last* one;
* `lookup_foldl_accumulate`: creating a bucket on the first sight of a key and adding every row
  to the bucket of its key leaves under each key the fold of exactly its own rows, in order.
-/

namespace GdtCache.Lib

/-- A `std::unordered_map`: finitely many keys, one value each, no order. -/
abbrev UnorderedMap (κ ν : Type*) := Finmap fun _ : κ => ν

namespace UnorderedMap

variable {κ ν α : Type*} [DecidableEq κ]

/-- `m.insert({k, v})`: an element already stored under `k` stays. -/
def insertNew (m : UnorderedMap κ ν) (k : κ) (v : ν) : UnorderedMap κ ν :=
  match m.lookup k with
  | none => Finmap.insert k v m
  | some _ => m

/-- `it->second = v` for the iterator `it` at `k`. -/
def assign (m : UnorderedMap κ ν) (k : κ) (v : ν) : UnorderedMap κ ν :=
  Finmap.insert k v m

/-- `find`, then `insert` at `end()` and a write through the iterator otherwise. -/
def upsert (m : UnorderedMap κ ν) (k : κ) (v : ν) : UnorderedMap κ ν :=
  match m.lookup k with
  | none => m.insertNew k v
  | some _ => m.assign k v

@[simp] theorem lookup_assign (m : UnorderedMap κ ν) (k k' : κ) (v : ν) :
    (m.assign k v).lookup k' = if k' = k then some v else m.lookup k' := by
  unfold assign
  split_ifs with h
  · rw [h, Finmap.lookup_insert]
  · rw [Finmap.lookup_insert_of_ne _ h]

@[simp] theorem lookup_insertNew (m : UnorderedMap κ ν) (k k' : κ) (v : ν) :
    (m.insertNew k v).lookup k' = if k' = k then some ((m.lookup k).getD v) else m.lookup k' := by
  unfold insertNew
  split_ifs with hk
  · subst hk
    cases h : m.lookup k' with
    | none => simp [Finmap.lookup_insert]
    | some w => simp [h]
  · cases m.lookup k with
    | none => rw [Finmap.lookup_insert_of_ne _ hk]
    | some w => rfl

/-- Whichever branch is taken, the value ends up under the key. -/
theorem upsert_eq_assign (m : UnorderedMap κ ν) (k : κ) (v : ν) : m.upsert k v = m.assign k v := by
  unfold upsert
  cases h : m.lookup k with
  | none => simp [insertNew, assign, h]
  | some w => rfl

/-- Writing back what a key already holds changes nothing. -/
theorem assign_eq_self {m : UnorderedMap κ ν} {k : κ} {v : ν} (h : m.lookup k = some v) :
    m.assign k v = m := by
  apply Finmap.ext_lookup
  intro k'
  rw [lookup_assign]
  split_ifs with hk
  · rw [hk, h]
  · rfl

/-- An assignment leaves the map as it was exactly when the key held that value. -/
theorem assign_eq_self_iff (m : UnorderedMap κ ν) (k : κ) (v : ν) :
    m.assign k v = m ↔ m.lookup k = some v := by
  constructor
  · intro h
    rw [← h, lookup_assign, if_pos rfl]
  · exact assign_eq_self

/-! ### First row wins -/

/-- Insert key-value rows one after another. -/
def insertAll (m : UnorderedMap κ ν) (rows : List (κ × ν)) : UnorderedMap κ ν :=
  rows.foldl (fun m row => m.insertNew row.1 row.2) m

theorem lookup_insertAll (rows : List (κ × ν)) (m : UnorderedMap κ ν) (k : κ) :
    (m.insertAll rows).lookup k
      = (m.lookup k).or ((rows.find? fun row => row.1 = k).map Prod.snd) := by
  induction rows generalizing m with
  | nil => simp [insertAll]
  | cons row rows ih =>
    have hstep : m.insertAll (row :: rows) = (m.insertNew row.1 row.2).insertAll rows := rfl
    rw [hstep, ih, lookup_insertNew]
    by_cases hk : row.1 = k
    · -- the new row is only seen where the key was still free
      subst hk
      cases m.lookup row.1 <;> simp
    · have hk' : k ≠ row.1 := fun h => hk h.symm
      simp [hk, hk']

/-! ### Last row wins -/

/-- Assign key-value rows one after another. -/
def assignAll (m : UnorderedMap κ ν) (rows : List (κ × ν)) : UnorderedMap κ ν :=
  rows.foldl (fun m row => m.assign row.1 row.2) m

theorem lookup_assignAll (rows : List (κ × ν)) (m : UnorderedMap κ ν) (k : κ) :
    (m.assignAll rows).lookup k
      = ((rows.reverse.find? fun row => row.1 = k).map Prod.snd).or (m.lookup k) := by
  induction rows generalizing m with
  | nil => rfl
  | cons row rows ih =>
    have hstep : m.assignAll (row :: rows) = (m.assign row.1 row.2).assignAll rows := rfl
    rw [hstep, ih, lookup_assign, List.reverse_cons, List.find?_append]
    cases rows.reverse.find? fun row => row.1 = k with
    | some row' => rfl
    | none =>
      by_cases hk : row.1 = k
      · simp [hk]
      · have hk' : k ≠ row.1 := fun h => hk h.symm
        simp [hk, hk']

/-! ### Grouping -/

/-- One step of a grouping loop: the bucket of `key a`, created on first sight, takes `a`. -/
def accumulate (key : α → κ) (create : ν) (add : ν → α → ν) (m : UnorderedMap κ ν) (a : α) :
    UnorderedMap κ ν :=
  m.assign (key a) (add ((m.lookup (key a)).getD create) a)

/-- After the loop the bucket of `k` has taken exactly the rows with key `k`, in order. -/
theorem lookup_foldl_accumulate (key : α → κ) (create : ν) (add : ν → α → ν) (rows : List α)
    (m : UnorderedMap κ ν) (k : κ) :
    (rows.foldl (accumulate key create add) m).lookup k
      = if (rows.filter fun a => key a = k) = [] then m.lookup k
        else some ((rows.filter fun a => key a = k).foldl add ((m.lookup k).getD create)) := by
  induction rows generalizing m with
  | nil => simp
  | cons a rows ih =>
    rw [List.foldl_cons, ih, accumulate, lookup_assign]
    by_cases hk : key a = k
    · subst hk
      simp only [decide_true, List.filter_cons_of_pos, List.foldl_cons, reduceCtorEq, ↓reduceIte,
        Option.getD_some]
      split_ifs with hnil
      · rw [hnil, List.foldl_nil]
      · rfl
    · have hk' : k ≠ key a := fun h => hk h.symm
      rw [List.filter_cons_of_neg (by simpa using hk), if_neg hk']

end UnorderedMap

end GdtCache.Lib
