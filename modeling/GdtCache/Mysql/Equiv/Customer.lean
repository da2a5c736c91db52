import GdtCache.Mysql.Customer
import GdtCache.Utils.StringUtils

/-!
# Two ways from an email to a customer

Both ways take the first contact that fits, but they look for different ones: the map of `getAll`
for the first contact whose normalised email *is* the email, `getByEmail` for the first one whose
email, as it stands in the table, *matches* it as a pattern (`isFoundByEmail`).  The two agree
exactly when these belong to the same customer (`agrees_answer_iff`).
-/

namespace GdtCache.Mysql.Customer

open GdtCache.Lib

/-- The contacts `getByEmail` can find, by their email. -/
def isFoundByEmail (collation : Sql.Collation) (email contact : String) : Bool :=
  !email.isEmpty && Sql.like collation contact (normalised collation email)

/-- The contacts the map of `getAll` can hold under a key, by their email. -/
def isFiledUnder (collation : Sql.Collation) (email contact : String) : Bool :=
  normalised collation contact = email

/-- `getByEmail` reports what the map of `getAll` holds: the same customer, and `0` exactly for no
customer. -/
def Agrees (connection : Database) (email : String) : Prop :=
  ∃ ids id, getAll connection = .ok ids ∧ getByEmail email connection = .ok id ∧
    (∀ customerId, ids.lookup email = some customerId → id = customerId) ∧
    (id = 0 ↔ ids.lookup email = none)

/-! ### Which row is found -/

variable (collation : Sql.Collation) (tables : Tables)

theorem getAll_answer :
    getAll (tables.answer collation)
      = .ok (UnorderedMap.insertAll ∅ (tables.answer collation).contacts.rows) :=
  getAll_eq_ok_iff.mpr ⟨rfl, rfl⟩

theorem lookup_getAll_answer (email : String) :
    (UnorderedMap.insertAll ∅ (tables.answer collation).contacts.rows).lookup email
      = (tables.contacts.find? fun row => isFiledUnder collation email row.email).map
          ContactRow.customer_id := by
  have hrows : (tables.answer collation).contacts.rows
      = tables.contacts.map fun row => (normalised collation row.email, row.customer_id) := rfl
  rw [lookup_of_getAll (getAll_answer collation tables), hrows, List.find?_map, Option.map_map]
  simp only [Function.comp_def, isFiledUnder]

theorem getByEmail_answer (email : String) :
    getByEmail email (tables.answer collation)
      = .ok (((tables.contacts.find? fun row => isFoundByEmail collation email row.email).map
          ContactRow.customer_id).getD 0) := by
  unfold getByEmail isFoundByEmail
  by_cases hempty : email.isEmpty = true
  · -- the empty email is not looked up
    have hnone : (tables.contacts.find? fun _ => false) = none := by simp
    simp [hempty, hnone, pure, Except.pure]
  · have hrows : ((tables.answer collation).contactsByEmail email).rows
        = (tables.contacts.filter fun row =>
            Sql.like collation row.email (normalised collation email)).map
              ContactRow.customer_id := rfl
    have hfailure : ((tables.answer collation).contactsByEmail email).failure = none := rfl
    simp only [hempty, Bool.not_false, Bool.true_and]
    rw [← List.head?_filter, ← List.head?_map, ← hrows]
    unfold ResultSet.readOptional
    rw [hfailure]
    cases ((tables.answer collation).contactsByEmail email).rows <;> rfl

/-- With customers that are not `0`, the two agree when they find the same customer. -/
theorem agrees_answer_iff (hids : ∀ row ∈ tables.contacts, row.customer_id ≠ 0) (email : String) :
    Agrees (tables.answer collation) email ↔
      (tables.contacts.find? fun row => isFoundByEmail collation email row.email).map
          ContactRow.customer_id
        = (tables.contacts.find? fun row => isFiledUnder collation email row.email).map
          ContactRow.customer_id := by
  have hne : ∀ p : ContactRow → Bool, ∀ id,
      (tables.contacts.find? p).map ContactRow.customer_id = some id → id ≠ 0 := by
    intro p id h
    obtain ⟨row, hrow, rfl⟩ := Option.map_eq_some_iff.mp h
    exact hids row (List.mem_of_find?_eq_some hrow)
  unfold Agrees
  rw [getAll_answer, getByEmail_answer]
  simp only [Except.ok.injEq, exists_and_left, exists_eq_left', lookup_getAll_answer]
  generalize hfound : (tables.contacts.find? fun row =>
    isFoundByEmail collation email row.email).map ContactRow.customer_id = found
  generalize hfiled : (tables.contacts.find? fun row =>
    isFiledUnder collation email row.email).map ContactRow.customer_id = filed
  -- a customer that is found is not `0`, so `0` stands for none on both sides
  cases found with
  | none =>
    cases filed with
    | none => simp
    | some c => simp [hne _ _ hfiled, eq_comm]
  | some id =>
    cases filed with
    | none => simp [hne _ _ hfound]
    | some c => simp [hne _ _ hfound, eq_comm]

end GdtCache.Mysql.Customer
