import GdtCache.Lib.UnorderedMap
import GdtCache.Mysql.Connection

/-!
# Contacts

`mysql::Customer`: the two ways from an email to a customer id.
-/

namespace GdtCache.Mysql.Customer

open GdtCache.Lib

/-- `getAll` -/
def getAll (connection : Database) : Except Exception (UnorderedMap String ℤ) :=
  connection.contacts.map (fun contactsMap row => .ok (contactsMap.insertNew row.1 row.2)) ∅

/-- `getByEmail`; `0` stands for no customer. -/
def getByEmail (email : String) (connection : Database) : Except Exception ℤ := do
  if email.isEmpty then return 0
  let optional ← (connection.contactsByEmail email).readOptional
  match optional with
  | some value => return value
  | none => return 0

/-- The map holds the first row of every email. -/
theorem getAll_eq_ok_iff {connection : Database} {ids : UnorderedMap String ℤ} :
    getAll connection = .ok ids ↔
      UnorderedMap.insertAll ∅ connection.contacts.rows = ids ∧
        connection.contacts.failure = none :=
  ResultSet.map_pure_eq_ok_iff

/-- **First row wins.** -/
theorem lookup_of_getAll {connection : Database} {ids : UnorderedMap String ℤ}
    (h : getAll connection = .ok ids) (email : String) :
    ids.lookup email = (connection.contacts.rows.find? fun row => row.1 = email).map Prod.snd := by
  obtain ⟨rfl, -⟩ := getAll_eq_ok_iff.mp h
  rw [UnorderedMap.lookup_insertAll, Finmap.lookup_empty, Option.none_or]

end GdtCache.Mysql.Customer
