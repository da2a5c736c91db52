import GdtCache.CacheServer.Account
import GdtCache.Mysql.Equiv.Customer

/-!
# The full load

`loadFromDb` runs two queries and assigns one map after each (`loadFromDb_cases`).  When both
succeed the cache holds, for every email, the account of the database (`loadFromDb_refines`).  When
the first one fails nothing has changed; when the second one does, the email map has
(`loadFromDb_error_iff`).
-/

namespace GdtCache.CacheServer

open GdtCache.Lib GdtCache.Model GdtCache.Mysql

variable {timeZone : TimeZone} {connection : Database} {clock : Mysql.GdtEntry.Clock}
  {s s' : CacheServer}

/-! ### What a load does -/

/-- A load stops after the first query, stops after the second, or assigns both maps. -/
theorem loadFromDb_cases (timeZone : TimeZone) (connection : Database)
    (clock : Mysql.GdtEntry.Clock) (s : CacheServer) :
    (∃ ex, Customer.getAll connection = .error ex ∧
      s.loadFromDb timeZone connection clock = (.error ex, s)) ∨
    (∃ ids ex, Customer.getAll connection = .ok ids ∧
      Mysql.GdtEntry.getAll timeZone clock connection = .error ex ∧
      s.loadFromDb timeZone connection clock = (.error ex, { s with mEmailCustomerIds := ids })) ∨
    (∃ ids lists, Customer.getAll connection = .ok ids ∧
      Mysql.GdtEntry.getAll timeZone clock connection = .ok lists ∧
      s.loadFromDb timeZone connection clock
        = (.ok (), { s with mEmailCustomerIds := ids, mGdtEntriesByEmails := lists })) := by
  unfold loadFromDb
  cases hcontacts : Customer.getAll connection with
  | error ex => exact .inl ⟨ex, rfl, rfl⟩
  | ok ids =>
    cases hentries : Mysql.GdtEntry.getAll timeZone clock connection with
    | error ex => exact .inr (.inl ⟨ids, ex, rfl, rfl, rfl⟩)
    | ok lists => exact .inr (.inr ⟨ids, lists, rfl, rfl, rfl⟩)

/-- A load that returns has assigned both maps. -/
theorem loadFromDb_eq_ok (h : s.loadFromDb timeZone connection clock = (.ok (), s')) :
    ∃ ids lists, Customer.getAll connection = .ok ids ∧
      Mysql.GdtEntry.getAll timeZone clock connection = .ok lists ∧
      s' = { s with mEmailCustomerIds := ids, mGdtEntriesByEmails := lists } := by
  rcases loadFromDb_cases timeZone connection clock s with
      ⟨ex, -, heq⟩ | ⟨ids, ex, -, -, heq⟩ | ⟨ids, lists, hids, hlists, heq⟩
  · rw [heq] at h; cases h
  · rw [heq] at h; cases h
  · rw [heq] at h
    cases h
    exact ⟨ids, lists, hids, hlists, rfl⟩

/-! ### A load that returns -/

/-- After a load a customer has the account of its rows. -/
theorem customerAccount_of_getAll {lists : EmailGdtEntriesListMap}
    (hlists : Mysql.GdtEntry.getAll timeZone clock connection = .ok lists)
    (hs : s.mGdtEntriesByEmails = lists) (customerId : ℤ) :
    s.customerAccount customerId = connection.customerAccount timeZone customerId := by
  unfold customerAccount Mysql.Database.customerAccount
  rw [hs, Mysql.GdtEntry.lookup_of_getAll hlists 0 customerId]
  split_ifs with hnil
  · -- no rows, no list
    rw [hnil, Account.ofRows_nil]
    rfl
  · exact Account.ofList_fill timeZone clock 0 _

/-- After a load an email has the account of the database. -/
theorem account_of_loadFromDb (h : s.loadFromDb timeZone connection clock = (.ok (), s'))
    (email : String) : s'.account email = connection.account timeZone email := by
  obtain ⟨ids, lists, hids, hlists, rfl⟩ := loadFromDb_eq_ok h
  -- both lookups of the handler are those of the two queries
  have howner : ids.lookup email = connection.owner email := Customer.lookup_of_getAll hids email
  rw [account_eq, howner, Mysql.Database.account]
  cases connection.owner email with
  | none => rfl
  | some customerId => exact customerAccount_of_getAll hlists rfl customerId

/-- **A load refines the database**: every request that follows is answered with the account the
tables hold for its email. -/
theorem loadFromDb_refines (collation : Sql.Collation) (tables : Tables)
    (h : s.loadFromDb timeZone (tables.answer collation) clock = (.ok (), s'))
    (config : Config) (c : Circumstances) (request : ApiRequest) :
    (s'.serve config c request).1
      = respond c request (tables.account collation timeZone request.email) := by
  have haccount := account_of_loadFromDb h request.email
  rw [serve_response, haccount, Tables.account_answer]

/-- A contact that is stored twice counts as it is stored first: the entries of customer `7` are
bob's, those of customer `8` nobody's. -/
theorem loadFromDb_refines_first_contact :
    let row (id customerId : ℤ) : GdtEntryRow :=
      ⟨id, 100, 1663160964, "bob@example.org", "", "", "", "", customerId, 1, 1, 0, 1, 100⟩
    let tables : Tables :=
      ⟨[⟨" Bob@example.org", 7⟩, ⟨"bob@example.org", 8⟩], [row 1 8, row 2 7, row 3 7]⟩
    let c : Circumstances := ⟨0, "0.1", by decide, true⟩
    ((new.loadFromDb (fun _ => 0) (tables.answer .ascii) ⟨0, fun _ => 0⟩).2.serve {} c
        (.list "bob@example.org" 1 25 .ASC)).1
      = respond c (.list "bob@example.org" 1 25 .ASC)
          (.ofRows (fun _ => 0) [row 2 7, row 3 7]) := by
  intro row tables c
  exact loadFromDb_refines .ascii tables (show new.loadFromDb (fun _ => 0) (tables.answer .ascii)
    ⟨0, fun _ => 0⟩ = (.ok (), _) from rfl) {} c (.list "bob@example.org" 1 25 .ASC)

/-! ### A load that throws -/

/-- **What a failed load leaves behind.**  The maps are as before if and only if the contacts
query failed or gave just what the cache holds. -/
theorem loadFromDb_error_iff {ex : Exception}
    (h : s.loadFromDb timeZone connection clock = (.error ex, s')) :
    (s'.mEmailCustomerIds = s.mEmailCustomerIds ∧
        s'.mGdtEntriesByEmails = s.mGdtEntriesByEmails) ↔
      connection.contacts.failure ≠ none ∨
        UnorderedMap.insertAll ∅ connection.contacts.rows = s.mEmailCustomerIds := by
  rcases loadFromDb_cases timeZone connection clock s with
      ⟨ex, hids, heq⟩ | ⟨ids, ex, hids, -, heq⟩ | ⟨ids, lists, -, -, heq⟩
  · -- the contacts query itself failed
    rw [heq] at h
    cases h
    have hfailure : connection.contacts.failure ≠ none := by
      intro hnone
      have hok := Customer.getAll_eq_ok_iff.mpr ⟨rfl, hnone⟩
      rw [hids] at hok
      cases hok
    simp [hfailure]
  · -- the email map is assigned already
    rw [heq] at h
    cases h
    obtain ⟨hrows, hnone⟩ := Customer.getAll_eq_ok_iff.mp hids
    simp [hrows, hnone]
  · rw [heq] at h
    cases h

/-- The new contacts stay when the entries cannot be read. -/
theorem loadFromDb_error_changes :
    ¬ ∀ (timeZone : TimeZone) (connection : Database) (clock : Mysql.GdtEntry.Clock)
      (s s' : CacheServer) (ex : Exception),
      s.loadFromDb timeZone connection clock = (.error ex, s') →
        s'.mEmailCustomerIds = s.mEmailCustomerIds ∧
          s'.mGdtEntriesByEmails = s.mGdtEntriesByEmails := by
  intro h
  have hsame := h (fun _ => 0)
    { Tables.answer .ascii ⟨[⟨"bob@example.org", 7⟩], []⟩ with
      gdtEntries :=
        { rows := []
          failure := some (.runtimeError "Lost connection to MySQL server during query") } }
    ⟨0, fun _ => 0⟩ new _ _ rfl
  have hlookup := congrArg (Finmap.lookup "bob@example.org") hsame.1
  exact absurd hlookup (by decide)

/-- Bob is cached with an entry, and is loaded once more: his contact is read, his entries are
not. -/
theorem loadFromDb_error_iff_of_same_contacts :
    let tables : Tables :=
      ⟨[⟨"bob@example.org", 7⟩],
        [⟨1, 100, 1663160964, "bob@example.org", "", "", "", "", 7, 1, 1, 0, 1, 100⟩]⟩
    let s := (new.loadFromDb (fun _ => 0) (tables.answer .ascii) ⟨0, fun _ => 0⟩).2
    let connection : Database :=
      { tables.answer .ascii with gdtEntries := { rows := [], failure := some .other } }
    let s' := (s.loadFromDb (fun _ => 0) connection ⟨20, fun _ => 20⟩).2
    s.mEmailCustomerIds.lookup "bob@example.org" = some 7 ∧
      s'.mEmailCustomerIds = s.mEmailCustomerIds ∧
      s'.mGdtEntriesByEmails = s.mGdtEntriesByEmails := by
  intro tables s connection s'
  have hthrows : s.loadFromDb (fun _ => 0) connection ⟨20, fun _ => 20⟩ = (.error .other, s') := rfl
  exact ⟨rfl, (loadFromDb_error_iff hthrows).mpr (.inr rfl)⟩

end GdtCache.CacheServer
