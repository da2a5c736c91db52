import GdtCache.CacheServer.Equiv.LoadFromDb
import GdtCache.CacheServer.Equiv.ReloadGdtEntry
import GdtCache.CacheServer.Run
import GdtCache.View.Equiv.Size
import GdtCache.View.Equiv.View

/-!
# Refreshes agree with the full load

While the database stays as it is, a refresh may add an empty list that the full load does not
make, and it replaces lists by newer copies.  What the cache *shows* stays the same: the emails
with their customers, and the account of every customer (`Shows`).  A load establishes it, a
refresh keeps it, and the responses depend on nothing else.
-/

namespace GdtCache.CacheServer

open GdtCache.Lib GdtCache.Model GdtCache.Mysql

variable {config : Config} {timeZone : TimeZone}

/-- The cache shows the database: its emails with their customers, and every customer's account. -/
structure Shows (timeZone : TimeZone) (connection : Database) (s : CacheServer) : Prop where
  owners : ∀ email, s.mEmailCustomerIds.lookup email = connection.owner email
  accounts : ∀ customerId,
    s.customerAccount customerId = connection.customerAccount timeZone customerId

/-- The database the refresh meets is the one `connection` was to the full load: an email has the
customer of the map of `getAll`, or none, and for a customer the server sends the rows of the other
query, in their order.  Nothing is said about queries that fail. -/
structure RefreshCall.MeetsSame (connection : Database) (call : RefreshCall) : Prop where
  email : ∀ ids id, Customer.getAll connection = .ok ids →
    Customer.getByEmail call.email call.connection = .ok id →
      id = (ids.lookup call.email).getD 0
  rows : ∀ customerId, (call.connection.gdtEntriesStatement customerId).sent.failure = none →
    (call.connection.gdtEntriesStatement customerId).sent.rows
      = (connection.gdtEntries.rows ++ connection.gdtEntries.lost).filter
          fun row => row.customer_id = customerId

/-- If the refresh is executed, the load over `connection` has lost no row of the customer it
finds, and the rows of this customer are intact. -/
def RefreshCall.MeetsIntact (config : Config) (connection : Database) (s : CacheServer)
    (call : RefreshCall) : Prop :=
  s.isFresh config call = false → ∀ customerId, customerId ≠ 0 →
    Customer.getByEmail call.email call.connection = .ok customerId →
      Mysql.GdtEntry.KeepsRows customerId connection ∧
        Intact (call.connection.gdtEntriesStatement customerId).sent.rows

/-- Then they arrive as the load has read them. -/
theorem RefreshCall.MeetsSame.received {connection : Database} {call : RefreshCall}
    (h : call.MeetsSame connection) {customerId : ℤ}
    (hkeeps : Mysql.GdtEntry.KeepsRows customerId connection)
    (hintact : Intact (call.connection.gdtEntriesStatement customerId).sent.rows)
    (hfailure : (call.connection.gdtEntriesByCustomer customerId).failure = none) :
    (call.connection.gdtEntriesByCustomer customerId).rows
      = connection.gdtEntries.rows.filter fun row => row.customer_id = customerId := by
  rw [Database.gdtEntriesByCustomer, StatementResult.received_of_intact hintact,
    h.rows customerId hfailure, hkeeps.filter_append]

/-- The account of every email follows from what is shown. -/
theorem Shows.account {connection : Database} {s : CacheServer}
    (h : Shows timeZone connection s) (email : String) :
    s.account email = connection.account timeZone email := by
  rw [account_eq, h.owners, Database.account]
  cases connection.owner email with
  | none => rfl
  | some customerId => exact h.accounts customerId

/-- A customer that a refresh finds owned the email before. -/
theorem RefreshCall.MeetsSame.owner {connection : Database} {call : RefreshCall}
    (h : call.MeetsSame connection) {ids : UnorderedMap String ℤ}
    (hids : Customer.getAll connection = .ok ids) {customerId : ℤ} (hne : customerId ≠ 0)
    (hid : Customer.getByEmail call.email call.connection = .ok customerId) :
    connection.owner call.email = some customerId := by
  have hlookup : ids.lookup call.email = connection.owner call.email :=
    Customer.lookup_of_getAll hids call.email
  have hgetD := h.email ids customerId hids hid
  rw [hlookup] at hgetD
  cases howner : connection.owner call.email with
  | none =>
    rw [howner] at hgetD
    exact absurd hgetD hne
  | some id =>
    rw [howner, Option.getD_some] at hgetD
    rw [hgetD]

/-- **Step.**  A refresh of the same database goes on showing it. -/
theorem Shows.reloadGdtEntry {connection : Database} {ids : UnorderedMap String ℤ}
    {s : CacheServer} {call : RefreshCall} (hids : Customer.getAll connection = .ok ids)
    (hcall : call.MeetsSame connection) (hintact : call.MeetsIntact config connection s)
    (h : Shows timeZone connection s) :
    Shows timeZone connection (s.reloadGdtEntry config timeZone call).2 := by
  -- the email is mapped to the customer it was mapped to before
  have howners : ∀ customerId, customerId ≠ 0 →
      Customer.getByEmail call.email call.connection = .ok customerId → ∀ email,
        (s.mEmailCustomerIds.assign call.email customerId).lookup email
          = connection.owner email := by
    intro customerId hne hid email
    rw [UnorderedMap.lookup_assign]
    split_ifs with hemail
    · rw [hemail, hcall.owner hids hne hid]
    · exact h.owners email
  rcases reloadGdtEntry_cases config timeZone call s with
      ⟨-, heq⟩ | ⟨ex, -, heq⟩ | ⟨-, heq⟩ | ⟨id, ex, hne, hid, -, heq⟩ |
      ⟨id, list, hne, hid, hlist, heq⟩
  · rwa [heq]
  · rwa [heq]
  · rwa [heq]
  · rw [heq]
    exact ⟨howners id hne hid, h.accounts⟩
  · have hfresh : s.isFresh config call = false := by
      rw [← Bool.not_eq_true]
      intro hfresh
      have hskipped : s.reloadGdtEntry config timeZone call = (.SKIPPED, s) := if_pos hfresh
      rw [heq] at hskipped
      cases hskipped
    rw [heq]
    refine ⟨howners id hne hid, fun customerId => ?_⟩
    obtain ⟨hkeeps, hrows⟩ := hintact hfresh id hne hid
    obtain ⟨hfill, hfailure⟩ := Mysql.GdtEntry.getByCustomer_eq_ok_iff.mp hlist
    show Account.ofPtr ((s.mGdtEntriesByEmails.assign id list).lookup customerId).join = _
    rw [UnorderedMap.lookup_assign]
    split_ifs with hcustomer
    · -- the new list holds the customer's rows
      have hrows := hcall.received hkeeps hrows hfailure
      rw [hcustomer, Database.customerAccount, ← hrows, ← hfill]
      exact Account.ofList_fill timeZone call.clock call.clock.created _
    · exact h.accounts customerId

/-- The refresh meets intact rows; nothing is said about other calls. -/
def Action.MeetsIntact (config : Config) (connection : Database) (s : CacheServer) :
    Action → Prop
  | .reloadGdtEntry call => call.MeetsIntact config connection s
  | _ => True

theorem Shows.run {connection : Database} {ids : UnorderedMap String ℤ}
    (hids : Customer.getAll connection = .ok ids) (calls : List RefreshCall) :
    ∀ s, Shows timeZone connection s → (∀ call ∈ calls, call.MeetsSame connection) →
      (machine config timeZone).Always (Action.MeetsIntact config connection) s
        (calls.map .reloadGdtEntry) →
        Shows timeZone connection
          ((machine config timeZone).run s (calls.map .reloadGdtEntry)) := by
  induction calls with
  | nil => exact fun s h _ _ => h
  | cons call calls ih =>
    intro s h hcalls hintact
    obtain ⟨hcall, hrest⟩ := List.forall_mem_cons.mp hcalls
    exact ih _ (h.reloadGdtEntry hids hcall hintact.1) hrest hintact.2

end GdtCache.CacheServer
