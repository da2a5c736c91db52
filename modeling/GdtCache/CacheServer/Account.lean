import GdtCache.CacheServer.Basic
import GdtCache.Mysql.Equiv.GdtEntry
import GdtCache.View.Equiv.GdtEntryList

/-!
# What the cache is for

To a client the cache answers one question: what is the account of this email?  An `Account` is a
number of entries, the entries and their sum; the account of some rows of the database is
`Account.ofRows`, and `Account.empty` that of nobody.

`CacheServer.account` is the account the cache holds for an email, and `respond` renders an account
as a request asks.  `serve_response` connects the two: the handlers respond with the account of the
email.  In particular it makes no difference whether an email is unknown, or its customer has no
list, or an empty one.
-/

namespace GdtCache

open GdtCache.Model GdtCache.Mysql GdtCache.View

/-- The account of an email. -/
@[ext] structure Account where
  count : ℤ
  entries : List GdtEntry
  sum : ℚ
  deriving DecidableEq

namespace Account

/-- The account of nobody. -/
def empty : Account :=
  ⟨0, [], 0⟩

/-- The account made of rows of the database: each row once, in their order. -/
def ofRows (timeZone : TimeZone) (rows : List GdtEntryRow) : Account where
  count := rows.length
  entries := rows.map (Mysql.GdtEntry.entry timeZone)
  sum := (rows.map fun row => row.gdt / 100).sum

@[simp] theorem ofRows_nil (timeZone : TimeZone) : ofRows timeZone [] = empty := rfl

/-- The account a list holds. -/
def ofList (l : GdtEntryList) : Account :=
  ⟨l.getTotalCount, l.getGdtEntries, l.getGdtSum⟩

/-- The account behind a pointer. -/
def ofPtr : GdtEntryListPtr → Account
  | none => empty
  | some l => ofList l

/-- A list filled with rows holds their account. -/
theorem ofList_fill (timeZone : TimeZone) (clock : Mysql.GdtEntry.Clock) (created : ℤ)
    (rows : List GdtEntryRow) :
    ofList (Mysql.GdtEntry.fill timeZone clock created rows) = ofRows timeZone rows := by
  have hbuilt := @Mysql.GdtEntry.fill_built timeZone clock created rows
  have hentries := @Mysql.GdtEntry.fill_mGdtEntries timeZone clock created rows
  -- the counter and the sum of any list are right, so it is all about the entries
  apply Account.ext
  · show (Mysql.GdtEntry.fill timeZone clock created rows).mTotalCount = rows.length
    rw [hbuilt.totalCount, hentries, List.length_map]
  · exact hentries
  · show (Mysql.GdtEntry.fill timeZone clock created rows).mTotalGDTSum
      = (rows.map fun row => row.gdt / 100).sum
    rw [hbuilt.gdtSum, hentries, GdtEntryList.sumOf, List.map_map]
    rfl

end Account

/-- The customer the contacts query gives an email: that of its first row. -/
def Mysql.Database.owner (connection : Database) (email : String) : Option ℤ :=
  (connection.contacts.rows.find? fun row => row.1 = email).map Prod.snd

/-- The account of a customer's rows in the query for all entries. -/
def Mysql.Database.customerAccount (timeZone : TimeZone) (connection : Database)
    (customerId : ℤ) : Account :=
  .ofRows timeZone (connection.gdtEntries.rows.filter fun row => row.customer_id = customerId)

/-- **What the database says** about an email. -/
def Mysql.Database.account (timeZone : TimeZone) (connection : Database) (email : String) :
    Account :=
  (connection.owner email).elim .empty (connection.customerAccount timeZone)

/-- What two tables say about an email: the entries of the customer of the first contact with that
email. -/
def Mysql.Tables.account (collation : Lib.Sql.Collation) (timeZone : TimeZone) (tables : Tables)
    (email : String) : Account :=
  match tables.contacts.find? fun row => normalised collation row.email = email with
  | none => .empty
  | some contact =>
    .ofRows timeZone (tables.gdt_entries.filter fun row => row.customer_id = contact.customer_id)

/-- A server that answers in full says what its tables say. -/
theorem Mysql.Tables.account_answer (collation : Lib.Sql.Collation) (timeZone : TimeZone)
    (tables : Tables) (email : String) :
    (tables.answer collation).account timeZone email = tables.account collation timeZone email := by
  have howner : (tables.answer collation).owner email
      = (tables.contacts.find? fun row => normalised collation row.email = email).map
          ContactRow.customer_id := by
    have hrows : (tables.answer collation).contacts.rows
        = tables.contacts.map fun row => (normalised collation row.email, row.customer_id) := rfl
    unfold Mysql.Database.owner
    rw [hrows, List.find?_map, Option.map_map]
    simp only [Function.comp_def]
  unfold Mysql.Database.account Mysql.Tables.account
  rw [howner]
  cases tables.contacts.find? fun row => normalised collation row.email = email with
  | none => rfl
  | some contact => rfl

/-! ### Responses -/

/-- A page of an account, as `listPerEmailApi` prints it. -/
def Account.page (account : Account) (timeUsed : String) (page count : Int32)
    (order : OrderDirections) : String :=
  View.GdtEntryList.toJsonString ⟨account.count, account.entries, account.sum, 0⟩ timeUsed page
    count order

namespace CacheServer

/-- The account the cache holds for an email. -/
def account (s : CacheServer) (email : String) : Account :=
  .ofPtr (s.gdtEntryList email)

/-- The account the cache holds for a customer. -/
def customerAccount (s : CacheServer) (customerId : ℤ) : Account :=
  .ofPtr (s.mGdtEntriesByEmails.lookup customerId).join

theorem account_eq (s : CacheServer) (email : String) :
    s.account email = (s.mEmailCustomerIds.lookup email).elim .empty s.customerAccount := by
  unfold account gdtEntryList
  cases s.mEmailCustomerIds.lookup email with
  | none => rfl
  | some customerId => rfl

/-- The response to a request for an email with the given account. -/
def respond (c : Circumstances) (request : ApiRequest) (account : Account) :
    Except HttpError String :=
  match request with
  | .list _ page count order =>
    if c.locked then .ok (checkOverflow count (account.page c.timeUsed page count order))
    else .error (.internalServerError "unknown 2")
  | .sum _ =>
    if c.locked then
      .ok ("\x7b\"state\":\"success\",\"sum\":" ++ stringWithoutTrailingZeros account.sum
        ++ ",\"time\":" ++ c.timeUsed ++ "\x7d")
    else .error ⟨504, "timeout mutex 100ms"⟩

/-- The response of `listPerEmailApi` for an email without a list. -/
def noListResponse (timeUsed : String) : String :=
  "\x7b\"state\":\"success\",\"count\":0,\"gdtEntries\":[],\"gdtSum\":0,\"timeUsed\":" ++ timeUsed
    ++ "\x7d"

/-- It is the page of the account of nobody. -/
theorem page_empty (timeUsed : String) (page count : Int32) (order : OrderDirections) :
    Account.empty.page timeUsed page count order = noListResponse timeUsed := by
  have hnone : View.GdtEntryList.pageEntries [] page count order = [] :=
    View.GdtEntryList.pageEntries_nil page count order
  unfold Account.page View.GdtEntryList.toJsonString Account.empty
  simp only [GdtEntryList.getGdtEntries, GdtEntryList.getTotalCount, GdtEntryList.getGdtSum, hnone,
    stringWithoutTrailingZeros_zero]
  rfl

/-- It fits into the output buffer. -/
theorem checkOverflow_empty (c : Circumstances) (count : Int32) :
    checkOverflow count (noListResponse c.timeUsed) = noListResponse c.timeUsed := by
  have hsize : (noListResponse c.timeUsed).utf8ByteSize = 67 + c.timeUsed.utf8ByteSize + 1 := by
    unfold noListResponse
    rw [String.utf8ByteSize_append, String.utf8ByteSize_append]
    rfl
  have hshort := c.timeUsed_short
  have hfits : ¬ outputBufferSize < (noListResponse c.timeUsed).utf8ByteSize := by
    rw [hsize, outputBufferSize]
    omega
  exact if_neg hfits

/-- **The handlers respond with the account the cache holds.** -/
theorem serve_response (config : Config) (c : Circumstances) (request : ApiRequest)
    (s : CacheServer) :
    (s.serve config c request).1 = respond c request (s.account request.email) := by
  cases request with
  | list email page count order =>
    show (s.listPerEmailApi config c email page count order).1
      = respond c (.list email page count order) (.ofPtr (s.gdtEntryList email))
    unfold listPerEmailApi respond
    cases c.locked with
    | false => rfl
    | true =>
      cases s.gdtEntryList email with
      | none =>
        have hempty := page_empty c.timeUsed page count order
        have hfits := checkOverflow_empty c count
        show Except.ok (noListResponse c.timeUsed)
          = Except.ok (checkOverflow count (Account.empty.page c.timeUsed page count order))
        rw [hempty, hfits]
      | some l => rfl
  | sum email =>
    show (s.sumPerEmailApi config c email).1
      = respond c (.sum email) (.ofPtr (s.gdtEntryList email))
    unfold sumPerEmailApi respond
    cases c.locked with
    | false => rfl
    | true =>
      cases s.gdtEntryList email with
      | none =>
        show Except.ok _ = Except.ok ("\x7b\"state\":\"success\",\"sum\":"
          ++ stringWithoutTrailingZeros 0 ++ ",\"time\":" ++ c.timeUsed ++ "\x7d")
        rw [stringWithoutTrailingZeros_zero]
        rfl
      | some l => rfl

/-- An email with a list is a key of the email map. -/
theorem mem_of_gdtEntryList {s : CacheServer} {email : String} {l : Model.GdtEntryList}
    (h : s.gdtEntryList email = some l) : email ∈ s.mEmailCustomerIds := by
  rw [gdtEntryList] at h
  cases hlookup : s.mEmailCustomerIds.lookup email with
  | none =>
    rw [hlookup] at h
    cases h
  | some customerId => exact Finmap.mem_of_lookup_eq_some hlookup

/-- A handler pushes an unknown email that matches the pattern, or one with a list. -/
theorem serve_cases (config : Config) (c : Circumstances) (request : ApiRequest)
    (s : CacheServer) :
    (s.serve config c request).2 = s ∨
      ((s.serve config c request).2 = s.pushTask request.email ∧
        (emailValid request.email = true ∨ request.email ∈ s.mEmailCustomerIds)) := by
  have hpush : ∀ {b : Bool} {email : String},
      (b = true → emailValid email = true ∨ email ∈ s.mEmailCustomerIds) →
        (if b then s.pushTask email else s) = s ∨
          ((if b then s.pushTask email else s) = s.pushTask email ∧
            (emailValid email = true ∨ email ∈ s.mEmailCustomerIds)) := by
    intro b email h
    cases b with
    | false => exact .inl rfl
    | true => exact .inr ⟨rfl, h rfl⟩
  cases request with
  | list email page count order =>
    show (s.listPerEmailApi config c email page count order).2 = _ ∨
      ((s.listPerEmailApi config c email page count order).2 = _ ∧ _)
    unfold listPerEmailApi
    cases c.locked with
    | false => exact .inl rfl
    | true =>
      cases hlist : s.gdtEntryList email with
      | none => exact hpush .inl
      | some l => exact hpush fun _ => .inr (mem_of_gdtEntryList hlist)
  | sum email =>
    show (s.sumPerEmailApi config c email).2 = _ ∨ ((s.sumPerEmailApi config c email).2 = _ ∧ _)
    unfold sumPerEmailApi
    cases c.locked with
    | false => exact .inl rfl
    | true =>
      cases hlist : s.gdtEntryList email with
      | none => exact hpush .inl
      | some l => exact hpush fun _ => .inr (mem_of_gdtEntryList hlist)

/-- All a handler ever changes is the queue. -/
theorem serve_server (config : Config) (c : Circumstances) (request : ApiRequest)
    (s : CacheServer) :
    (s.serve config c request).2 = s ∨ (s.serve config c request).2 = s.pushTask request.email :=
  (serve_cases config c request s).imp_right And.left

end CacheServer

end GdtCache
