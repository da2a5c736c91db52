import GdtCache.CacheServer.Equiv.Run
import GdtCache.Lib.Decimal

/-!
# Freshness after a refresh

A refresh that reports success makes the cache fresh for its email if the email belongs to a
customer.  If it belongs to nobody any more, the refresh reports success as well, but leaves the
cache alone; then the cache is fresh only if it held no entries for the email
(`reloadGdtEntry_ok_iff`).  The count in a response tells the two apart.
-/

namespace GdtCache.CacheServer

open GdtCache.Lib GdtCache.Model GdtCache.Mysql GdtCache.View

variable {config : Config} {timeZone : TimeZone}

/-! ### The count can be read off -/

/-- What an empty page says after the count. -/
def afterCount (sum : ℚ) (timeUsed : String) : String :=
  ",\"gdtEntries\":[],\"gdtSum\":" ++ stringWithoutTrailingZeros sum ++ ",\"timeUsed\":" ++ timeUsed
    ++ "\x7d"

theorem noDigitFirst_afterCount (sum : ℚ) (timeUsed : String) :
    NoDigitFirst (afterCount sum timeUsed).toList := by
  have hcomma : NoDigitFirst (",\"gdtEntries\":[],\"gdtSum\":" : String).toList := rfl
  unfold afterCount
  simp only [String.append_assoc]
  rw [String.toList_append]
  exact hcomma.append (by decide) _

/-- A page of no entries: what it says before and after the count. -/
theorem page_zero (account : Account) (timeUsed : String) (page : Int32)
    (order : OrderDirections) :
    account.page timeUsed page 0 order = "\x7b\"state\":\"success\",\"count\":"
      ++ (toString account.count ++ afterCount account.sum timeUsed) := by
  have hnone : ",".intercalate ((View.GdtEntryList.pageEntries account.entries page 0 order).map
      View.toJsonString) = "" := by
    rw [View.GdtEntryList.pageEntries_zero]
    rfl
  have hhead : "\x7b\"state\":\"success\",\"count\":"
      = "\x7b" ++ "\"state\":\"success\"," ++ "\"count\":" := by decide
  have hentries : ",\"gdtEntries\":[],\"gdtSum\":"
      = "," ++ "\"gdtEntries\":[" ++ "" ++ "],\"gdtSum\":" := by decide
  have htime : ",\"timeUsed\":" = "," ++ "\"timeUsed\":" := by decide
  unfold Account.page View.GdtEntryList.toJsonString afterCount
  simp only [GdtEntryList.getGdtEntries, GdtEntryList.getTotalCount, GdtEntryList.getGdtSum]
  rw [hnone, hhead, hentries, htime]
  simp only [String.append_assoc]

/-- A client that is told the account of nobody, on a page of no entries, is told the count `0`. -/
theorem count_eq_zero_of_respond {c : Circumstances} (hlocked : c.locked = true) {email : String}
    {account : Account} {n : ℕ} (hn : account.count = n)
    (h : respond c (.list email 1 0 .ASC) account = respond c (.list email 1 0 .ASC) .empty) :
    n = 0 := by
  have hlist : ∀ account : Account, respond c (.list email 1 0 .ASC) account
      = .ok (checkOverflow 0 (account.page c.timeUsed 1 0 .ASC)) := fun account => if_pos hlocked
  have hempty : checkOverflow 0 (Account.empty.page c.timeUsed 1 0 .ASC)
      = Account.empty.page c.timeUsed 1 0 .ASC := by
    rw [page_empty, checkOverflow_empty]
  have htext : checkOverflow 0 (account.page c.timeUsed 1 0 .ASC)
      = Account.empty.page c.timeUsed 1 0 .ASC := by
    rw [hlist, hlist] at h
    exact (Except.ok.inj h).trans hempty
  rw [page_zero, page_zero] at htext
  unfold checkOverflow at htext
  split_ifs at htext with hoverflow
  · -- the error text and the other one differ in their eleventh character
    exfalso
    have hchar := congrArg (fun text : String => text.toList[10]?) htext
    simp only [String.append_assoc, String.toList_append] at hchar
    rw [List.getElem?_append_left (by decide), List.getElem?_append_left (by decide)] at hchar
    exact absurd hchar (by decide)
  · -- both texts go on with the count, and then with a comma
    have hcount := (String.append_right_inj _).mp htext
    rw [hn] at hcount
    exact toString_append_cancel (noDigitFirst_afterCount _ _) (noDigitFirst_afterCount _ _) hcount

/-! ### Reachable accounts -/

/-- In a reachable state an account counts and sums its entries. -/
theorem Reachable.account {s : CacheServer} (hs : Reachable config timeZone s) (email : String) :
    (s.account email).count = (s.account email).entries.length ∧
      (s.account email).sum = GdtEntryList.sumOf (s.account email).entries := by
  obtain ⟨actions, rfl⟩ := hs
  rw [account_eq]
  cases ((machine config timeZone).run new actions).mEmailCustomerIds.lookup email with
  | none => exact ⟨rfl, rfl⟩
  | some customerId =>
    show (customerAccount _ customerId).count = (customerAccount _ customerId).entries.length ∧
      (customerAccount _ customerId).sum
        = GdtEntryList.sumOf (customerAccount _ customerId).entries
    unfold customerAccount
    cases hp : ((machine config timeZone).run new actions).mGdtEntriesByEmails.lookup
      customerId with
    | none => exact ⟨rfl, rfl⟩
    | some p =>
      obtain ⟨a, -, hdelivers⟩ := exists_delivers hp
      obtain ⟨clock, created, rows, rfl, -⟩ := hdelivers.exists_fill
      have hbuilt := @Mysql.GdtEntry.fill_built timeZone clock created rows
      exact ⟨hbuilt.totalCount, hbuilt.gdtSum⟩

/-- Without entries it is the account of nobody. -/
theorem Reachable.account_eq_empty {s : CacheServer} (hs : Reachable config timeZone s)
    {email : String} (h : (s.account email).entries = []) : s.account email = .empty := by
  obtain ⟨hcount, hsum⟩ := hs.account email
  -- nothing counts `0` and sums up to `0`
  rw [h] at hcount hsum
  exact Account.ext hcount h hsum

/-! ### Freshness -/

/-- What the database says about the customer `0`, that is nobody, or about another customer. -/
def currentAccount (timeZone : TimeZone) (connection : Database) (customerId : ℤ) : Account :=
  if customerId = 0 then .empty
  else .ofRows timeZone (connection.gdtEntriesByCustomer customerId).rows

/-- A refresh that finds a customer and reports success leaves the customer's account. -/
theorem account_reloadGdtEntry {s : CacheServer} {call : RefreshCall} {owner : ℤ}
    (howner : Customer.getByEmail call.email call.connection = .ok owner) (hne : owner ≠ 0)
    (hok : (s.reloadGdtEntry config timeZone call).1 = .OK) :
    (s.reloadGdtEntry config timeZone call).2.account call.email
      = currentAccount timeZone call.connection owner := by
  rcases reloadGdtEntry_cases config timeZone call s with
      ⟨-, heq⟩ | ⟨ex, -, heq⟩ | ⟨hid, -⟩ | ⟨id, ex, -, -, -, heq⟩ |
      ⟨id, list, -, hid, hlist, heq⟩
  · rw [heq] at hok; cases hok
  · rw [heq] at hok; cases hok
  · rw [howner] at hid
    exact absurd (Except.ok.inj hid) hne
  · rw [heq] at hok; cases hok
  · rw [howner] at hid
    cases hid
    obtain ⟨hfill, -⟩ := Mysql.GdtEntry.getByCustomer_eq_ok_iff.mp hlist
    rw [heq, account_eq, currentAccount, if_neg hne, UnorderedMap.lookup_assign, if_pos rfl]
    show Account.ofPtr ((s.mGdtEntriesByEmails.assign owner list).lookup owner).join = _
    rw [UnorderedMap.lookup_assign, if_pos rfl, ← hfill]
    exact Account.ofList_fill timeZone call.clock call.clock.created _

/-- **When a successful refresh makes the cache fresh.**  In every reachable state, after a refresh
that reports success, the requests for its email are answered with what the database says now if
and only if the email belongs to a customer there, or the cache held no entries for it. -/
theorem reloadGdtEntry_ok_iff {s : CacheServer} (hs : Reachable config timeZone s)
    {call : RefreshCall} {owner : ℤ}
    (howner : Customer.getByEmail call.email call.connection = .ok owner)
    (hok : (s.reloadGdtEntry config timeZone call).1 = .OK) :
    (∀ c request, request.email = call.email →
        ((s.reloadGdtEntry config timeZone call).2.serve config c request).1
          = respond c request (currentAccount timeZone call.connection owner)) ↔
      owner ≠ 0 ∨ (s.account call.email).entries = [] := by
  by_cases hne : owner ≠ 0
  · refine iff_of_true (fun c request hrequest => ?_) (.inl hne)
    rw [serve_response, hrequest, account_reloadGdtEntry howner hne hok]
  · -- nobody's email: the cache is left as it was
    rw [not_not] at hne
    subst hne
    have hsame : (s.reloadGdtEntry config timeZone call).2 = s := by
      rcases reloadGdtEntry_cases config timeZone call s with
          ⟨-, heq⟩ | ⟨ex, -, heq⟩ | ⟨-, heq⟩ | ⟨id, ex, hid, howner', -⟩ |
          ⟨id, list, hid, howner', -⟩
      · rw [heq]
      · rw [heq]
      · rw [heq]
      · rw [howner] at howner'
        exact absurd (Except.ok.inj howner').symm hid
      · rw [howner] at howner'
        exact absurd (Except.ok.inj howner').symm hid
    have hcurrent : currentAccount timeZone call.connection 0 = .empty := if_pos rfl
    rw [hsame, hcurrent]
    simp only [ne_eq, not_true_eq_false, false_or]
    constructor
    · intro h
      -- ask for a page of no entries: its text names the count
      have hzero : (s.account call.email).entries.length = 0 := by
        refine @count_eq_zero_of_respond ⟨0, "0", by decide, true⟩ rfl call.email
          (s.account call.email) _ (hs.account call.email).1 ?_
        rw [← h _ (.list call.email 1 0 .ASC) rfl, serve_response]
        rfl
      exact List.eq_nil_of_length_eq_zero hzero
    · intro h c request hrequest
      rw [serve_response, hrequest, hs.account_eq_empty h]

/-- Bob, whose entry is cached, is deleted from the contacts: the refresh reports success, and his
entry is still shown. -/
theorem reloadGdtEntry_ok_stale :
    ¬ ∀ (config : Config) (timeZone : TimeZone) (s : CacheServer) (call : RefreshCall) (owner : ℤ),
      Reachable config timeZone s →
        Customer.getByEmail call.email call.connection = .ok owner →
          (s.reloadGdtEntry config timeZone call).1 = .OK →
            ∀ c request, request.email = call.email →
              ((s.reloadGdtEntry config timeZone call).2.serve config c request).1
                = respond c request (currentAccount timeZone call.connection owner) := by
  intro h
  let tables : Tables :=
    ⟨[⟨"bob@example.org", 7⟩],
      [⟨1, 100, 1663160964, "bob@example.org", "", "", "", "", 7, 1, 1, 0, 1, 100⟩]⟩
  let call : RefreshCall :=
    ⟨(Tables.mk [] []).answer .ascii, "bob@example.org", 20, ⟨20, fun _ => 20⟩⟩
  let s := (machine {} fun _ => 0).run new [.loadFromDb (tables.answer .ascii) ⟨0, fun _ => 0⟩]
  have hok : (s.reloadGdtEntry {} (fun _ => 0) call).1 = .OK := by decide +kernel
  have hcount : ((s.reloadGdtEntry {} (fun _ => 0) call).2.account "bob@example.org").count
      = (1 : ℕ) := by decide +kernel
  have hfresh := h {} (fun _ => 0) s call 0 ⟨_, rfl⟩ rfl hok ⟨50, "0.1", by decide, true⟩
    (.list "bob@example.org" 1 0 .ASC) rfl
  rw [serve_response] at hfresh
  exact absurd (count_eq_zero_of_respond rfl hcount hfresh) one_ne_zero

/-- Bob is still there, and is refreshed when his list is old enough. -/
theorem reloadGdtEntry_ok_iff_of_owner :
    let tables : Tables :=
      ⟨[⟨"bob@example.org", 7⟩],
        [⟨1, 100, 1663160964, "bob@example.org", "", "", "", "", 7, 1, 1, 0, 1, 100⟩]⟩
    let s := (machine {} fun _ => 0).run new [.loadFromDb (tables.answer .ascii) ⟨0, fun _ => 0⟩]
    let call : RefreshCall :=
      ⟨tables.answer .ascii, "bob@example.org", 20, ⟨20, fun _ => 20⟩⟩
    ∀ c request, request.email = "bob@example.org" →
      ((s.reloadGdtEntry {} (fun _ => 0) call).2.serve {} c request).1
        = respond c request (currentAccount (fun _ => 0) (tables.answer .ascii) 7) := by
  intro tables s call
  have howner : Customer.getByEmail call.email call.connection = .ok 7 := by
    rw [Customer.getByEmail_answer]
    exact congrArg _ (by decide +kernel)
  have hok : (s.reloadGdtEntry {} (fun _ => 0) call).1 = .OK := by decide +kernel
  exact (reloadGdtEntry_ok_iff ⟨_, rfl⟩ howner hok).mpr (.inl (by decide))

end GdtCache.CacheServer
