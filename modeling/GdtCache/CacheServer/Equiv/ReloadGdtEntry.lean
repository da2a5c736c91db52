import GdtCache.CacheServer.Account

/-!
# The refresh of one email

`reloadGdtEntry` skips a fresh list, and otherwise asks the database twice, assigning the customer
id after the first answer and the list after the second (`reloadGdtEntry_cases`).
-/

namespace GdtCache.CacheServer

open GdtCache.Lib GdtCache.Model GdtCache.Mysql

variable {config : Config} {timeZone : TimeZone} {call : RefreshCall} {s : CacheServer}

/-! ### What a refresh does -/

/-- A refresh skips, fails before it changed anything, finds no customer, fails after it assigned
the customer, or assigns the customer and the list. -/
theorem reloadGdtEntry_cases (config : Config) (timeZone : TimeZone) (call : RefreshCall)
    (s : CacheServer) :
    (s.isFresh config call = true ∧ s.reloadGdtEntry config timeZone call = (.SKIPPED, s)) ∨
    (∃ ex, Customer.getByEmail call.email call.connection = .error ex ∧
      s.reloadGdtEntry config timeZone call = (.ERROR, s)) ∨
    (Customer.getByEmail call.email call.connection = .ok 0 ∧
      s.reloadGdtEntry config timeZone call = (.OK, s)) ∨
    (∃ customerId ex, customerId ≠ 0 ∧
      Customer.getByEmail call.email call.connection = .ok customerId ∧
      Mysql.GdtEntry.getByCustomer timeZone call.clock customerId call.connection = .error ex ∧
      s.reloadGdtEntry config timeZone call = (.ERROR,
        { s with mEmailCustomerIds := s.mEmailCustomerIds.assign call.email customerId })) ∨
    (∃ customerId list, customerId ≠ 0 ∧
      Customer.getByEmail call.email call.connection = .ok customerId ∧
      Mysql.GdtEntry.getByCustomer timeZone call.clock customerId call.connection = .ok list ∧
      s.reloadGdtEntry config timeZone call = (.OK,
        { s with
          mEmailCustomerIds := s.mEmailCustomerIds.assign call.email customerId
          mGdtEntriesByEmails := s.mGdtEntriesByEmails.assign customerId list })) := by
  unfold reloadGdtEntry
  simp only [UnorderedMap.upsert_eq_assign]
  by_cases hfresh : s.isFresh config call = true
  · exact .inl ⟨hfresh, if_pos hfresh⟩
  · rw [if_neg hfresh]
    right
    cases hid : Customer.getByEmail call.email call.connection with
    | error ex => exact .inl ⟨ex, rfl, rfl⟩
    | ok customerId =>
      by_cases hzero : customerId = 0
      · subst hzero
        exact .inr (.inl ⟨rfl, rfl⟩)
      · cases hlist :
          Mysql.GdtEntry.getByCustomer timeZone call.clock customerId call.connection with
        | error ex =>
          refine .inr (.inr (.inl ⟨customerId, ex, hzero, rfl, hlist, ?_⟩))
          simp only [if_neg hzero, hlist]
        | ok list =>
          refine .inr (.inr (.inr ⟨customerId, list, hzero, rfl, hlist, ?_⟩))
          simp only [if_neg hzero, hlist]

/-! ### A refresh that fails -/

/-- **What a failed refresh leaves behind.**  The maps are as before if and only if any customer
the contact query answered is the one the email was mapped to before. -/
theorem reloadGdtEntry_error_iff (h : (s.reloadGdtEntry config timeZone call).1 = .ERROR) :
    ((s.reloadGdtEntry config timeZone call).2.mEmailCustomerIds = s.mEmailCustomerIds ∧
        (s.reloadGdtEntry config timeZone call).2.mGdtEntriesByEmails = s.mGdtEntriesByEmails) ↔
      ∀ customerId, Customer.getByEmail call.email call.connection = .ok customerId →
        s.mEmailCustomerIds.lookup call.email = some customerId := by
  rcases reloadGdtEntry_cases config timeZone call s with
      ⟨-, heq⟩ | ⟨ex, hid, heq⟩ | ⟨-, heq⟩ | ⟨customerId, ex, -, hid, -, heq⟩ |
      ⟨customerId, list, -, -, -, heq⟩
  · rw [heq] at h; cases h
  · -- the contact query failed: nothing happened, and it answered nothing
    simp [heq, hid]
  · rw [heq] at h; cases h
  · -- the entries query failed: the email is mapped already
    rw [heq, hid]
    simp only [and_true, UnorderedMap.assign_eq_self_iff, Except.ok.injEq, forall_eq']
  · rw [heq] at h; cases h

/-- The new customer of an email stays when the entries cannot be read. -/
theorem reloadGdtEntry_error_changes :
    ¬ ∀ (config : Config) (timeZone : TimeZone) (call : RefreshCall) (s : CacheServer),
      (s.reloadGdtEntry config timeZone call).1 = .ERROR →
        (s.reloadGdtEntry config timeZone call).2.mEmailCustomerIds = s.mEmailCustomerIds ∧
          (s.reloadGdtEntry config timeZone call).2.mGdtEntriesByEmails
            = s.mGdtEntriesByEmails := by
  intro h
  have hsame := h {} (fun _ => 0)
    ⟨{ Tables.answer .ascii ⟨[⟨"bob@example.org", 7⟩], []⟩ with
        gdtEntriesStatement := fun _ =>
          { sent :=
            { rows := []
              failure := some (.runtimeError "Lost connection to MySQL server during query") } } },
      "bob@example.org", 20, ⟨20, fun _ => 20⟩⟩ new rfl
  have hlookup := congrArg (Finmap.lookup "bob@example.org") hsame.1
  exact absurd hlookup (by decide)

/-- Bob is cached with an entry, and is refreshed: his contact is found, his entries are not
read. -/
theorem reloadGdtEntry_error_iff_of_same_customer :
    let tables : Tables :=
      ⟨[⟨"bob@example.org", 7⟩],
        [⟨1, 100, 1663160964, "bob@example.org", "", "", "", "", 7, 1, 1, 0, 1, 100⟩]⟩
    let s := (new.loadFromDb (fun _ => 0) (tables.answer .ascii) ⟨0, fun _ => 0⟩).2
    let call : RefreshCall :=
      ⟨{ tables.answer .ascii with
          gdtEntriesStatement := fun _ => { sent := { rows := [], failure := some .other } } },
        "bob@example.org", 20, ⟨20, fun _ => 20⟩⟩
    s.mEmailCustomerIds.lookup "bob@example.org" = some 7 ∧
      (s.reloadGdtEntry {} (fun _ => 0) call).2.mEmailCustomerIds = s.mEmailCustomerIds ∧
      (s.reloadGdtEntry {} (fun _ => 0) call).2.mGdtEntriesByEmails = s.mGdtEntriesByEmails := by
  intro tables s call
  have herror : (s.reloadGdtEntry {} (fun _ => 0) call).1 = .ERROR := by decide +kernel
  have hfound : Customer.getByEmail call.email call.connection = .ok 7 := by decide +kernel
  refine ⟨rfl, (reloadGdtEntry_error_iff herror).mpr fun customerId hid => ?_⟩
  rw [hfound] at hid
  cases hid
  rfl

end GdtCache.CacheServer
