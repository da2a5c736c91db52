import GdtCache.CacheServer.Equiv.ReloadGdtEntry
import GdtCache.CacheServer.Worker

/-!
# How often one email is refreshed

A refresh only asks the database if it finds no list younger than `minCacheTimeout` under the email.
So a refresh that leaves a list keeps the next ones of its email away (`Remembers`), and a refresh
that leaves none does not.  A customer found under another email is asked for again, however young
the cached list is.

If every refresh that asks the database finds a customer, whose entries can be read and whose cached
list is old enough, then any two calls for the same email, and any two for the same customer, are
more than `minCacheTimeout` apart (`throttled_of_run`).
-/

namespace GdtCache.CacheServer

open GdtCache.Lib GdtCache.Model GdtCache.Mysql

variable {config : Config} {timeZone : TimeZone}

/-! ### The clock -/

/-- The clock when a refresh calls a function of the database. -/
def timeOf (call : TaskCall) : DbCall → ℤ
  | .getByCustomer _ => call.clock.created
  | _ => call.now

/-- A step of a load. -/
def WorkingEvent.isLoad : WorkingEvent → Bool
  | serve _ _ | takeTask | runTask _ => false
  | _ => true

/-- What the clock tells in a step that is none of a load. -/
def WorkingEvent.readings : WorkingEvent → Set ℤ
  | serve c _ => {c.now}
  | runTask call => {t | t = call.now ∨ t = call.clock.created ∨ ∃ customerId,
      ∃ row ∈ (call.connection.gdtEntriesByCustomer customerId).rows, t = call.clock.arrival row}
  | _ => ∅

/-- The clock does not go back within a step. -/
def WorkingEvent.InOrder : WorkingEvent → Prop
  | runTask call => call.now ≤ call.clock.created ∧ ∀ customerId,
      ∀ row ∈ (call.connection.gdtEntriesByCustomer customerId).rows,
        call.clock.created ≤ call.clock.arrival row
  | _ => True

/-- The clock does not go back. -/
def Clocked (events : List WorkingEvent) : Prop :=
  (∀ e ∈ events, e.InOrder) ∧
    events.Pairwise fun e e' => ∀ t ∈ e.readings, ∀ t' ∈ e'.readings, t ≤ t'

/-- The calls of a step with their times. -/
def timedCalls (calls : List DbCall) : WorkingEvent → List (ℤ × DbCall)
  | .runTask call => calls.map fun c => (timeOf call c, c)
  | _ => []

/-- The calls of all refreshes of a run with their times. -/
def refreshTimes (config : Config) (timeZone : TimeZone) :
    Working → List WorkingEvent → List (ℤ × DbCall)
  | _, [] => []
  | w, e :: events => timedCalls ((working config timeZone).out w e) e
      ++ refreshTimes config timeZone ((working config timeZone).next w e) events

/-- Any two calls of a function for the same email, or customer, are more than `period` apart. -/
def Throttled (period : ℤ) (calls : List (ℤ × DbCall)) : Prop :=
  calls.Pairwise fun p p' => p'.2 = p.2 → period < p'.1 - p.1

/-! ### A refresh that leaves a list -/

/-- A refresh that asks the database finds a customer, whose entries can be read and whose cached
list may be updated. -/
def Refreshes (config : Config) (timeZone : TimeZone) (w : Working) : WorkingEvent → Prop
  | .runTask call => ∀ task, w.task = some task → task.mEmail.isEmpty = false →
      w.server.isFresh config (task.refresh call) = false →
        ∃ customerId, Customer.getByEmail task.mEmail call.connection = .ok customerId ∧
          customerId ≠ 0 ∧
          (∃ list, Mysql.GdtEntry.getByCustomer timeZone call.clock customerId call.connection
            = .ok list) ∧
          ∀ l, w.server.mGdtEntriesByEmails.lookup customerId = some (some l) →
            l.canUpdate config call.now = true
  | _ => True

/-- The list of a customer was last updated at `t` or later. -/
def UpdatedSince (s : CacheServer) (customerId t : ℤ) : Prop :=
  ∃ l, s.mGdtEntriesByEmails.lookup customerId = some (some l) ∧ t ≤ l.mLastUpdate

/-- What the cache still knows of a call at time `t`. -/
def Remembers (s : CacheServer) (t : ℤ) : DbCall → Prop
  | .getAll _ => False
  | .getByEmail email =>
    ∃ customerId, s.mEmailCustomerIds.lookup email = some customerId ∧ s.UpdatedSince customerId t
  | .getByCustomer customerId => s.UpdatedSince customerId t

/-- A list is as young as its last row. -/
theorem le_mLastUpdate_fill {clock : Mysql.GdtEntry.Clock} {rows : List GdtEntryRow}
    (h : ∀ row ∈ rows, clock.created ≤ clock.arrival row) :
    clock.created ≤ (Mysql.GdtEntry.fill timeZone clock clock.created rows).mLastUpdate := by
  cases rows using List.reverseRecOn with
  | nil => exact le_rfl
  | append_singleton rows row =>
    -- each row sets the time of the last update
    rw [Mysql.GdtEntry.fill_append]
    exact h row (List.mem_append_right _ List.mem_cons_self)

/-! ### Steps -/

/-- A refresh that finds a customer and reads the entries. -/
theorem reloadGdtEntry_of_list {call : RefreshCall} {s : CacheServer} {customerId : ℤ}
    {list : GdtEntryListPtr} (hfresh : s.isFresh config call = false)
    (hid : Customer.getByEmail call.email call.connection = .ok customerId) (hne : customerId ≠ 0)
    (hlist : Mysql.GdtEntry.getByCustomer timeZone call.clock customerId call.connection
      = .ok list) :
    s.refreshCalls config call = [.getByEmail call.email, .getByCustomer customerId] ∧
      (s.reloadGdtEntry config timeZone call).2 = { s with
        mEmailCustomerIds := s.mEmailCustomerIds.assign call.email customerId
        mGdtEntriesByEmails := s.mGdtEntriesByEmails.assign customerId list } := by
  constructor
  · unfold refreshCalls
    simp only [hfresh, Bool.false_eq_true, if_false, hid]
    exact if_neg hne
  · unfold reloadGdtEntry
    simp only [hfresh, Bool.false_eq_true, if_false, hid, if_neg hne, hlist,
      UnorderedMap.upsert_eq_assign]

section

variable {w : Working} {call : TaskCall} {t : ℤ}

/-- What a step with a refresh does: it asks the database nothing and changes neither map, or it
asks for the email and for a customer whose list may be updated, and leaves a list as young as the
second question. -/
theorem runTask_cases (hcond : Refreshes config timeZone w (.runTask call))
    (horder : (WorkingEvent.runTask call).InOrder) :
    ((working config timeZone).out w (.runTask call) = [] ∧
      ((working config timeZone).next w (.runTask call)).server = w.server) ∨
    ∃ (task : UpdateGdtEntryList) (customerId : ℤ) (l : GdtEntryList),
      w.server.isFresh config (task.refresh call) = false ∧
      (∀ l, w.server.mGdtEntriesByEmails.lookup customerId = some (some l) →
        l.canUpdate config call.now = true) ∧
      (working config timeZone).out w (.runTask call)
        = [.getByEmail task.mEmail, .getByCustomer customerId] ∧
      ((working config timeZone).next w (.runTask call)).server = { w.server with
        mEmailCustomerIds := w.server.mEmailCustomerIds.assign task.mEmail customerId
        mGdtEntriesByEmails := w.server.mGdtEntriesByEmails.assign customerId (some l) } ∧
      call.clock.created ≤ l.mLastUpdate := by
  simp only [working]
  cases htask : w.task with
  | none => exact .inl ⟨rfl, rfl⟩
  | some task =>
    simp only [UpdateGdtEntryList.calls, UpdateGdtEntryList.run]
    cases hempty : task.mEmail.isEmpty with
    | true => exact .inl ⟨rfl, rfl⟩
    | false =>
      simp only [Bool.false_eq_true, if_false]
      cases hfresh : w.server.isFresh config (task.refresh call) with
      | true =>
        left
        unfold refreshCalls reloadGdtEntry
        rw [if_pos hfresh, if_pos hfresh]
        exact ⟨rfl, rfl⟩
      | false =>
        -- the database is asked, and the condition says what it answers
        right
        obtain ⟨customerId, hid, hne, ⟨list, hlist⟩, hold⟩ := hcond task htask hempty hfresh
        have hid : Customer.getByEmail (task.refresh call).email (task.refresh call).connection
            = .ok customerId := hid
        obtain ⟨hcalls, hserver⟩ := reloadGdtEntry_of_list hfresh hid hne hlist
        obtain ⟨rfl, -⟩ := Mysql.GdtEntry.getByCustomer_eq_ok_iff.mp hlist
        exact ⟨task, customerId, _, hfresh, hold, hcalls, hserver,
          le_mLastUpdate_fill (horder.2 customerId)⟩

theorem lt_of_canUpdate {l : GdtEntryList} {now : ℤ} (h : l.canUpdate config now = true)
    (ht : t ≤ l.mLastUpdate) : config.minCacheTimeout < now - t := by
  have hlt : config.minCacheTimeout < now - l.mLastUpdate := of_decide_eq_true h
  omega

/-- The cache looks the remembered email up, and finds the list too young. -/
theorem Remembers.lt_of_not_fresh {task : UpdateGdtEntryList}
    (h : w.server.Remembers t (.getByEmail task.mEmail))
    (hfresh : w.server.isFresh config (task.refresh call) = false) :
    config.minCacheTimeout < call.now - t := by
  obtain ⟨customerId, hid, l, hlist, ht⟩ := h
  unfold isFresh at hfresh
  simp only [UpdateGdtEntryList.refresh, hid, hlist, Bool.not_eq_false'] at hfresh
  exact lt_of_canUpdate hfresh ht

/-- A list that is replaced gets younger. -/
theorem UpdatedSince.assign {s s' : CacheServer} {customerId customerId' : ℤ} {l : GdtEntryList}
    (h : s.UpdatedSince customerId' t)
    (hlists : s'.mGdtEntriesByEmails = s.mGdtEntriesByEmails.assign customerId (some l))
    (ht : t ≤ l.mLastUpdate) : s'.UpdatedSince customerId' t := by
  obtain ⟨l', hlist, ht'⟩ := h
  unfold UpdatedSince
  rw [hlists, UnorderedMap.lookup_assign]
  split_ifs
  · exact ⟨l, rfl, ht⟩
  · exact ⟨l', hlist, ht'⟩

/-- Only the two maps matter. -/
theorem Remembers.congr {s s' : CacheServer} {c : DbCall} (h : s.Remembers t c)
    (hids : s'.mEmailCustomerIds = s.mEmailCustomerIds)
    (hlists : s'.mGdtEntriesByEmails = s.mGdtEntriesByEmails) : s'.Remembers t c := by
  unfold Remembers UpdatedSince at h ⊢
  rw [hids, hlists]
  exact h

/-- What a refresh leaves is remembered: its own email and customer, and what was so before. -/
theorem Remembers.refresh {s s' : CacheServer} {c : DbCall} {email : String} {customerId : ℤ}
    {l : GdtEntryList}
    (hids : s'.mEmailCustomerIds = s.mEmailCustomerIds.assign email customerId)
    (hlists : s'.mGdtEntriesByEmails = s.mGdtEntriesByEmails.assign customerId (some l))
    (ht : t ≤ l.mLastUpdate)
    (h : s.Remembers t c ∨ c = .getByEmail email ∨ c = .getByCustomer customerId) :
    s'.Remembers t c := by
  have hnew : s'.UpdatedSince customerId t := by
    unfold UpdatedSince
    rw [hlists, UnorderedMap.lookup_assign, if_pos rfl]
    exact ⟨l, rfl, ht⟩
  rcases h with h | rfl | rfl
  · cases c with
    | getAll ids => exact h
    | getByEmail email' =>
      obtain ⟨customerId', hid, hsince⟩ := h
      show ∃ id, s'.mEmailCustomerIds.lookup email' = some id ∧ s'.UpdatedSince id t
      rw [hids, UnorderedMap.lookup_assign]
      split_ifs
      · exact ⟨customerId, rfl, hnew⟩
      · -- the email keeps its customer, whose list may be the new one
        exact ⟨customerId', hid, hsince.assign hlists ht⟩
    | getByCustomer customerId' => exact UpdatedSince.assign h hlists ht
  · refine ⟨customerId, ?_, hnew⟩
    rw [hids, UnorderedMap.lookup_assign, if_pos rfl]
  · exact hnew

/-- **Step.**  What the cache remembers is not asked for again too early, and it goes on remembering
it. -/
theorem Remembers.next {e : WorkingEvent} {c : DbCall} (h : w.server.Remembers t c)
    (hload : e.isLoad = false) (horder : e.InOrder) (ht : ∀ t' ∈ e.readings, t ≤ t')
    (hcond : Refreshes config timeZone w e) :
    (∀ p ∈ timedCalls ((working config timeZone).out w e) e,
        p.2 = c → config.minCacheTimeout < p.1 - t) ∧
      ((working config timeZone).next w e).server.Remembers t c := by
  cases e with
  | serve circumstances request =>
    refine ⟨nofun, ?_⟩
    show (w.server.serve config circumstances request).2.Remembers t c
    rcases serve_server config circumstances request w.server with heq | heq
    · rw [heq]
      exact h
    · rw [heq]
      exact h
  | takeTask =>
    refine ⟨nofun, ?_⟩
    show w.takeTask.server.Remembers t c
    unfold Working.takeTask
    split
    · exact h
    · exact h
  | runTask call =>
    have hnow : t ≤ call.now := ht call.now (.inl rfl)
    have hcreated : call.now ≤ call.clock.created := horder.1
    rcases runTask_cases hcond horder with
        ⟨hout, hserver⟩ | ⟨task, customerId, l, hfresh, hold, hout, hserver, hl⟩
    · rw [hout, hserver]
      exact ⟨nofun, h⟩
    · rw [hout]
      refine ⟨?_, .refresh (congrArg mEmailCustomerIds hserver)
        (congrArg mGdtEntriesByEmails hserver) (by omega) (.inl h)⟩
      simp only [timedCalls, timeOf, List.map_cons, List.map_nil, List.forall_mem_cons,
        List.not_mem_nil, false_implies, implies_true, and_true]
      refine ⟨?_, ?_⟩
      · rintro rfl
        exact h.lt_of_not_fresh hfresh
      · -- the customer may have been found under another email, so `isFresh` says nothing
        rintro rfl
        obtain ⟨l', hlist, ht'⟩ := h
        have hlt := lt_of_canUpdate (hold l' hlist) ht'
        omega
  | _ => cases hload

/-- The calls of a step are for different things, and are remembered after it. -/
theorem remembers_timedCalls {e : WorkingEvent} (horder : e.InOrder)
    (hcond : Refreshes config timeZone w e) :
    Throttled config.minCacheTimeout (timedCalls ((working config timeZone).out w e) e) ∧
      ∀ p ∈ timedCalls ((working config timeZone).out w e) e,
        p.1 ∈ e.readings ∧ ((working config timeZone).next w e).server.Remembers p.1 p.2 := by
  cases e with
  | runTask call =>
    have hcreated : call.now ≤ call.clock.created := horder.1
    rcases runTask_cases hcond horder with
      ⟨hout, -⟩ | ⟨task, customerId, l, -, -, hout, hserver, hl⟩
    · rw [hout]
      exact ⟨.nil, nofun⟩
    · have hrefresh : ∀ {t c}, t ≤ l.mLastUpdate →
          c = .getByEmail task.mEmail ∨ c = .getByCustomer customerId →
            ((working config timeZone).next w (.runTask call)).server.Remembers t c :=
        fun ht hc => .refresh (congrArg mEmailCustomerIds hserver)
          (congrArg mGdtEntriesByEmails hserver) ht (.inr hc)
      rw [hout]
      refine ⟨?_, ?_⟩
      · simp [Throttled, timedCalls]
      · simp only [timedCalls, timeOf, List.map_cons, List.map_nil, List.forall_mem_cons,
          List.not_mem_nil, false_implies, implies_true, and_true]
        exact ⟨⟨.inl rfl, hrefresh (by omega) (.inl rfl)⟩,
          .inr (.inl rfl), hrefresh hl (.inr rfl)⟩
  | _ => exact ⟨.nil, nofun⟩

end

/-! ### Runs -/

/-- What the cache remembers is not asked for again too early in the whole run. -/
theorem lt_of_mem_refreshTimes {events : List WorkingEvent} :
    ∀ {w : Working} {t : ℤ} {c : DbCall}, w.server.Remembers t c →
      (∀ e ∈ events, e.isLoad = false) → (∀ e ∈ events, e.InOrder) →
        (∀ e ∈ events, ∀ t' ∈ e.readings, t ≤ t') →
          (working config timeZone).Always (Refreshes config timeZone) w events →
            ∀ p ∈ refreshTimes config timeZone w events,
              p.2 = c → config.minCacheTimeout < p.1 - t := by
  induction events with
  | nil => intro w t c _ _ _ _ _ p hp; cases hp
  | cons e events ih =>
    intro w t c hw hload horder ht hcond p hp
    rw [List.forall_mem_cons] at hload horder ht
    obtain ⟨hcall, hnext⟩ := hw.next hload.1 horder.1 ht.1 hcond.1
    rcases List.mem_append.mp hp with hp | hp
    · exact hcall p hp
    · exact ih hnext hload.2 horder.2 ht.2 hcond.2 p hp

/-- **Refreshes are throttled.**  Between two loads, in every run with a clock that does not go
back, if every refresh that asks the database finds a customer, whose entries can be read and whose
cached list may be updated, then it is asked for the same email, and for the entries of the same
customer, at most once in any `minCacheTimeout` seconds. -/
theorem throttled_of_run (config : Config) (timeZone : TimeZone) (w : Working)
    (events : List WorkingEvent) (hload : ∀ e ∈ events, e.isLoad = false)
    (hclock : Clocked events)
    (hcond : (working config timeZone).Always (Refreshes config timeZone) w events) :
    Throttled config.minCacheTimeout (refreshTimes config timeZone w events) := by
  induction events generalizing w with
  | nil => exact .nil
  | cons e events ih =>
    obtain ⟨horder, hsorted⟩ := hclock
    rw [List.forall_mem_cons] at hload horder
    rw [List.pairwise_cons] at hsorted
    obtain ⟨hstep, hcalls⟩ := remembers_timedCalls horder.1 hcond.1
    -- two calls of the step, two later ones, or one of the step and a later one
    refine List.pairwise_append.mpr ⟨hstep,
      ih _ hload.2 ⟨horder.2, hsorted.2⟩ hcond.2, fun p hp p' hp' => ?_⟩
    obtain ⟨hread, hremembers⟩ := hcalls p hp
    exact lt_of_mem_refreshTimes hremembers hload.2 horder.2
      (fun e' he' => hsorted.1 e' he' p.1 hread) hcond.2 p' hp'

/-! ### Two emails of one customer -/

/-- A database with one customer, who has every email. -/
def sharedCustomer : Database :=
  { Tables.answer .ascii ⟨[], []⟩ with contactsByEmail := fun _ => ⟨[7], none⟩ }

theorem getByEmail_sharedCustomer {email : String} (h : email.isEmpty = false) :
    Customer.getByEmail email sharedCustomer = .ok 7 := by
  unfold Customer.getByEmail
  rw [h]
  rfl

theorem gdtEntriesByCustomer_sharedCustomer (customerId : ℤ) :
    (sharedCustomer.gdtEntriesByCustomer customerId).rows = [] := rfl

/-- The worker takes a task and runs it. -/
def takeAndRun (now : ℤ) : List WorkingEvent :=
  [.takeTask, .runTask ⟨sharedCustomer, now, ⟨now, fun _ => now⟩⟩]

/-- A request for the sum of an email. -/
def ask (email : String) (now : ℤ) : WorkingEvent :=
  .serve ⟨now, "0.1", by decide, true⟩ (.sum email)

/-- Bob is asked for, and again when his list is old enough. -/
theorem throttled_of_bob :
    Throttled 10 (refreshTimes {} (fun _ => 0) .new
      (ask "bob@example.org" 20 :: takeAndRun 20
        ++ ask "bob@example.org" 31 :: takeAndRun 31)) := by
  refine throttled_of_run {} (fun _ => 0) .new _ (by decide) ?_ ?_
  · simp [Clocked, ask, takeAndRun, WorkingEvent.InOrder, WorkingEvent.readings,
      gdtEntriesByCustomer_sharedCustomer]
  · refine ⟨trivial, trivial, ?_, trivial, trivial, ?_, trivial⟩
    · intro task _ hempty _
      exact ⟨7, getByEmail_sharedCustomer hempty, by decide, ⟨_, rfl⟩, fun l hl => by cases hl⟩
    · intro task _ hempty _
      refine ⟨7, getByEmail_sharedCustomer hempty, by decide, ⟨_, rfl⟩, fun l hl => ?_⟩
      obtain rfl := Option.some.inj (Option.some.inj hl)
      rfl

/-- Bob and Al are the same customer: the customer's entries are queried twice at the same time. -/
theorem refreshTimes_not_throttled :
    ¬ ∀ (config : Config) (timeZone : TimeZone) (before events : List WorkingEvent),
      (∀ e ∈ events, e.isLoad = false) → Clocked events →
        Throttled config.minCacheTimeout (refreshTimes config timeZone
          ((working config timeZone).run .new before) events) := by
  intro h
  have hcalls := h {} (fun _ => 0)
    [.initializeFromDb sharedCustomer ⟨0, fun _ => 0⟩ 0]
    (ask "bob@example.org" 20 :: takeAndRun 20 ++ ask "al@example.org" 20 :: takeAndRun 20)
    (by decide)
    (by simp [Clocked, ask, takeAndRun, WorkingEvent.InOrder, WorkingEvent.readings,
      gdtEntriesByCustomer_sharedCustomer])
  have htimes : refreshTimes {} (fun _ => 0) ((working {} fun _ => 0).run .new
        [.initializeFromDb sharedCustomer ⟨0, fun _ => 0⟩ 0])
      (ask "bob@example.org" 20 :: takeAndRun 20 ++ ask "al@example.org" 20 :: takeAndRun 20)
        = [(20, .getByEmail "bob@example.org"), (20, .getByCustomer 7),
          (20, .getByEmail "al@example.org"), (20, .getByCustomer 7)] := by
    rfl
  rw [htimes] at hcalls
  simp [Throttled] at hcalls

end GdtCache.CacheServer
