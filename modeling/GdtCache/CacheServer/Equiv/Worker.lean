import GdtCache.CacheServer.Equiv.ReloadCacheAfterTimeout
import GdtCache.CacheServer.Equiv.ReloadGdtEntry
import GdtCache.CacheServer.Worker

/-!
# Which emails reach the database

A request only pushes an email that matches the pattern or is a key of the email map
(`serve_cases`), and a key only gets into the map with a load or with the refresh of an email that
was pushed.  So the pattern and the contacts table vouch for everything in the map, in the queue and
in the worker's hand (`Working.Inv`), and for every email the database is asked about
(`vetted_of_run`).
-/

namespace GdtCache.CacheServer

open GdtCache.Lib GdtCache.Model GdtCache.Mysql

variable {config : Config} {timeZone : TimeZone}

/-! ### Calls -/

/-- Two databases answer a call alike. -/
def DbCall.Agrees (connection connection' : Database) : DbCall → Prop
  | getAll _ => connection'.contacts = connection.contacts
  | getByEmail email => connection'.contactsByEmail email = connection.contactsByEmail email
  | getByCustomer customerId =>
    connection'.gdtEntriesByCustomer customerId = connection.gdtEntriesByCustomer customerId

/-- **All calls are shown**: what a refresh does only depends on how the database answers them. -/
theorem reloadGdtEntry_of_agrees {call : RefreshCall} {connection' : Database} {s : CacheServer}
    (h : ∀ c ∈ s.refreshCalls config call, c.Agrees call.connection connection') :
    s.reloadGdtEntry config timeZone { call with connection := connection' }
      = s.reloadGdtEntry config timeZone call := by
  unfold reloadGdtEntry
  unfold refreshCalls at h
  have hfresh : s.isFresh config { call with connection := connection' } = s.isFresh config call :=
    rfl
  rw [hfresh]
  split_ifs at h ⊢ with hskip
  · rfl
  · -- the contact query is made in any case
    have hemail : connection'.contactsByEmail call.email
        = call.connection.contactsByEmail call.email := by
      refine h (.getByEmail call.email) ?_
      cases Customer.getByEmail call.email call.connection with
      | error ex => exact List.mem_singleton_self _
      | ok customerId =>
        simp only
        split_ifs
        · exact List.mem_singleton_self _
        · exact List.mem_cons_self
    have hid : Customer.getByEmail call.email connection'
        = Customer.getByEmail call.email call.connection := by
      rw [Customer.getByEmail, Customer.getByEmail, hemail]
    simp only [hid]
    cases hcustomer : Customer.getByEmail call.email call.connection with
    | error ex => rfl
    | ok customerId =>
      simp only
      split_ifs with hzero
      · rfl
      · rw [hcustomer] at h
        simp only [if_neg hzero] at h
        have hentries : connection'.gdtEntriesByCustomer customerId
            = call.connection.gdtEntriesByCustomer customerId :=
          h (.getByCustomer customerId) (by simp)
        rw [Mysql.GdtEntry.getByCustomer, Mysql.GdtEntry.getByCustomer, hentries]

/-! ### Vetted emails -/

/-- The email matches the pattern, or a load has returned it. -/
def Vetted (calls : List (List DbCall)) (email : String) : Prop :=
  emailValid email = true ∨
    ∃ step ∈ calls, ∃ ids, DbCall.getAll ids ∈ step ∧ email ∈ ids

theorem Vetted.append {calls : List (List DbCall)} {email : String} (h : Vetted calls email)
    (step : List DbCall) : Vetted (calls ++ [step]) email := by
  rcases h with hvalid | ⟨step', hstep', hids⟩
  · exact .inl hvalid
  · exact .inr ⟨step', List.mem_append_left _ hstep', hids⟩

/-- A load without any step in between its halves. -/
theorem loadEntries_loadContacts {connection : Database} {ids : UnorderedMap String ℤ}
    (hids : Customer.getAll connection = .ok ids) (clock : Mysql.GdtEntry.Clock)
    (s : CacheServer) :
    (s.loadContacts connection).loadEntries timeZone connection clock
      = (s.loadFromDb timeZone connection clock).2 := by
  rw [loadContacts, loadEntries, CacheServer.loadFromDb, hids]
  cases Mysql.GdtEntry.getAll timeZone clock connection with
  | error ex => rfl
  | ok lists => rfl

/-- What a load that returned a map vouches for. -/
theorem vetted_of_getAll {connection : Database} {ids : UnorderedMap String ℤ}
    (hids : Customer.getAll connection = .ok ids) (calls : List (List DbCall)) {email : String}
    (hemail : email ∈ ids) : Vetted (calls ++ [loadCalls connection]) email := by
  refine .inr ⟨loadCalls connection, by simp, ids, ?_, hemail⟩
  rw [loadCalls, hids]
  exact List.mem_singleton_self _

/-! ### Steps -/

/-- What holds between any two steps, of a state and of all calls so far. -/
structure Working.Inv (w : Working) (calls : List (List DbCall)) : Prop where
  keys : ∀ email ∈ w.server.mEmailCustomerIds, Vetted calls email
  queue : ∀ task ∈ w.server.mUpdateCacheWorker.mTasks, Vetted calls task.mEmail
  task : ∀ task, w.task = some task → Vetted calls task.mEmail

namespace Working.Inv

variable {w : Working} {calls : List (List DbCall)}

theorem append (h : w.Inv calls) (step : List DbCall) : w.Inv (calls ++ [step]) :=
  ⟨fun email hemail => (h.keys email hemail).append step,
    fun task htask => (h.queue task htask).append step,
    fun task htask => (h.task task htask).append step⟩

/-- Another list under a customer, or another time stamp, does not matter. -/
theorem congr (h : w.Inv calls) {s : CacheServer}
    (hids : s.mEmailCustomerIds = w.server.mEmailCustomerIds)
    (hworker : s.mUpdateCacheWorker = w.server.mUpdateCacheWorker) :
    Working.Inv ⟨s, w.task⟩ calls := by
  obtain ⟨hkeys, hqueue, htask⟩ := h
  rw [← hids] at hkeys
  rw [← hworker] at hqueue
  exact ⟨hkeys, hqueue, htask⟩

/-- A load assigns a map it vouches for. -/
theorem load (h : w.Inv calls) {connection : Database} {ids : UnorderedMap String ℤ}
    (hids : Customer.getAll connection = .ok ids) {s : CacheServer}
    (hs : s.mEmailCustomerIds = ids)
    (hworker : s.mUpdateCacheWorker = w.server.mUpdateCacheWorker) :
    Working.Inv ⟨s, w.task⟩ (calls ++ [loadCalls connection]) := by
  have happend := h.append (loadCalls connection)
  refine ⟨fun email hemail => ?_, ?_, happend.task⟩
  · have hemail : email ∈ s.mEmailCustomerIds := hemail
    rw [hs] at hemail
    exact vetted_of_getAll hids calls hemail
  · show ∀ task ∈ s.mUpdateCacheWorker.mTasks, _
    rw [hworker]
    exact happend.queue

theorem loadFromDb (h : w.Inv calls) (timeZone : TimeZone) (connection : Database)
    (clock : Mysql.GdtEntry.Clock) :
    Working.Inv ⟨(w.server.loadFromDb timeZone connection clock).2, w.task⟩
      (calls ++ [loadCalls connection]) := by
  rcases loadFromDb_cases timeZone connection clock w.server with
      ⟨ex, -, heq⟩ | ⟨ids, ex, hids, -, heq⟩ | ⟨ids, lists, hids, -, heq⟩
  · rw [heq]
    exact h.append _
  · rw [heq]
    exact h.load hids rfl rfl
  · rw [heq]
    exact h.load hids rfl rfl

theorem serve (h : w.Inv calls) (c : Circumstances) (request : ApiRequest) :
    Working.Inv ⟨(w.server.serve config c request).2, w.task⟩ calls := by
  rcases serve_cases config c request w.server with heq | ⟨heq, hemail⟩
  · rw [heq]
    exact h
  · rw [heq]
    refine ⟨h.keys, fun task htask => ?_, h.task⟩
    rcases List.mem_append.mp htask with htask | htask
    · exact h.queue task htask
    · -- the pushed email matches the pattern, or is a key
      obtain rfl := List.mem_singleton.mp htask
      exact hemail.elim .inl (h.keys _)

theorem takeTask (h : w.Inv calls) : w.takeTask.Inv calls := by
  unfold Working.takeTask
  split
  · next task tasks htask hqueue =>
    have hall := h.queue
    rw [hqueue] at hall
    refine ⟨h.keys, fun task' htask' => hall task' (List.mem_cons_of_mem _ htask'), ?_⟩
    rintro _ ⟨⟩
    exact hall task List.mem_cons_self
  · exact h

/-- The refresh of a vetted email maps no other email. -/
theorem reloadGdtEntry (h : w.Inv calls) {call : RefreshCall} (hemail : Vetted calls call.email) :
    Working.Inv ⟨(w.server.reloadGdtEntry config timeZone call).2, none⟩ calls := by
  have hassign : ∀ (customerId : ℤ) (email : String),
      email ∈ w.server.mEmailCustomerIds.assign call.email customerId → Vetted calls email := by
    intro customerId email hmem
    rcases Finmap.mem_insert.mp hmem with rfl | hmem
    · exact hemail
    · exact h.keys email hmem
  rcases reloadGdtEntry_cases config timeZone call w.server with
      ⟨-, heq⟩ | ⟨ex, -, heq⟩ | ⟨-, heq⟩ | ⟨id, ex, -, -, -, heq⟩ | ⟨id, list, -, -, -, heq⟩
  · rw [heq]
    exact ⟨h.keys, h.queue, nofun⟩
  · rw [heq]
    exact ⟨h.keys, h.queue, nofun⟩
  · rw [heq]
    exact ⟨h.keys, h.queue, nofun⟩
  · rw [heq]
    exact ⟨hassign id, h.queue, nofun⟩
  · rw [heq]
    exact ⟨hassign id, h.queue, nofun⟩

theorem runTask (h : w.Inv calls) {task : UpdateGdtEntryList} (htask : w.task = some task)
    (call : TaskCall) : Working.Inv ⟨task.run config timeZone call w.server, none⟩ calls := by
  unfold UpdateGdtEntryList.run
  split_ifs
  · exact ⟨h.keys, h.queue, nofun⟩
  · exact h.reloadGdtEntry (h.task task htask)

/-- **Step.** -/
theorem next (h : w.Inv calls) (e : WorkingEvent) :
    Working.Inv ((working config timeZone).next w e)
      (calls ++ [(working config timeZone).out w e]) := by
  cases e with
  | serve c request => exact (h.serve c request).append _
  | initializeFromDb connection clock now =>
    have hload := h.loadFromDb timeZone connection clock
    show Working.Inv ⟨(w.server.initializeFromDb timeZone connection clock now).2, w.task⟩ _
    rw [initializeFromDb]
    generalize w.server.loadFromDb timeZone connection clock = result at hload
    rcases result with ⟨ex | _, s⟩
    · exact hload
    · exact hload.congr rfl rfl
  | reloadCacheAfterTimeout call =>
    have hload := h.loadFromDb timeZone call.connection call.clock
    show Working.Inv ⟨(w.server.reloadCacheAfterTimeout config timeZone call).server, w.task⟩
      (calls ++ [if (w.server.reloadCacheAfterTimeout config timeZone call).loadStart.isSome then
        loadCalls call.connection else []])
    rcases reloadCacheAfterTimeout_cases config timeZone call w.server with
        ⟨-, heq⟩ | ⟨-, -, heq⟩ | ⟨-, -, -, heq⟩ | ⟨-, -, -, heq⟩
    · rw [heq]
      exact h.append _
    · rw [heq]
      exact h.append _
    · rw [heq]
      exact hload.congr rfl rfl
    · rw [heq]
      exact hload
  | loadContacts connection =>
    show Working.Inv ⟨w.server.loadContacts connection, w.task⟩ (calls ++ [loadCalls connection])
    rw [loadContacts]
    cases hids : Customer.getAll connection with
    | error ex => exact h.append _
    | ok ids => exact h.load hids rfl rfl
  | loadEntries connection clock =>
    show Working.Inv ⟨w.server.loadEntries timeZone connection clock, w.task⟩ (calls ++ [[]])
    rw [loadEntries]
    cases Mysql.GdtEntry.getAll timeZone clock connection with
    | error ex => exact h.append _
    | ok lists =>
      have hlists := h.congr (s := { w.server with mGdtEntriesByEmails := lists }) rfl rfl
      exact hlists.append _
  | takeTask => exact h.takeTask.append _
  | runTask call =>
    simp only [working]
    cases htask : w.task with
    | none => exact h.append _
    | some task => exact (h.runTask htask call).append _

end Working.Inv

/-! ### Runs -/

/-- **Run.** -/
theorem Working.inv_run (config : Config) (timeZone : TimeZone) (events : List WorkingEvent) :
    ((working config timeZone).run .new events).Inv
      ((working config timeZone).outputs .new events) :=
  Machine.run_outputs_induction ⟨nofun, nofun, nofun⟩ fun e _ _ _ h => h.next e

/-- A refresh only asks for its own email. -/
theorem email_of_mem_refreshCalls {call : RefreshCall} {s : CacheServer} {email : String}
    (h : .getByEmail email ∈ s.refreshCalls config call) : email = call.email := by
  unfold refreshCalls at h
  split_ifs at h
  · cases h
  · split at h
    · simpa using h
    · split_ifs at h
      · simpa using h
      · simpa using h

/-- A load asks for no email. -/
theorem getByEmail_not_mem_loadCalls (connection : Database) (email : String) :
    .getByEmail email ∉ loadCalls connection := by
  unfold loadCalls
  split
  · exact List.not_mem_nil
  · simp

/-- **Only vetted emails reach the database.**  In every run, every key of the email map and every
email the next step passes to `getByEmail` either matches the pattern or is a key of a map a load
has returned before. -/
theorem vetted_of_run (config : Config) (timeZone : TimeZone) (events : List WorkingEvent) :
    let w := (working config timeZone).run .new events
    let calls := (working config timeZone).outputs .new events
    (∀ email ∈ w.server.mEmailCustomerIds, Vetted calls email) ∧
      ∀ e email, .getByEmail email ∈ (working config timeZone).out w e → Vetted calls email := by
  intro w calls
  have hinv : w.Inv calls := Working.inv_run config timeZone events
  refine ⟨hinv.keys, fun e email hemail => ?_⟩
  cases e with
  | initializeFromDb connection clock now =>
    exact absurd hemail (getByEmail_not_mem_loadCalls connection email)
  | reloadCacheAfterTimeout call =>
    have hemail : _ ∈ (if (w.server.reloadCacheAfterTimeout config timeZone call).loadStart.isSome
      then loadCalls call.connection else []) := hemail
    split_ifs at hemail
    · exact absurd hemail (getByEmail_not_mem_loadCalls call.connection email)
    · cases hemail
  | loadContacts connection => exact absurd hemail (getByEmail_not_mem_loadCalls connection email)
  | runTask call =>
    simp only [working] at hemail
    cases htask : w.task with
    | none =>
      rw [htask] at hemail
      cases hemail
    | some task =>
      rw [htask] at hemail
      simp only [UpdateGdtEntryList.calls] at hemail
      split_ifs at hemail
      · cases hemail
      · rw [email_of_mem_refreshCalls hemail]
        exact hinv.task task htask
  | _ => cases hemail

end GdtCache.CacheServer
