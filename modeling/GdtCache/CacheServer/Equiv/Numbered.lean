import GdtCache.CacheServer.Numbered
import GdtCache.Lib.UnorderedMap

/-!
# What is served does not go back in time

Whatever is assigned was read by the same thread after everything that is stored was read, since
only one thread ever assigns anything and it assigns each result before it runs the next query
(`Numbered.Inv`).  So the states that stored values were read from never go back
(`stored_never_older`).
-/

namespace GdtCache.CacheServer

open GdtCache.Lib GdtCache.Model GdtCache.Mysql

variable {config : Config} {timeZone : TimeZone} {states : ℕ → Database}

/-! ### Reading from a state -/

/-- In this state the email belongs to the customer. -/
def IdAt (connection : Database) (email : String) (customerId : ℤ) : Prop :=
  Customer.getByEmail email connection = .ok customerId ∨
    ∃ ids, Customer.getAll connection = .ok ids ∧ ids.lookup email = some customerId

/-- In this state the customer has the list. -/
def ListAt (timeZone : TimeZone) (connection : Database) (customerId : ℤ)
    (list : GdtEntryListPtr) : Prop :=
  ∃ clock, Mysql.GdtEntry.getByCustomer timeZone clock customerId connection = .ok list ∨
    ∃ lists, Mysql.GdtEntry.getAll timeZone clock connection = .ok lists ∧
      lists.lookup customerId = some list

/-- A query that has not failed has been answered from the state. -/
theorem ok_of_elim {α : Type} {query : Database → Except Exception α} {connection : Database}
    {failure : Option Exception} {a : α} (hlost : ∀ ex, query (lost ex) ≠ .ok a)
    (h : query (failure.elim connection lost) = .ok a) : query connection = .ok a := by
  cases failure with
  | none => exact h
  | some ex => exact absurd h (hlost ex)

theorem getByEmail_lost {email : String} {ex : Exception} {customerId : ℤ}
    (hne : customerId ≠ 0) :
    Customer.getByEmail email (lost ex) ≠ .ok customerId := by
  unfold Customer.getByEmail
  split_ifs
  · -- an empty email is told apart without a query
    intro h
    exact hne (Except.ok.inj h).symm
  · exact nofun

/-! ### The invariant -/

namespace Numbered

/-- What is to be assigned was read from a state that is not older than those of the values it
replaces. -/
def Pending (timeZone : TimeZone) (states : ℕ → Database) (w : Numbered) : WorkPosition → Prop
  | .assignContacts _ ids state => state ≤ w.dbState ∧ (∀ email, w.idState email ≤ state) ∧
    Customer.getAll (states state) = .ok ids
  | .assignLists _ lists state => state ≤ w.dbState ∧
    (∀ customerId, w.listState customerId ≤ state) ∧
    ∃ clock, Mysql.GdtEntry.getAll timeZone clock (states state) = .ok lists
  | .assignCustomer email customerId state => state ≤ w.dbState ∧ w.idState email ≤ state ∧
    Customer.getByEmail email (states state) = .ok customerId
  | .assignList customerId list state => state ≤ w.dbState ∧ w.listState customerId ≤ state ∧
    ∃ clock, Mysql.GdtEntry.getByCustomer timeZone clock customerId (states state) = .ok list
  | _ => True

/-- What holds between any two steps. -/
structure Inv (timeZone : TimeZone) (states : ℕ → Database) (w : Numbered) : Prop where
  idState_le : ∀ email, w.idState email ≤ w.dbState
  listState_le : ∀ customerId, w.listState customerId ≤ w.dbState
  ids : ∀ email customerId, w.server.mEmailCustomerIds.lookup email = some customerId →
    IdAt (states (w.idState email)) email customerId
  lists : ∀ customerId list, w.server.mGdtEntriesByEmails.lookup customerId = some list →
    ListAt timeZone (states (w.listState customerId)) customerId list
  pending : Pending timeZone states w w.position

/-- From `w` to `w'` nothing stored goes back to an older state. -/
def Before (w w' : Numbered) : Prop :=
  (∀ email, w.idState email ≤ w'.idState email) ∧
    ∀ customerId, w.listState customerId ≤ w'.listState customerId

theorem Before.refl (w : Numbered) : w.Before w :=
  ⟨fun _ => le_rfl, fun _ => le_rfl⟩

theorem Before.trans {w w' w'' : Numbered} (h : w.Before w') (h' : w'.Before w'') :
    w.Before w'' :=
  ⟨fun email => (h.1 email).trans (h'.1 email),
    fun customerId => (h.2 customerId).trans (h'.2 customerId)⟩

section

variable {w w' : Numbered}

theorem Inv.new : Inv timeZone states .new :=
  ⟨fun _ => le_rfl, fun _ => le_rfl, nofun, nofun, trivial⟩

/-- A step that assigns nothing. -/
theorem Inv.keep (h : w.Inv timeZone states)
    (hids : w'.server.mEmailCustomerIds = w.server.mEmailCustomerIds)
    (hlists : w'.server.mGdtEntriesByEmails = w.server.mGdtEntriesByEmails)
    (hidState : w'.idState = w.idState) (hlistState : w'.listState = w.listState)
    (hdbState : w.dbState ≤ w'.dbState) (hpending : Pending timeZone states w' w'.position) :
    w'.Inv timeZone states ∧ w.Before w' := by
  obtain ⟨hidLe, hlistLe, hid, hlist, -⟩ := h
  rw [← hids, ← hidState] at hid
  rw [← hlists, ← hlistState] at hlist
  rw [← hidState] at hidLe
  rw [← hlistState] at hlistLe
  exact ⟨⟨fun email => (hidLe email).trans hdbState,
    fun customerId => (hlistLe customerId).trans hdbState, hid, hlist, hpending⟩,
    fun email => (congrFun hidState email).ge,
    fun customerId => (congrFun hlistState customerId).ge⟩

/-- Only the position changes, and nothing is to be assigned there. -/
theorem Inv.move (h : w.Inv timeZone states) {position : WorkPosition}
    (hpending : Pending timeZone states w position) :
    ({ w with position := position }).Inv timeZone states ∧
      w.Before { w with position := position } := by
  refine h.keep rfl rfl rfl rfl le_rfl ?_
  cases position <;> exact hpending

theorem Inv.loadThrows (h : w.Inv timeZone states) (caller : LoadCaller) :
    (w.loadThrows caller).Inv timeZone states ∧ w.Before (w.loadThrows caller) := by
  cases caller with
  | initializeFromDb => exact h.keep rfl rfl rfl rfl le_rfl trivial
  | reloadCacheAfterTimeout now => exact h.keep rfl rfl rfl rfl le_rfl trivial

theorem Inv.loadReturns (h : w.Inv timeZone states) (now : ℤ) (caller : LoadCaller) :
    (w.loadReturns now caller).Inv timeZone states ∧ w.Before (w.loadReturns now caller) := by
  cases caller with
  | initializeFromDb => exact h.keep rfl rfl rfl rfl le_rfl trivial
  | reloadCacheAfterTimeout _ => exact h.keep rfl rfl rfl rfl le_rfl trivial

/-! ### Assignments -/

theorem Inv.assignContacts (h : w.Inv timeZone states) {caller : LoadCaller}
    {ids : UnorderedMap String ℤ} {state : ℕ}
    (hpending : Pending timeZone states w (.assignContacts caller ids state)) :
    let w' := { w with
      server := { w.server with mEmailCustomerIds := ids }
      idState := fun _ => state
      position := .queryLists caller }
    w'.Inv timeZone states ∧ w.Before w' := by
  obtain ⟨hstate, hle, hgetAll⟩ := hpending
  exact ⟨⟨fun _ => hstate, h.listState_le, fun email customerId hid => .inr ⟨ids, hgetAll, hid⟩,
    h.lists, trivial⟩, hle, fun _ => le_rfl⟩

theorem Inv.assignLists (h : w.Inv timeZone states) {caller : LoadCaller}
    {lists : EmailGdtEntriesListMap} {state : ℕ}
    (hpending : Pending timeZone states w (.assignLists caller lists state)) :
    let w' := { w with
      server := { w.server with mGdtEntriesByEmails := lists }
      listState := fun _ => state
      position := .idle }
    w'.Inv timeZone states ∧ w.Before w' := by
  obtain ⟨hstate, hle, clock, hgetAll⟩ := hpending
  exact ⟨⟨h.idState_le, fun _ => hstate, h.ids,
    fun customerId list hlist => ⟨clock, .inr ⟨lists, hgetAll, hlist⟩⟩, trivial⟩,
    fun _ => le_rfl, hle⟩

theorem le_update {κ : Type} [DecidableEq κ] {f : κ → ℕ} {k : κ} {n : ℕ} (h : f k ≤ n) (k' : κ) :
    f k' ≤ Function.update f k n k' := by
  rcases eq_or_ne k' k with rfl | hk
  · rwa [Function.update_self]
  · rw [Function.update_of_ne hk]

theorem update_le {κ : Type} [DecidableEq κ] {f : κ → ℕ} {k : κ} {n m : ℕ} (hf : ∀ k, f k ≤ m)
    (hn : n ≤ m) (k' : κ) : Function.update f k n k' ≤ m := by
  rcases eq_or_ne k' k with rfl | hk
  · rwa [Function.update_self]
  · rw [Function.update_of_ne hk]
    exact hf k'

theorem Inv.assignCustomer (h : w.Inv timeZone states) {email : String} {customerId : ℤ}
    {state : ℕ} (hpending : Pending timeZone states w (.assignCustomer email customerId state)) :
    let w' := { w with
      server := { w.server with
        mEmailCustomerIds := w.server.mEmailCustomerIds.upsert email customerId }
      idState := Function.update w.idState email state
      position := .queryList customerId }
    w'.Inv timeZone states ∧ w.Before w' := by
  obtain ⟨hstate, hle, hid⟩ := hpending
  refine ⟨⟨update_le h.idState_le hstate, h.listState_le, fun email' customerId' hid' => ?_,
    h.lists, trivial⟩, le_update hle, fun _ => le_rfl⟩
  simp only [UnorderedMap.upsert_eq_assign, UnorderedMap.lookup_assign] at hid'
  split_ifs at hid' with hemail
  · obtain rfl := Option.some.inj hid'
    subst hemail
    simp only [Function.update_self]
    exact .inl hid
  · simp only [Function.update_of_ne hemail]
    exact h.ids email' customerId' hid'

theorem Inv.assignList (h : w.Inv timeZone states) {customerId : ℤ} {list : GdtEntryListPtr}
    {state : ℕ} (hpending : Pending timeZone states w (.assignList customerId list state)) :
    let w' := { w with
      server := { w.server with
        mGdtEntriesByEmails := w.server.mGdtEntriesByEmails.upsert customerId list }
      listState := Function.update w.listState customerId state
      position := .idle }
    w'.Inv timeZone states ∧ w.Before w' := by
  obtain ⟨hstate, hle, clock, hlist⟩ := hpending
  refine ⟨⟨h.idState_le, update_le h.listState_le hstate, h.ids, fun customerId' list' hlist' => ?_,
    trivial⟩, fun _ => le_rfl, le_update hle⟩
  simp only [UnorderedMap.upsert_eq_assign, UnorderedMap.lookup_assign] at hlist'
  split_ifs at hlist' with hcustomer
  · obtain rfl := Option.some.inj hlist'
    subst hcustomer
    simp only [Function.update_self]
    exact ⟨clock, .inl hlist⟩
  · simp only [Function.update_of_ne hcustomer]
    exact h.lists customerId' list' hlist'

/-! ### Steps -/

/-- The thread does what comes next. -/
theorem Inv.step (h : w.Inv timeZone states) (failure : Option Exception)
    (clock : Mysql.GdtEntry.Clock) (now : ℤ) :
    (w.step timeZone (failure.elim (states w.dbState) lost) clock now).Inv timeZone states ∧
      w.Before (w.step timeZone (failure.elim (states w.dbState) lost) clock now) := by
  have hpending := h.pending
  unfold Numbered.step
  cases hposition : w.position with
  | queryContacts caller =>
    simp only
    cases hids : Customer.getAll (failure.elim (states w.dbState) lost) with
    | error ex => exact h.loadThrows caller
    | ok ids =>
      -- everything stored has been read by now
      exact h.move ⟨le_rfl, h.idState_le, ok_of_elim nofun hids⟩
  | assignContacts caller ids state =>
    rw [hposition] at hpending
    exact h.assignContacts hpending
  | queryLists caller =>
    simp only
    cases hlists : Mysql.GdtEntry.getAll timeZone clock (failure.elim (states w.dbState) lost) with
    | error ex => exact h.loadThrows caller
    | ok lists => exact h.move ⟨le_rfl, h.listState_le, clock, ok_of_elim nofun hlists⟩
  | assignLists caller lists state =>
    rw [hposition] at hpending
    obtain ⟨hinv, hbefore⟩ := h.assignLists hpending
    obtain ⟨hinv', hbefore'⟩ := hinv.loadReturns now caller
    cases caller with
    | initializeFromDb => exact ⟨hinv', hbefore.trans hbefore'⟩
    | reloadCacheAfterTimeout _ => exact ⟨hinv', hbefore.trans hbefore'⟩
  | queryCustomer email =>
    simp only
    cases hid : Customer.getByEmail email (failure.elim (states w.dbState) lost) with
    | error ex => exact h.move trivial
    | ok customerId =>
      simp only
      split_ifs with hzero
      · exact h.move trivial
      · exact h.move ⟨le_rfl, h.idState_le email,
          ok_of_elim (fun _ => getByEmail_lost hzero) hid⟩
  | assignCustomer email customerId state =>
    rw [hposition] at hpending
    exact h.assignCustomer hpending
  | queryList customerId =>
    simp only
    cases hlist : Mysql.GdtEntry.getByCustomer timeZone clock customerId
        (failure.elim (states w.dbState) lost) with
    | error ex => exact h.move trivial
    | ok list => exact h.move ⟨le_rfl, h.listState_le customerId, clock, ok_of_elim nofun hlist⟩
  | assignList customerId list state =>
    rw [hposition] at hpending
    exact h.assignList hpending
  | _ => exact ⟨h, .refl w⟩

/-- **Step.** -/
theorem Inv.next (h : w.Inv timeZone states) (e : NumberedEvent) :
    ((numbered config timeZone states).next w e).Inv timeZone states ∧
      w.Before ((numbered config timeZone states).next w e) := by
  show (w.next config timeZone states e).Inv timeZone states ∧
    w.Before (w.next config timeZone states e)
  have hsame : w.Inv timeZone states ∧ w.Before w := ⟨h, .refl w⟩
  cases e with
  | databaseChanges =>
    refine h.keep rfl rfl rfl rfl (Nat.le_succ _) ?_
    -- what is to be assigned was read before
    have hpending := h.pending
    show Pending timeZone states { w with dbState := w.dbState + 1 } w.position
    cases hposition : w.position with
    | assignContacts caller ids state =>
      rw [hposition] at hpending
      exact ⟨Nat.le_succ_of_le hpending.1, hpending.2⟩
    | assignLists caller lists state =>
      rw [hposition] at hpending
      exact ⟨Nat.le_succ_of_le hpending.1, hpending.2⟩
    | assignCustomer email customerId state =>
      rw [hposition] at hpending
      exact ⟨Nat.le_succ_of_le hpending.1, hpending.2⟩
    | assignList customerId list state =>
      rw [hposition] at hpending
      exact ⟨Nat.le_succ_of_le hpending.1, hpending.2⟩
    | _ => trivial
  | initializeFromDb =>
    rw [Numbered.next]
    split
    · exact h.move trivial
    · exact hsame
  | run now lockFree =>
    rw [Numbered.next]
    split
    · split_ifs
      · exact h.move trivial
      · exact hsame
    · exact hsame
  | runTask email now =>
    rw [Numbered.next]
    split
    · split_ifs
      · exact hsame
      · exact h.move trivial
    · exact hsame
  | step failure clock now => exact h.step failure clock now

end

/-! ### Runs -/

/-- **Run.** -/
theorem inv_run (config : Config) (timeZone : TimeZone) (states : ℕ → Database)
    (events : List NumberedEvent) :
    ((numbered config timeZone states).run .new events).Inv timeZone states :=
  Machine.run_induction .new fun e _ _ h => (h.next e).1

theorem before_run {w : Numbered} (h : w.Inv timeZone states) (events : List NumberedEvent) :
    w.Before ((numbered config timeZone states).run w events) := by
  have hboth : ((numbered config timeZone states).run w events).Inv timeZone states ∧
      w.Before ((numbered config timeZone states).run w events) := by
    refine Machine.run_induction (I := fun w' => w'.Inv timeZone states ∧ w.Before w')
      ⟨h, .refl w⟩ fun e _ w' hw' => ?_
    have hnext : ((numbered config timeZone states).next w' e).Inv timeZone states ∧
        w'.Before ((numbered config timeZone states).next w' e) := hw'.1.next e
    exact ⟨hnext.1, hw'.2.trans hnext.2⟩
  exact hboth.2

/-! ### The calls -/

/-- Between two calls, and at the end, the thread does nothing. -/
theorem run_steps_of_rest {w : Numbered} (hrest : w.position = .idle ∨ w.position = .ended)
    (now : ℤ) (clock : Mysql.GdtEntry.Clock) (n : ℕ) :
    (numbered config timeZone states).run w (List.replicate n (.step none clock now)) = w := by
  have hstep : w.step timeZone (states w.dbState) clock now = w := by
    rw [Numbered.step]
    rcases hrest with hrest | hrest
    · rw [hrest]
    · rw [hrest]
  induction n with
  | zero => rfl
  | succ n ih =>
    show (numbered config timeZone states).run (w.step timeZone (states w.dbState) clock now)
      (List.replicate n (.step none clock now)) = w
    rw [hstep, ih]

theorem run_steps_succ (w : Numbered) (now : ℤ) (clock : Mysql.GdtEntry.Clock) (n : ℕ) :
    (numbered config timeZone states).run w (List.replicate (n + 1) (.step none clock now))
      = (numbered config timeZone states).run (w.step timeZone (states w.dbState) clock now)
          (List.replicate n (.step none clock now)) := rfl

/-- While the database stays as it is and answers, the steps of a refresh are `reloadGdtEntry`. -/
theorem run_reloadGdtEntry (config : Config) (timeZone : TimeZone) (states : ℕ → Database)
    {w : Numbered} (hidle : w.position = .idle) {email : String} (hemail : email.isEmpty = false)
    (now : ℤ) (clock : Mysql.GdtEntry.Clock) :
    ((numbered config timeZone states).run w (.runTask email now ::
        List.replicate 4 (.step none clock now))).server
      = (w.server.reloadGdtEntry config timeZone ⟨states w.dbState, email, now, clock⟩).2 := by
  have hnext : (w.next config timeZone states (.runTask email now))
      = if w.server.isFresh config ⟨states w.dbState, email, now, clock⟩ then w
        else { w with position := .queryCustomer email } := by
    rw [Numbered.next, hidle, hemail, Bool.false_or]
    rfl
  show ((numbered config timeZone states).run (w.next config timeZone states (.runTask email now))
    (List.replicate 4 (.step none clock now))).server = _
  rw [hnext, reloadGdtEntry]
  split_ifs with hfresh
  · rw [run_steps_of_rest (.inl hidle)]
  · rw [run_steps_succ, Numbered.step]
    simp only
    cases Customer.getByEmail email (states w.dbState) with
    | error ex => rw [run_steps_of_rest (.inl rfl)]
    | ok customerId =>
      simp only
      split_ifs with hzero
      · rw [run_steps_of_rest (.inl rfl)]
      · rw [run_steps_succ, run_steps_succ, Numbered.step, Numbered.step]
        simp only
        cases Mysql.GdtEntry.getByCustomer timeZone clock customerId (states w.dbState) with
        | error ex => rw [run_steps_of_rest (.inl rfl)]
        | ok list => rfl

/-- And the steps of a load are `loadFromDb`, but for the time stamp. -/
theorem run_loadFromDb (config : Config) (timeZone : TimeZone) (states : ℕ → Database)
    {w : Numbered} {caller : LoadCaller} (hposition : w.position = .queryContacts caller)
    (now : ℤ) (clock : Mysql.GdtEntry.Clock) :
    ∃ t, ((numbered config timeZone states).run w (List.replicate 4 (.step none clock now))).server
      = { (w.server.loadFromDb timeZone (states w.dbState) clock).2 with
          mLastUpdateGdtEntries := t } := by
  rw [run_steps_succ, Numbered.step, hposition, loadFromDb]
  simp only
  cases Customer.getAll (states w.dbState) with
  | error ex =>
    cases caller with
    | initializeFromDb =>
      refine ⟨w.server.mLastUpdateGdtEntries, ?_⟩
      rw [run_steps_of_rest (.inr rfl)]
      rfl
    | reloadCacheAfterTimeout t =>
      refine ⟨t, ?_⟩
      rw [run_steps_of_rest (.inl rfl)]
      rfl
  | ok ids =>
    rw [run_steps_succ, run_steps_succ, Numbered.step, Numbered.step]
    simp only
    cases Mysql.GdtEntry.getAll timeZone clock (states w.dbState) with
    | error ex =>
      cases caller with
      | initializeFromDb =>
        refine ⟨w.server.mLastUpdateGdtEntries, ?_⟩
        rw [run_steps_of_rest (.inr rfl)]
        rfl
      | reloadCacheAfterTimeout t =>
        refine ⟨t, ?_⟩
        rw [run_steps_of_rest (.inl rfl)]
        rfl
    | ok lists =>
      cases caller with
      | initializeFromDb => exact ⟨now, rfl⟩
      | reloadCacheAfterTimeout t => exact ⟨_, rfl⟩

end Numbered

/-- **What is served does not go back in time.**  In every run, whatever is stored for an email or a
customer at two points of the run, it was read at the later one from a state of the database that is
not older than the one it was read from at the earlier one. -/
theorem stored_never_older (config : Config) (timeZone : TimeZone) (states : ℕ → Database)
    (before after : List NumberedEvent) :
    let w := (numbered config timeZone states).run .new before
    let w' := (numbered config timeZone states).run .new (before ++ after)
    (∀ customerId list list', w.server.mGdtEntriesByEmails.lookup customerId = some list →
      w'.server.mGdtEntriesByEmails.lookup customerId = some list' →
        w.listState customerId ≤ w'.listState customerId ∧
          ListAt timeZone (states (w.listState customerId)) customerId list ∧
          ListAt timeZone (states (w'.listState customerId)) customerId list') ∧
    ∀ email customerId customerId', w.server.mEmailCustomerIds.lookup email = some customerId →
      w'.server.mEmailCustomerIds.lookup email = some customerId' →
        w.idState email ≤ w'.idState email ∧
          IdAt (states (w.idState email)) email customerId ∧
          IdAt (states (w'.idState email)) email customerId' := by
  intro w w'
  have hw : w.Inv timeZone states := Numbered.inv_run config timeZone states before
  have hw' : w'.Inv timeZone states := Numbered.inv_run config timeZone states (before ++ after)
  have hsplit : w' = (numbered config timeZone states).run w after :=
    Machine.run_append _ _ _
  have hbefore : w.Before w' := by
    rw [hsplit]
    exact Numbered.before_run hw after
  exact ⟨fun customerId list list' hlist hlist' => ⟨hbefore.2 customerId,
      hw.lists customerId list hlist, hw'.lists customerId list' hlist'⟩,
    fun email customerId customerId' hid hid' => ⟨hbefore.1 email,
      hw.ids email customerId hid, hw'.ids email customerId' hid'⟩⟩

end GdtCache.CacheServer
