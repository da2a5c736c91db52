import GdtCache.CacheServer.Equiv.ReloadCacheAfterTimeout
import GdtCache.CacheServer.Equiv.ReloadGdtEntry
import GdtCache.CacheServer.Run

/-!
# What the cache stores, in every run

A list gets into the cache in two ways only: with the rows of one customer that a full load has
read, or with the rows of a refresh (`Action.Delivers`).  One call stores nothing else
(`lookup_next`), and so in every run every stored list was delivered by one of the calls
(`exists_delivers`).  All that the store keeps follows from that (`run_store`).

A refresh reads its rows to their end or throws.  A load takes a lost connection for their end, so
what it delivers is whole only if it keeps its connection (`run_store_partial`).
-/

namespace GdtCache.CacheServer

open GdtCache.Lib GdtCache.Model GdtCache.Mysql

variable {config : Config} {timeZone : TimeZone}

/-! ### Where lists come from -/

/-- The full load over `connection` delivers `p` for a customer. -/
def LoadDelivers (timeZone : TimeZone) (connection : Database) (clock : Mysql.GdtEntry.Clock)
    (customerId : ℤ) (p : GdtEntryListPtr) : Prop :=
  connection.gdtEntries.failure = none ∧
    p = some (Mysql.GdtEntry.fill timeZone clock 0
      (connection.gdtEntries.rows.filter fun row => row.customer_id = customerId))

/-- The call delivers `p` for a customer. -/
def Action.Delivers (timeZone : TimeZone) (customerId : ℤ) (p : GdtEntryListPtr) : Action → Prop
  | .serve _ _ => False
  | .loadFromDb connection clock => LoadDelivers timeZone connection clock customerId p
  | .initializeFromDb connection clock _ => LoadDelivers timeZone connection clock customerId p
  | .reloadCacheAfterTimeout call =>
    LoadDelivers timeZone call.connection call.clock customerId p
  | .reloadGdtEntry call =>
    (call.connection.gdtEntriesByCustomer customerId).failure = none ∧
      p = some (Mysql.GdtEntry.fill timeZone call.clock call.clock.created
        (call.connection.gdtEntriesByCustomer customerId).rows)

/-- After a load, a stored list is an old one or delivered by the load. -/
theorem lookup_loadFromDb {connection : Database} {clock : Mysql.GdtEntry.Clock} {s : CacheServer}
    {customerId : ℤ} {p : GdtEntryListPtr}
    (h : (s.loadFromDb timeZone connection clock).2.mGdtEntriesByEmails.lookup customerId
      = some p) :
    s.mGdtEntriesByEmails.lookup customerId = some p ∨
      LoadDelivers timeZone connection clock customerId p := by
  rcases loadFromDb_cases timeZone connection clock s with
      ⟨ex, -, heq⟩ | ⟨ids, ex, -, -, heq⟩ | ⟨ids, lists, -, hlists, heq⟩
  -- a load that throws leaves all lists where they are
  · rw [heq] at h
    exact .inl h
  · rw [heq] at h
    exact .inl h
  · rw [heq] at h
    right
    refine ⟨Mysql.GdtEntry.failure_of_getAll hlists, ?_⟩
    have hlookup := Mysql.GdtEntry.lookup_of_getAll hlists 0 customerId
    rw [show lists.lookup customerId = some p from h] at hlookup
    split_ifs at hlookup with hnil
    exact Option.some.inj hlookup

/-- **Step.**  After a call, a stored list is an old one or delivered by the call. -/
theorem lookup_next {s : CacheServer} {a : Action} {customerId : ℤ} {p : GdtEntryListPtr}
    (h : ((machine config timeZone).next s a).mGdtEntriesByEmails.lookup customerId = some p) :
    s.mGdtEntriesByEmails.lookup customerId = some p ∨ a.Delivers timeZone customerId p := by
  cases a with
  | serve c request =>
    left
    have hserve := serve_server config c request s
    have hnext : (machine config timeZone).next s (.serve c request)
        = (s.serve config c request).2 := rfl
    rw [hnext] at h
    rcases hserve with heq | heq
    · rwa [heq] at h
    · rwa [heq] at h
  | loadFromDb connection clock => exact lookup_loadFromDb h
  | initializeFromDb connection clock now =>
    have hmap : (s.initializeFromDb timeZone connection clock now).2.mGdtEntriesByEmails
        = (s.loadFromDb timeZone connection clock).2.mGdtEntriesByEmails := by
      unfold initializeFromDb
      rcases s.loadFromDb timeZone connection clock with ⟨_ | _, s'⟩ <;> rfl
    exact lookup_loadFromDb (hmap ▸ h)
  | reloadCacheAfterTimeout call =>
    have hnext : (machine config timeZone).next s (.reloadCacheAfterTimeout call)
        = (s.reloadCacheAfterTimeout config timeZone call).server := rfl
    rw [hnext] at h
    rcases reloadCacheAfterTimeout_cases config timeZone call s with
        ⟨-, heq⟩ | ⟨-, -, heq⟩ | ⟨-, -, -, heq⟩ | ⟨-, -, -, heq⟩
    · exact .inl (by rwa [heq] at h)
    · exact .inl (by rwa [heq] at h)
    · exact lookup_loadFromDb (by rwa [heq] at h)
    · exact lookup_loadFromDb (by rwa [heq] at h)
  | reloadGdtEntry call =>
    have hnext : (machine config timeZone).next s (.reloadGdtEntry call)
        = (s.reloadGdtEntry config timeZone call).2 := rfl
    rw [hnext] at h
    rcases reloadGdtEntry_cases config timeZone call s with
        ⟨-, heq⟩ | ⟨ex, -, heq⟩ | ⟨-, heq⟩ | ⟨id, ex, -, -, -, heq⟩ |
        ⟨id, list, -, -, hlist, heq⟩
    · exact .inl (by rwa [heq] at h)
    · exact .inl (by rwa [heq] at h)
    · exact .inl (by rwa [heq] at h)
    · exact .inl (by rwa [heq] at h)
    · -- the one branch that stores a list
      rw [heq] at h
      have hassign : (s.mGdtEntriesByEmails.assign id list).lookup customerId = some p := h
      rw [UnorderedMap.lookup_assign] at hassign
      split_ifs at hassign with hid
      · subst hid
        obtain ⟨hfill, hfailure⟩ := Mysql.GdtEntry.getByCustomer_eq_ok_iff.mp hlist
        exact .inr ⟨hfailure, by rw [hfill]; exact (Option.some.inj hassign).symm⟩
      · exact .inl hassign

/-- **Run.**  In every run from start-up, every stored list was delivered by one of the calls. -/
theorem exists_delivers {actions : List Action} {customerId : ℤ} {p : GdtEntryListPtr}
    (h : ((machine config timeZone).run new actions).mGdtEntriesByEmails.lookup customerId
      = some p) : ∃ a ∈ actions, a.Delivers timeZone customerId p := by
  -- the invariant speaks of all customers at once
  have hrun := @Machine.run_induction _ _ _ (machine config timeZone)
    (fun s => ∀ customerId p, s.mGdtEntriesByEmails.lookup customerId = some p →
      ∃ a ∈ actions, a.Delivers timeZone customerId p) new actions
  refine hrun ?_ ?_ customerId p h
  · -- nothing is stored at the start
    intro customerId p h
    cases h
  · intro a ha s ih customerId p h
    rcases lookup_next h with hold | hnew
    · exact ih customerId p hold
    · exact ⟨a, ha, hnew⟩

/-! ### What the store keeps -/

/-- Both queries give their rows by date, and the one for a customer only that customer's. -/
structure Orderly (connection : Database) : Prop where
  all : connection.gdtEntries.rows.Pairwise fun row row' => row.date ≤ row'.date
  byCustomer : ∀ customerId, (connection.gdtEntriesByCustomer customerId).rows.Pairwise
    fun row row' => row.date ≤ row'.date
  own : ∀ customerId, ∀ row ∈ (connection.gdtEntriesByCustomer customerId).rows,
    row.customer_id = customerId

theorem map_gdtEntriesByCustomer {β : Type} {f : GdtEntryRow → β}
    (hf : ∀ row text, f (row.withTexts text) = f row) (collation : Sql.Collation) (tables : Tables)
    (customerId : ℤ) :
    ((tables.answer collation).gdtEntriesByCustomer customerId).rows.map f
      = (tables.gdt_entries.filter fun row => row.customer_id = customerId).map f :=
  map_fetchRows hf _ _ _

/-- A server that answers in full is orderly, if the table is visited by date. -/
theorem orderly_answer (collation : Sql.Collation) {tables : Tables}
    (h : tables.gdt_entries.Pairwise fun row row' => row.date ≤ row'.date) :
    Orderly (tables.answer collation) where
  all := h
  byCustomer customerId := by
    have hsent : ((tables.gdt_entries.filter fun row => row.customer_id = customerId).map
        GdtEntryRow.date).Pairwise (· ≤ ·) := List.pairwise_map.mpr (h.filter _)
    rw [← map_gdtEntriesByCustomer (fun _ _ => rfl) collation] at hsent
    exact List.pairwise_map.mp hsent
  own customerId row hrow := by
    have hmem := List.mem_map_of_mem (f := GdtEntryRow.customer_id) hrow
    rw [map_gdtEntriesByCustomer (fun _ _ => rfl)] at hmem
    obtain ⟨row', hrow', heq⟩ := List.mem_map.mp hmem
    rw [← heq]
    simpa using (List.mem_filter.mp hrow').2

/-- The database the call meets is orderly. -/
def Action.MeetsOrderly : Action → Prop
  | .serve _ _ => True
  | .loadFromDb connection _ => Orderly connection
  | .initializeFromDb connection _ _ => Orderly connection
  | .reloadCacheAfterTimeout call => Orderly call.connection
  | .reloadGdtEntry call => Orderly call.connection

/-- Rows of one customer, by date. -/
def RowsOf (customerId : ℤ) (rows : List GdtEntryRow) : Prop :=
  rows.Pairwise (fun row row' => row.date ≤ row'.date) ∧ ∀ row ∈ rows, row.customer_id = customerId

/-- What a call delivers is a list filled with rows, and with such rows if the database was
orderly. -/
theorem Action.Delivers.exists_fill {a : Action} {customerId : ℤ} {p : GdtEntryListPtr}
    (h : a.Delivers timeZone customerId p) :
    ∃ clock created rows, p = some (Mysql.GdtEntry.fill timeZone clock created rows) ∧
      (a.MeetsOrderly → RowsOf customerId rows) := by
  have hload : ∀ {connection : Database} {clock : Mysql.GdtEntry.Clock},
      LoadDelivers timeZone connection clock customerId p →
        ∃ clock created rows, p = some (Mysql.GdtEntry.fill timeZone clock created rows) ∧
          (Orderly connection → RowsOf customerId rows) := by
    rintro connection clock ⟨-, rfl⟩
    refine ⟨clock, 0, _, rfl, fun horderly => ⟨horderly.all.filter _, fun row hrow => ?_⟩⟩
    simpa using (List.mem_filter.mp hrow).2
  cases a with
  | serve c request => exact absurd h id
  | loadFromDb connection clock => exact hload h
  | initializeFromDb connection clock now => exact hload h
  | reloadCacheAfterTimeout call => exact hload h
  | reloadGdtEntry call =>
    obtain ⟨-, rfl⟩ := h
    refine ⟨call.clock, call.clock.created, _, rfl, fun horderly => ?_⟩
    have horderly : Orderly call.connection := horderly
    exact ⟨horderly.byCustomer customerId, horderly.own customerId⟩

/-- All of a customer's rows, those that were lost included. -/
def LoadCompletes (timeZone : TimeZone) (connection : Database) (customerId : ℤ)
    (entries : List GdtEntry) : Prop :=
  connection.gdtEntries.failure = none ∧
    entries = ((connection.gdtEntries.rows ++ connection.gdtEntries.lost).filter
      fun row => row.customer_id = customerId).map (Mysql.GdtEntry.entry timeZone)

/-- All rows that were sent; their texts are as they were sent if the rows are intact. -/
def RefreshCompletes (timeZone : TimeZone) (result : StatementResult) (entries : List GdtEntry) :
    Prop :=
  result.sent.failure = none ∧ ∃ rows, entries = rows.map (Mysql.GdtEntry.entry timeZone) ∧
    rows.map (fun row => row.withTexts fun _ => "")
      = result.sent.rows.map (fun row => row.withTexts fun _ => "") ∧
    (Intact result.sent.rows → rows = result.sent.rows)

/-- The entries are those of a customer in the whole result that the call asked for: each row of it
once, in their order. -/
def Action.Completes (timeZone : TimeZone) (customerId : ℤ) (entries : List GdtEntry) :
    Action → Prop
  | .serve _ _ => False
  | .loadFromDb connection _ | .initializeFromDb connection _ _ =>
    LoadCompletes timeZone connection customerId entries
  | .reloadCacheAfterTimeout call => LoadCompletes timeZone call.connection customerId entries
  | .reloadGdtEntry call =>
    RefreshCompletes timeZone (call.connection.gdtEntriesStatement customerId) entries

/-- A load does not lose its connection before it has read all entries of the customer. -/
def Action.KeepsConnection (customerId : ℤ) : Action → Prop
  | .serve _ _ | .reloadGdtEntry _ => True
  | .loadFromDb connection _ | .initializeFromDb connection _ _ =>
    Mysql.GdtEntry.KeepsRows customerId connection
  | .reloadCacheAfterTimeout call => Mysql.GdtEntry.KeepsRows customerId call.connection

/-- What a call delivers is whole, if it keeps its connection. -/
theorem Action.Delivers.completes {a : Action} {customerId : ℤ} {l : GdtEntryList}
    (h : a.Delivers timeZone customerId (some l)) (hkeeps : a.KeepsConnection customerId) :
    a.Completes timeZone customerId l.getGdtEntries := by
  have hload : ∀ {connection : Database} {clock : Mysql.GdtEntry.Clock},
      LoadDelivers timeZone connection clock customerId (some l) →
        Mysql.GdtEntry.KeepsRows customerId connection →
          LoadCompletes timeZone connection customerId l.getGdtEntries := by
    rintro connection clock ⟨hfailure, hl⟩ hkeeps
    refine ⟨hfailure, ?_⟩
    rw [hkeeps.filter_append, Option.some.inj hl]
    exact Mysql.GdtEntry.fill_mGdtEntries 0 _
  cases a with
  | serve c request => exact absurd h id
  | loadFromDb connection clock => exact hload h hkeeps
  | initializeFromDb connection clock now => exact hload h hkeeps
  | reloadCacheAfterTimeout call => exact hload h hkeeps
  | reloadGdtEntry call =>
    obtain ⟨hfailure, hl⟩ := h
    refine ⟨hfailure, (call.connection.gdtEntriesByCustomer customerId).rows, ?_,
      map_fetchRows (fun _ _ => rfl) _ _ _, fun hintact => ?_⟩
    · rw [Option.some.inj hl]
      exact Mysql.GdtEntry.fill_mGdtEntries _ _
    · rw [Database.gdtEntriesByCustomer, StatementResult.received_of_intact hintact]

/-- What the store keeps of a list under its customer. -/
structure Stored (timeZone : TimeZone) (actions : List Action) (customerId : ℤ)
    (l : GdtEntryList) : Prop where
  own : ∀ e ∈ l.getGdtEntries, e.getCustomerId = customerId
  sorted : l.getGdtEntries.Pairwise fun e e' => e.getDate ≤ e'.getDate
  totalCount : l.getTotalCount = l.getGdtEntries.length
  gdtSum : l.getGdtSum = (l.getGdtEntries.map GdtEntry.getGdt).sum
  /-- Never a partially read result. -/
  whole : ∃ a ∈ actions, a.Completes timeZone customerId l.getGdtEntries

/-- **The store invariant**, over every run in which the loads keep their connections until they
have read the customer's entries: a stored pointer is not null, its list holds entries of its own
customer only, ordered by date, its counter and sum are right, and its entries are all those of a
result that was asked for. -/
theorem run_store (config : Config) (timeZone : TimeZone) (actions : List Action)
    (horderly : ∀ a ∈ actions, a.MeetsOrderly) (customerId : ℤ)
    (hkeeps : ∀ a ∈ actions, a.KeepsConnection customerId) (p : GdtEntryListPtr)
    (hp : ((machine config timeZone).run new actions).mGdtEntriesByEmails.lookup customerId
      = some p) :
    ∃ l, p = some l ∧ Stored timeZone actions customerId l := by
  obtain ⟨a, ha, hdelivers⟩ := exists_delivers hp
  obtain ⟨clock, created, rows, rfl, hrows⟩ := hdelivers.exists_fill
  obtain ⟨hsorted, hown⟩ := hrows (horderly a ha)
  have hentries := @Mysql.GdtEntry.fill_mGdtEntries timeZone clock created rows
  have hbuilt := @Mysql.GdtEntry.fill_built timeZone clock created rows
  refine ⟨_, rfl, ?_, ?_, hbuilt.totalCount, hbuilt.gdtSum, a, ha,
    hdelivers.completes (hkeeps a ha)⟩
  · intro e he
    have he : e ∈ (Mysql.GdtEntry.fill timeZone clock created rows).mGdtEntries := he
    rw [hentries] at he
    obtain ⟨row, hrow, rfl⟩ := List.mem_map.mp he
    exact hown row hrow
  · show (Mysql.GdtEntry.fill timeZone clock created rows).mGdtEntries.Pairwise _
    rw [hentries, List.pairwise_map]
    exact hsorted

/-! ### Two runs -/

/-- An entry of bob. -/
def bobRow (id customerId date : ℤ) : GdtEntryRow :=
  ⟨id, 100, date, "bob@example.org", "", "", "", "", customerId, 1, 1, 0, 1, 100⟩

/-- Bob has two entries, and somebody else has one. -/
def bobTables : Tables :=
  ⟨[⟨"bob@example.org", 7⟩], [bobRow 1 7 1, bobRow 2 8 2, bobRow 3 7 2]⟩

/-- A load, a request and a refresh: bob's list is his and complete. -/
theorem run_store_of_three_calls :
    let actions : List Action :=
      [.loadFromDb (bobTables.answer .ascii) ⟨0, fun _ => 0⟩,
        .serve ⟨20, "0.1", by decide, true⟩ (.sum "bob@example.org"),
        .reloadGdtEntry ⟨bobTables.answer .ascii, "bob@example.org", 20, ⟨20, fun _ => 20⟩⟩]
    ∃ l, ((machine {} fun _ => 0).run new actions).mGdtEntriesByEmails.lookup 7 = some (some l) ∧
      Stored (fun _ => 0) actions 7 l := by
  intro actions
  have htables : Orderly (bobTables.answer .ascii) := orderly_answer .ascii (by decide)
  have horderly : ∀ a ∈ actions, a.MeetsOrderly := by
    intro a ha
    simp only [actions, List.mem_cons, List.not_mem_nil, or_false] at ha
    rcases ha with rfl | rfl | rfl
    · exact htables
    · trivial
    · exact htables
  have hkeeps : ∀ a ∈ actions, a.KeepsConnection 7 := by
    intro a ha
    simp only [actions, List.mem_cons, List.not_mem_nil, or_false] at ha
    rcases ha with rfl | rfl | rfl
    · exact nofun
    · trivial
    · trivial
  have hstored :
      (((machine {} fun _ => 0).run new actions).mGdtEntriesByEmails.lookup 7).isSome = true := by
    decide +kernel
  obtain ⟨p, hp⟩ := Option.isSome_iff_exists.mp hstored
  obtain ⟨l, rfl, hl⟩ := run_store {} (fun _ => 0) actions horderly 7 hkeeps p hp
  exact ⟨l, hp, hl⟩

/-- The connection is lost at start-up, behind bob's first entry: his other one is missing. -/
theorem run_store_partial :
    ¬ ∀ (config : Config) (timeZone : TimeZone) (actions : List Action),
      (∀ a ∈ actions, a.MeetsOrderly) → ∀ (customerId : ℤ) (p : GdtEntryListPtr),
        ((machine config timeZone).run new actions).mGdtEntriesByEmails.lookup customerId = some p →
          ∃ l, p = some l ∧ Stored timeZone actions customerId l := by
  intro h
  let connection : Database :=
    { bobTables.answer .ascii with
      gdtEntries := { rows := [bobRow 1 7 1], lost := [bobRow 2 8 2, bobRow 3 7 2] } }
  let actions : List Action := [.initializeFromDb connection ⟨0, fun _ => 0⟩ 0]
  have horderly : ∀ a ∈ actions, a.MeetsOrderly := by
    intro a ha
    rw [List.mem_singleton.mp ha]
    have htables : Orderly (bobTables.answer .ascii) := orderly_answer .ascii (by decide)
    exact ⟨List.pairwise_singleton _ _, htables.byCustomer, htables.own⟩
  have hcount : (((machine {} fun _ => 0).run new actions).mGdtEntriesByEmails.lookup 7).map
      (fun p => p.map fun l => l.getGdtEntries.length) = some (some 1) := by decide +kernel
  obtain ⟨p, hp, hp'⟩ := Option.map_eq_some_iff.mp hcount
  obtain ⟨l, rfl, hl⟩ := h {} (fun _ => 0) actions horderly 7 p hp
  obtain ⟨a, ha, hcompletes⟩ := hl.whole
  rw [List.mem_singleton.mp ha] at hcompletes
  have hlength : l.getGdtEntries.length = 1 := Option.some.inj hp'
  have hwhole := congrArg List.length hcompletes.2
  rw [hlength, List.length_map] at hwhole
  exact absurd hwhole (by decide)

end GdtCache.CacheServer
