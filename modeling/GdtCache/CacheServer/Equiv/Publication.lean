import GdtCache.CacheServer.Equiv.LoadFromDb
import GdtCache.CacheServer.Publication

/-!
# What a request sees during a load

The two steps of the load are `loadFromDb` (`run_load_load`).  A request between them reads the new
email map and the old lists, that is, it shows what the old lists hold for the new customer of the
email (`mixedAccount`).  If that is the old account of the email or its new one, for every request
in between, every response is the old one or the new one (`outputs_old_or_new`).  A load whose
second query throws leaves the mixed accounts behind (`account_of_getAll_error`).
-/

namespace GdtCache.CacheServer

open GdtCache.Lib GdtCache.Model GdtCache.Mysql

variable {config : Config} {timeZone : TimeZone} {connection : Database}
  {clock : Mysql.GdtEntry.Clock} {s : CacheServer}

/-- Without a request in between, the two steps are `loadFromDb`. -/
theorem run_load_load (s : CacheServer) :
    (loading config timeZone connection clock).run (.start s) [.load, .load]
      = ⟨(s.loadFromDb timeZone connection clock).2, .ended⟩ := by
  show (Loading.load timeZone connection clock (.start s)).load timeZone connection clock = _
  unfold loadFromDb Loading.load Loading.start
  cases hids : Customer.getAll connection with
  | error ex => rfl
  | ok ids => cases hlists : Mysql.GdtEntry.getAll timeZone clock connection <;> rfl

/-- What the old lists hold for the customer the new contacts give an email. -/
def mixedAccount (s : CacheServer) (connection : Database) (email : String) : Account :=
  (connection.owner email).elim .empty s.customerAccount

/-- The maps at each point of a load over `connection` from `s` to `s'`. -/
structure MapsAt (connection : Database) (s s' : CacheServer) (l : Loading) : Prop where
  emailCustomerIds : l.server.mEmailCustomerIds
    = (if l.point = .beforeContacts then s else s').mEmailCustomerIds
  gdtEntriesByEmails : l.server.mGdtEntriesByEmails
    = (if l.point = .ended then s' else s).mGdtEntriesByEmails
  /-- The second query runs only if the first one has returned. -/
  contacts : l.point = .beforeEntries → ∃ ids, Customer.getAll connection = .ok ids

/-- **Step.**  The maps stay what they are at each point. -/
theorem MapsAt.next {l : Loading}
    (h : MapsAt connection s (s.loadFromDb timeZone connection clock).2 l) (e : Event) :
    MapsAt connection s (s.loadFromDb timeZone connection clock).2
      ((loading config timeZone connection clock).next l e) := by
  cases e with
  | serve c request =>
    -- a handler changes neither map
    show MapsAt connection s _ { l with server := (l.server.serve config c request).2 }
    rcases serve_server config c request l.server with heq | heq
    · rw [heq]
      exact h
    · rw [heq]
      exact ⟨h.emailCustomerIds, h.gdtEntriesByEmails, h.contacts⟩
  | load =>
    show MapsAt connection s _ (l.load timeZone connection clock)
    obtain ⟨server, point⟩ := l
    unfold Loading.load
    rcases loadFromDb_cases timeZone connection clock s with
        ⟨ex, hids, heq⟩ | ⟨ids, ex, hids, hlists, heq⟩ | ⟨ids, lists, hids, hlists, heq⟩
    · rw [heq] at h ⊢
      cases point with
      | beforeContacts =>
        rw [hids]
        exact ⟨h.emailCustomerIds, h.gdtEntriesByEmails, nofun⟩
      | beforeEntries =>
        obtain ⟨ids, hok⟩ := h.contacts rfl
        rw [hids] at hok
        cases hok
      | ended => exact h
    · rw [heq] at h ⊢
      cases point with
      | beforeContacts =>
        -- only the email map is new
        rw [hids]
        exact ⟨rfl, h.gdtEntriesByEmails, fun _ => ⟨ids, hids⟩⟩
      | beforeEntries =>
        rw [hlists]
        exact ⟨h.emailCustomerIds, h.gdtEntriesByEmails, nofun⟩
      | ended => exact h
    · rw [heq] at h ⊢
      cases point with
      | beforeContacts =>
        rw [hids]
        exact ⟨rfl, h.gdtEntriesByEmails, fun _ => ⟨ids, hids⟩⟩
      | beforeEntries =>
        rw [hlists]
        exact ⟨h.emailCustomerIds, rfl, nofun⟩
      | ended => exact h

/-- **Run.** -/
theorem mapsAt_run (events : List Event) :
    MapsAt connection s (s.loadFromDb timeZone connection clock).2
      ((loading config timeZone connection clock).run (.start s) events) :=
  Machine.run_induction ⟨rfl, rfl, nofun⟩ fun e _ _ hl => hl.next e

/-- Once the contacts query has returned, the email map is that of the new contacts. -/
theorem lookup_mEmailCustomerIds {ids : UnorderedMap String ℤ}
    (hids : Customer.getAll connection = .ok ids) (email : String) :
    (s.loadFromDb timeZone connection clock).2.mEmailCustomerIds.lookup email
      = connection.owner email := by
  have hlookup : ids.lookup email = connection.owner email := Customer.lookup_of_getAll hids email
  rcases loadFromDb_cases timeZone connection clock s with
      ⟨ex, hids', -⟩ | ⟨ids', ex, hids', -, heq⟩ | ⟨ids', lists, hids', -, heq⟩
  · rw [hids] at hids'
    cases hids'
  · rw [hids] at hids'
    cases hids'
    rw [heq]
    exact hlookup
  · rw [hids] at hids'
    cases hids'
    rw [heq]
    exact hlookup

/-- What is read at each point: the old account, the mixed one, the one the load leaves. -/
theorem MapsAt.account {l : Loading}
    (h : MapsAt connection s (s.loadFromDb timeZone connection clock).2 l) (email : String) :
    l.server.account email = match l.point with
      | .beforeContacts => s.account email
      | .beforeEntries => mixedAccount s connection email
      | .ended => (s.loadFromDb timeZone connection clock).2.account email := by
  obtain ⟨hemails, hentries, hcontacts⟩ := h
  have hcustomer : ∀ customerId, l.server.customerAccount customerId
      = (if l.point = .ended then (s.loadFromDb timeZone connection clock).2
          else s).customerAccount customerId := by
    intro customerId
    unfold customerAccount
    rw [hentries]
  rw [account_eq, hemails, funext hcustomer]
  cases hpoint : l.point with
  | beforeContacts => exact (account_eq s email).symm
  | beforeEntries =>
    obtain ⟨ids, hids⟩ := hcontacts hpoint
    show ((s.loadFromDb timeZone connection clock).2.mEmailCustomerIds.lookup email).elim .empty
      s.customerAccount = _
    rw [lookup_mEmailCustomerIds hids, mixedAccount]
  | ended => exact (account_eq _ email).symm

/-- A load whose second query throws leaves the mixed account behind. -/
theorem account_of_getAll_error {ids : UnorderedMap String ℤ} {ex : Exception}
    (hids : Customer.getAll connection = .ok ids)
    (heq : s.loadFromDb timeZone connection clock
      = (.error ex, { s with mEmailCustomerIds := ids })) (email : String) :
    (s.loadFromDb timeZone connection clock).2.account email = mixedAccount s connection email := by
  rw [account_eq, lookup_mEmailCustomerIds hids, heq, mixedAccount]
  rfl

/-- **When a reload looks atomic.**  If every request between the two assignments is for an email
whose new customer has, in the old lists, the account the email had or the one it gets, then in any
order of steps every response is the one before the load or the one after it, whether the load
returns or throws. -/
theorem outputs_old_or_new (s : CacheServer) (events : List Event)
    (hbetween : ∀ pre c request post, events = pre ++ .serve c request :: post →
      ((loading config timeZone connection clock).run (.start s) pre).point = .beforeEntries →
        mixedAccount s connection request.email = s.account request.email ∨
          mixedAccount s connection request.email = connection.account timeZone request.email) :
    ∀ p ∈ events.zip ((loading config timeZone connection clock).outputs (.start s) events),
      ∀ c request, p.1 = .serve c request →
        p.2 = some (s.serve config c request).1 ∨
          p.2 = some ((s.loadFromDb timeZone connection clock).2.serve config c request).1 := by
  intro p hp c request hrequest
  -- the response is shown from the state the events before it lead to
  obtain ⟨pre, post, hsplit, hout⟩ := Machine.exists_split_of_mem_zip hp
  rw [hrequest] at hsplit hout
  have hmaps := @mapsAt_run config timeZone connection clock s pre
  have haccount := hmaps.account request.email
  have hresponse : p.2 = some (respond c request
      (((loading config timeZone connection clock).run (.start s) pre).server.account
        request.email)) := by
    rw [hout, ← serve_response config]
    rfl
  rw [hresponse, haccount, serve_response, serve_response]
  cases hpoint : ((loading config timeZone connection clock).run (.start s) pre).point with
  | beforeContacts => exact .inl rfl
  | beforeEntries =>
    obtain ⟨ids, hids⟩ := hmaps.contacts hpoint
    rcases loadFromDb_cases timeZone connection clock s with
        ⟨ex, hids', -⟩ | ⟨ids', ex, hids', -, heq⟩ | ⟨ids', lists, -, -, heq⟩
    · rw [hids] at hids'
      cases hids'
    · exact .inr (by rw [account_of_getAll_error hids' heq])
    · have hnew := account_of_loadFromDb heq request.email
      rcases hbetween pre c request post hsplit hpoint with hsame | hsame
      · exact .inl (by rw [hsame])
      · exact .inr (by rw [hsame, heq, hnew])
  | ended => exact .inr rfl

/-- The text of a response, for comparison. -/
def responseText : Option (Except HttpError String) → String
  | some (.ok text) => text
  | _ => ""

/-- Bob moves from customer `7` to customer `8`, whose entries change: in between he is shown the
old entries of customer `8`. -/
theorem outputs_mixed :
    ¬ ∀ (config : Config) (timeZone : TimeZone) (connection : Database)
      (clock : Mysql.GdtEntry.Clock) (s s' : CacheServer) (events : List Event),
      s.loadFromDb timeZone connection clock = (.ok (), s') →
        ∀ p ∈ events.zip ((loading config timeZone connection clock).outputs (.start s) events),
          ∀ c request, p.1 = .serve c request →
            p.2 = some (s.serve config c request).1 ∨ p.2 = some (s'.serve config c request).1 := by
  intro h
  let row (id customerId : ℤ) (gdt : ℚ) : GdtEntryRow :=
    ⟨id, 100, 1663160964, "", "", "", "", "", customerId, 1, 1, 0, 1, gdt⟩
  let old : Tables := ⟨[⟨"bob@example.org", 7⟩], [row 1 7 100, row 2 8 200]⟩
  let connection : Database :=
    (Tables.mk [⟨"bob@example.org", 8⟩] [row 1 7 100, row 2 8 200, row 3 8 100]).answer .ascii
  let s := (new.loadFromDb (fun _ => 0) (old.answer .ascii) ⟨0, fun _ => 0⟩).2
  let c : Circumstances := ⟨20, "0.1", by decide, true⟩
  have hload : s.loadFromDb (fun _ => 0) connection ⟨20, fun _ => 20⟩
      = (.ok (), (s.loadFromDb (fun _ => 0) connection ⟨20, fun _ => 20⟩).2) := rfl
  have hresponse := h {} (fun _ => 0) connection ⟨20, fun _ => 20⟩ s _
    [.load, .serve c (.sum "bob@example.org"), .load] hload
    (.serve c (.sum "bob@example.org"),
      some (((loading {} (fun _ => 0) connection ⟨20, fun _ => 20⟩).run (.start s)
        [.load]).server.serve {} c (.sum "bob@example.org")).1)
    (List.mem_cons_of_mem _ List.mem_cons_self) c (.sum "bob@example.org") rfl
  -- the sums are 2 in between, 1 before and 3 after
  rcases hresponse with hold | hnew
  · exact absurd (congrArg responseText hold) (by decide +kernel)
  · exact absurd (congrArg responseText hnew) (by decide +kernel)

/-- Bob keeps his customer, and is shown the old account or the new one. -/
theorem outputs_old_or_new_of_same_customer :
    let row (id : ℤ) : GdtEntryRow :=
      ⟨id, 100, 1663160964, "", "", "", "", "", 7, 1, 1, 0, 1, 100⟩
    let old : Tables := ⟨[⟨"bob@example.org", 7⟩], [row 1]⟩
    let connection : Database := (Tables.mk [⟨"bob@example.org", 7⟩] [row 1, row 2]).answer .ascii
    let s := (new.loadFromDb (fun _ => 0) (old.answer .ascii) ⟨0, fun _ => 0⟩).2
    let s' := (s.loadFromDb (fun _ => 0) connection ⟨20, fun _ => 20⟩).2
    let c : Circumstances := ⟨20, "0.1", by decide, true⟩
    let request : ApiRequest := .sum "bob@example.org"
    let events : List Event := [.load, .serve c request, .load]
    ∀ p ∈ events.zip
        ((loading {} (fun _ => 0) connection ⟨20, fun _ => 20⟩).outputs (.start s) events),
      p.1 = .serve c request →
        p.2 = some (s.serve {} c request).1 ∨ p.2 = some (s'.serve {} c request).1 := by
  intro row old connection s s' c request events p hp hrequest
  have hsame : mixedAccount s connection "bob@example.org" = s.account "bob@example.org" := by
    decide +kernel
  refine outputs_old_or_new s events ?_ p hp c request hrequest
  intro pre c' request' post hsplit _
  have hmem : Event.serve c' request' ∈ events := by
    rw [hsplit]
    exact List.mem_append_right pre List.mem_cons_self
  simp only [events, List.mem_cons, List.not_mem_nil, or_false, reduceCtorEq, false_or,
    Event.serve.injEq] at hmem
  obtain ⟨-, rfl⟩ := hmem
  exact .inl hsame

end GdtCache.CacheServer
