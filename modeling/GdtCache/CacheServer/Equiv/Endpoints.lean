import GdtCache.BackgroundTasks.Equiv.UpdateGdtEntryList
import GdtCache.CacheServer.Account
import GdtCache.CacheServer.Equiv.Run

/-!
# The two endpoints agree

Both handlers look an email up in the same way and decide alike whether it is to be refreshed
(`listPerEmailApi_server`).  Both tell the sum of its account, and write it with the number
formatter they share, or by hand for an email without a list.  So the literal is the same, whenever
they answer.

Neither answers if it has to make a task for an email that is too short or too long for one, and
short emails do get into the cache (`endpoints_agree_not`).
-/

namespace GdtCache.CacheServer

open GdtCache.Model GdtCache.Mysql GdtCache.View

/-! ### The responses around the sum -/

/-- A response of `listPerEmailApi` with the given literals. -/
def listResponse (count gdtEntries gdtSum timeUsed : String) : String :=
  "\x7b\"state\":\"success\",\"count\":" ++ count ++ ",\"gdtEntries\":[" ++ gdtEntries
    ++ "],\"gdtSum\":" ++ gdtSum ++ ",\"timeUsed\":" ++ timeUsed ++ "\x7d"

/-- A response of `sumPerEmailApi` with the given literals. -/
def sumResponse (sum time : String) : String :=
  "\x7b\"state\":\"success\",\"sum\":" ++ sum ++ ",\"time\":" ++ time ++ "\x7d"

/-- A page is replaced by the size error. -/
def Replaced (c : Circumstances) (page count : Int32) (order : OrderDirections)
    (account : Account) : Prop :=
  outputBufferSize < (account.page c.timeUsed page count order).utf8ByteSize

/-- What `listPerEmailApi` writes between the brackets of `gdtEntries`. -/
def entriesText (account : Account) (page count : Int32) (order : OrderDirections) : String :=
  ",".intercalate
    ((View.GdtEntryList.pageEntries account.entries page count order).map View.toJsonString)

theorem page_eq_listResponse (account : Account) (timeUsed : String) (page count : Int32)
    (order : OrderDirections) :
    account.page timeUsed page count order
      = listResponse (toString account.count) (entriesText account page count order)
          (stringWithoutTrailingZeros account.sum) timeUsed := by
  have hhead : "\x7b\"state\":\"success\",\"count\":"
      = "\x7b" ++ "\"state\":\"success\"," ++ "\"count\":" := by decide
  have hentries : ",\"gdtEntries\":[" = "," ++ "\"gdtEntries\":[" := by decide
  have htime : ",\"timeUsed\":" = "," ++ "\"timeUsed\":" := by decide
  unfold Account.page View.GdtEntryList.toJsonString listResponse entriesText
  rw [hhead, hentries, htime]
  simp only [GdtEntryList.getGdtEntries, GdtEntryList.getTotalCount, GdtEntryList.getGdtSum,
    String.append_assoc]

section

variable {config : Config} {c c' : Circumstances} {email : String} {s : CacheServer}

/-- The page of an email, unless it is replaced. -/
theorem listPerEmailApi_response (hlocked : c.locked = true) {page count : Int32}
    {order : OrderDirections} (hfits : ¬ Replaced c page count order (s.account email)) :
    (s.listPerEmailApi config c email page count order).1
      = .ok ((s.account email).page c.timeUsed page count order) := by
  unfold Replaced at hfits
  have hserve := serve_response config c (.list email page count order) s
  have hrespond : respond c (.list email page count order) (s.account email)
      = .ok (checkOverflow count ((s.account email).page c.timeUsed page count order)) :=
    if_pos hlocked
  rw [checkOverflow, if_neg hfits] at hrespond
  exact hserve.trans hrespond

theorem sumPerEmailApi_response (hlocked : c.locked = true) :
    (s.sumPerEmailApi config c email).1
      = .ok (sumResponse (stringWithoutTrailingZeros (s.account email).sum) c.timeUsed) :=
  (serve_response config c (.sum email) s).trans (if_pos hlocked)

/-- **The decision to refresh is the same.** -/
theorem listPerEmailApi_server (hlocked : c.locked = true) (hlocked' : c'.locked = true)
    (hnow : c'.now = c.now) (page count : Int32) (order : OrderDirections) :
    (s.listPerEmailApi config c' email page count order).2
      = (s.sumPerEmailApi config c email).2 := by
  unfold listPerEmailApi sumPerEmailApi
  rw [if_pos hlocked, if_pos hlocked', hnow]
  cases s.gdtEntryList email with
  | none => rfl
  | some l => rfl

/-- A handler that answers. -/
theorem served_eq_serve {request : ApiRequest} (h : s.refreshDue config c.now request.email = true →
    2 ≤ request.email.utf8ByteSize ∧ request.email.utf8ByteSize ≤ 2 ^ 31 + 1) :
    s.served config c request = some (s.serve config c request) := by
  obtain ⟨answer, hanswer⟩ := Option.isSome_iff_exists.mp (served_isSome_iff.mpr fun _ => h)
  rw [hanswer, eq_of_served hanswer]

end

/-- Both handlers answer: `sumPerEmailApi` with a literal, and `listPerEmailApi` with the same one
in every response that is not replaced by the size error, whatever the number formatter has written
before; and both push the same tasks, none or one for this email. -/
def EndpointsAgree (config : Config) (c c' : Circumstances) (email : String) (s : CacheServer) :
    Prop :=
  ∃ sum s', (∀ buffer, (writeNumber buffer (s.account email).sum).1 = sum) ∧
    s.served config c (.sum email) = some (.ok (sumResponse sum c.timeUsed), s') ∧
    (∀ page count order, ∃ response,
      s.served config c' (.list email page count order) = some (response, s') ∧
        (¬ Replaced c' page count order (s.account email) →
          response = .ok (listResponse (toString (s.account email).count)
            (entriesText (s.account email) page count order) sum c'.timeUsed))) ∧
    (s' = s ∨ s' = s.pushTask email)

/-- **When the endpoints agree.**  In every state of the cache and for every email, when both
handlers get the lock at the same time of the clock, they agree if and only if no refresh of the
email is due, or it has from two to `2 ^ 31 + 1` bytes. -/
theorem endpoints_agree_iff (config : Config) (c c' : Circumstances) (email : String)
    (s : CacheServer) (hlocked : c.locked = true) (hlocked' : c'.locked = true)
    (hnow : c'.now = c.now) :
    EndpointsAgree config c c' email s ↔
      (s.refreshDue config c.now email = true →
        2 ≤ email.utf8ByteSize ∧ email.utf8ByteSize ≤ 2 ^ 31 + 1) := by
  constructor
  · rintro ⟨sum, s', -, hsum, -⟩
    have hsome : (s.served config c (.sum email)).isSome = true := by
      rw [hsum]
      rfl
    exact served_isSome_iff.mp hsome hlocked
  · intro h
    have hlist : ∀ page count order, s.served config c' (.list email page count order)
        = some (s.serve config c' (.list email page count order)) := by
      intro page count order
      refine served_eq_serve ?_
      rw [hnow]
      exact h
    refine ⟨stringWithoutTrailingZeros (s.account email).sum, (s.sumPerEmailApi config c email).2,
      fun buffer => writeNumber_fst buffer _, ?_, fun page count order => ?_,
      serve_server config c (.sum email) s⟩
    · have hserve : s.serve config c (.sum email) = s.sumPerEmailApi config c email := rfl
      rw [served_eq_serve h, hserve, ← sumPerEmailApi_response hlocked]
    · refine ⟨(s.listPerEmailApi config c' email page count order).1, ?_, fun hfits => ?_⟩
      · rw [hlist, ← listPerEmailApi_server hlocked hlocked' hnow page count order]
        rfl
      · rw [listPerEmailApi_response hlocked' hfits, page_eq_listResponse]

/-- Bob has a list that may be updated. -/
theorem endpoints_agree_bob :
    let c : Circumstances := ⟨100, "0.1", by decide, true⟩
    let s := (machine {} fun _ => 0).run new [.loadFromDb (bobTables.answer .ascii) ⟨0, fun _ => 0⟩]
    s.refreshDue {} 100 "bob@example.org" = true ∧
      EndpointsAgree {} c c "bob@example.org" s := by
  intro c s
  exact ⟨by decide +kernel, (endpoints_agree_iff {} c c "bob@example.org" s rfl rfl rfl).mpr
    fun _ => ⟨by decide, by decide⟩⟩

/-- A table with a contact whose email is too short, and with an entry of that customer. -/
def shortTables : Tables :=
  ⟨[⟨"a", 7⟩], [bobRow 1 7 1]⟩

/-- As soon as the list of the contact `a` may be updated, neither handler answers. -/
theorem endpoints_agree_not :
    ¬ ∀ (config : Config) (timeZone : TimeZone) (actions : List Action) (c c' : Circumstances)
      (email : String), c.locked = true → c'.locked = true → c'.now = c.now →
        EndpointsAgree config c c' email ((machine config timeZone).run new actions) := by
  intro h
  let c : Circumstances := ⟨100, "0.1", by decide, true⟩
  obtain ⟨sum, s', -, hsum, -⟩ := h {} (fun _ => 0)
    [.initializeFromDb (shortTables.answer .ascii) ⟨0, fun _ => 0⟩ 0] c c "a" rfl rfl rfl
  have hnone : (((machine {} fun _ => 0).run new
      [.initializeFromDb (shortTables.answer .ascii) ⟨0, fun _ => 0⟩ 0]).served {} c
        (.sum "a")).isSome = false := by decide +kernel
  rw [hsum] at hnone
  cases hnone

end GdtCache.CacheServer
