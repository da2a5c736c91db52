import GdtCache.Mysql.Equiv.Normalised
import Mathlib.Data.List.Find

/-!
# Which emails find their customer

An email the database leaves as it is, and that has no meaning as a pattern (`IsPlain`), is matched
by the contacts that are this email up to case.  The map files it under the contacts that may have
spaces around it besides, so the two ways agree unless such a contact comes first
(`agrees_iff_of_isPlain`).  Every other email misses even without spaces: there is a contact that is
matched and filed elsewhere, or filed and not matched (`exists_ne_of_not_isPlain`).

`getByEmail_agrees_iff` puts this together.
-/

namespace GdtCache.Mysql.Customer

open GdtCache.Lib

variable {collation : Sql.Collation} {email contact : String}

/-- An email that both ways take as it is. -/
structure IsPlain (collation : Sql.Collation) (email : String) : Prop where
  ne_empty : email ≠ ""
  normalised_eq : normalised collation email = email
  literal : Sql.IsLiteral email.toList

/-- A contact that is the email up to case, but for spaces around it. -/
def IsPadded (collation : Sql.Collation) (email contact : String) : Prop :=
  normalised collation contact = email ∧ Sql.lower collation contact ≠ email

/-- The customer of the first contact whose email is as asked for. -/
def firstCustomer (tables : Tables) (p : String → Bool) : Option ℤ :=
  (tables.contacts.find? fun row => p row.email).map ContactRow.customer_id

/-! ### Spaces and case -/

theorem toList_lower (collation : Sql.Collation) (text : String) :
    (Sql.lower collation text).toList = text.toList.map collation.lower :=
  String.toList_ofList

theorem sql_trim_eq_self_iff (text : String) :
    Sql.trim text = text ↔
      Trimmed (fun c => decide (c = ' ')) text.toList text.toList := by
  rw [trimmed_iff, ← String.toList_inj, Sql.trim, String.toList_ofList]

theorem sql_trim_trim (text : String) : Sql.trim (Sql.trim text) = Sql.trim text :=
  (sql_trim_eq_self_iff _).mpr
    (trimmed_self_iff.mpr ⟨(trimmed_trim text).first, (trimmed_trim text).last⟩)

/-- Nothing is trimmed off a text that stays as long. -/
theorem sql_trim_eq_self_of_length (collation : Sql.Collation) {text : String}
    (h : text.toList.length ≤ (normalised collation text).toList.length) :
    Sql.trim text = text := by
  have htrimmed := trimmed_trim text
  rw [toList_normalised, List.length_map] at h
  obtain ⟨a, b, hsplit, -, -⟩ := htrimmed.split
  have hlength := congrArg List.length hsplit
  rw [List.length_append, List.length_append] at hlength
  exact (String.toList_inj.mp (htrimmed.eq_of_length (by omega))).symm

theorem IsPlain.trim_eq (h : IsPlain collation email) : Sql.trim email = email :=
  sql_trim_eq_self_of_length collation (by rw [h.normalised_eq])

theorem IsPlain.lower_eq (h : IsPlain collation email) : Sql.lower collation email = email := by
  conv_rhs => rw [← h.normalised_eq, normalised, h.trim_eq]

/-- What is the email up to case has no spaces around it. -/
theorem IsPlain.normalised_of_lower (h : IsPlain collation email)
    (hcontact : Sql.lower collation contact = email) : normalised collation contact = email := by
  have hspace : collation.lower ' ' = ' ' := collation.lower_ascii ' ' (by decide)
  obtain ⟨hfirst, hlast⟩ := trimmed_self_iff.mp ((sql_trim_eq_self_iff email).mp h.trim_eq)
  have htrim : Sql.trim contact = contact := by
    rw [← hcontact, toList_lower] at hfirst hlast
    refine (sql_trim_eq_self_iff contact).mpr (trimmed_self_iff.mpr ⟨?_, ?_⟩)
    · intro c hc
      refine decide_eq_false fun hcspace => ?_
      have hhead := hfirst ' ' (by rw [List.head?_map, hc, hcspace, Option.map_some, hspace])
      exact absurd hhead (by decide)
    · intro c hc
      refine decide_eq_false fun hcspace => ?_
      have hend := hlast ' ' (by rw [List.getLast?_map, hc, hcspace, Option.map_some, hspace])
      exact absurd hend (by decide)
  rw [normalised, htrim, hcontact]

theorem lower_eq_of_filed (h : normalised collation contact = email) :
    Sql.lower collation email = email := by
  rw [← h]
  exact Sql.lower_lower collation _

/-- A text of blanks has no meaning as a pattern. -/
theorem isLiteral_normalised_of_blank (h : ∀ c ∈ email.toList, isTrimmed c = true) :
    Sql.IsLiteral (normalised collation email).toList := by
  have hblank : ∀ c ∈ (normalised collation email).toList, isTrimmed c = true := by
    rw [toList_normalised]
    intro c hc
    obtain ⟨d, hd, rfl⟩ := List.mem_map.mp hc
    obtain ⟨a, b, hsplit, -, -⟩ := (trimmed_trim email).split
    have hd : isTrimmed d = true := h d (by rw [hsplit]; simp [hd])
    rw [lower_of_isTrimmed collation hd, isTrimmed_toLower, hd]
  have hnot : ∀ c, isTrimmed c = false → c ∉ (normalised collation email).toList :=
    fun c hc hmem => Bool.false_ne_true (hc.symm.trans (hblank c hmem))
  exact ⟨hnot '%' rfl, hnot '_' rfl, fun hmem => hnot '\\' rfl (List.mem_of_mem_dropLast hmem)⟩

/-! ### Plain emails -/

/-- A plain email is matched by the contacts that are this email up to case. -/
theorem IsPlain.isFoundByEmail_iff (h : IsPlain collation email) (contact : String) :
    isFoundByEmail collation email contact = true ↔ Sql.lower collation contact = email := by
  have hlike : Sql.like collation contact email = true ↔ _ :=
    Sql.like_iff_of_isLiteral collation h.literal
  rw [h.lower_eq] at hlike
  simp [isFoundByEmail, h.ne_empty, h.normalised_eq, hlike]

variable {tables : Tables}

theorem agrees_iff (hids : ∀ row ∈ tables.contacts, row.customer_id ≠ 0) :
    Agrees (tables.answer collation) email ↔
      firstCustomer tables (isFoundByEmail collation email)
        = firstCustomer tables (isFiledUnder collation email) :=
  agrees_answer_iff collation tables hids email

/-- The two ways agree on a plain email if the spaces around contacts do not matter. -/
theorem agrees_iff_of_isPlain (h : IsPlain collation email)
    (hids : ∀ row ∈ tables.contacts, row.customer_id ≠ 0) :
    Agrees (tables.answer collation) email ↔
      firstCustomer tables (fun contact => Sql.lower collation contact = email)
        = firstCustomer tables (fun contact => normalised collation contact = email) := by
  have hfound : isFoundByEmail collation email =
      fun contact => Sql.lower collation contact = email :=
    funext fun contact => Bool.eq_iff_iff.mpr
      ((h.isFoundByEmail_iff contact).trans decide_eq_true_iff.symm)
  rw [agrees_iff hids, hfound]
  rfl

theorem IsPlain.agrees (h : IsPlain collation email)
    (hids : ∀ row ∈ tables.contacts, row.customer_id ≠ 0)
    (hpadded : ∀ row ∈ tables.contacts, ¬ IsPadded collation email row.email) :
    Agrees (tables.answer collation) email := by
  rw [agrees_iff_of_isPlain h hids, firstCustomer, firstCustomer]
  refine congrArg _ (List.find?_congr fun row hrow => ?_)
  have hsame : Sql.lower collation row.email = email ↔ normalised collation row.email = email :=
    ⟨h.normalised_of_lower, fun hfiled =>
      not_not.mp fun hlower => hpadded row hrow ⟨hfiled, hlower⟩⟩
  exact Bool.eq_iff_iff.mpr (by simpa using hsame)

/-! ### Other emails -/

/-- One contact is enough for the two ways to part. -/
theorem not_agrees_of_ne (h : isFoundByEmail collation email contact
      ≠ isFiledUnder collation email contact) :
    ¬ Agrees (Tables.answer collation ⟨[⟨contact, 1⟩], []⟩) email := by
  have hids : ∀ row ∈ [ContactRow.mk contact 1], row.customer_id ≠ 0 := by
    intro row hrow
    rw [List.mem_singleton.mp hrow]
    exact one_ne_zero
  have hfirst : ∀ p : String → Bool, firstCustomer ⟨[⟨contact, 1⟩], []⟩ p
      = if p contact then some 1 else none := by
    intro p
    rw [firstCustomer, List.find?_singleton]
    cases p contact <;> rfl
  rw [@agrees_iff collation email ⟨[⟨contact, 1⟩], []⟩ hids, hfirst, hfirst]
  revert h
  cases isFoundByEmail collation email contact <;> cases isFiledUnder collation email contact <;>
    simp

/-- An email that is not plain has a contact, not merely one with spaces around it, that is found
and filed elsewhere, or filed and not found. -/
theorem exists_ne_of_not_isPlain {text : String}
    (h : ¬ IsPlain collation (GdtCache.trim (toLowercase text))) :
    ∃ contact, isFoundByEmail collation (GdtCache.trim (toLowercase text)) contact
        ≠ isFiledUnder collation (GdtCache.trim (toLowercase text)) contact ∧
      ¬ IsPadded collation (GdtCache.trim (toLowercase text)) contact := by
  have hcases := trim_cases (toLowercase text)
  generalize hemail : GdtCache.trim (toLowercase text) = email at h hcases ⊢
  by_cases hempty : email = ""
  · -- a blank contact
    subst hempty
    exact ⟨"", by simp [isFoundByEmail, isFiledUnder, normalised, Sql.trim, Sql.lower],
      fun hpadded => hpadded.2 rfl⟩
  · have hne : ∀ {contact : String},
        Sql.like collation contact (normalised collation email) = true →
        normalised collation contact ≠ email →
        isFoundByEmail collation email contact ≠ isFiledUnder collation email contact ∧
          ¬ IsPadded collation email contact := by
      intro contact hlike hfiled
      refine ⟨?_, fun hpadded => hfiled hpadded.1⟩
      simp [isFoundByEmail, isFiledUnder, hempty, hlike, hfiled]
    by_cases hnormalised : normalised collation email = email
    · -- a contact that the pattern is met by
      refine ⟨Sql.sample email, hne (by rw [hnormalised]; exact Sql.like_sample collation email) ?_⟩
      intro hfiled
      refine h ⟨hempty, hnormalised, Sql.isLiteral_of_map_sample collation _ ?_⟩
      have hlength : (Sql.sample email).toList.length ≤ email.toList.length := by
        rw [Sql.sample, String.toList_ofList, List.length_map]
        exact Sql.length_tokens_le _
      have htrim : Sql.trim (Sql.sample email) = Sql.sample email :=
        sql_trim_eq_self_of_length collation (by rw [hfiled]; exact hlength)
      conv_rhs => rw [← hfiled, normalised, htrim, toList_lower, Sql.sample, String.toList_ofList]
    · by_cases htrim : Sql.trim email = email
      · -- nothing can be filed under an email that is not in lower case
        refine ⟨Sql.sample (normalised collation email), hne (Sql.like_sample collation _) ?_⟩
        intro hfiled
        refine hnormalised ?_
        rw [normalised, htrim]
        exact lower_eq_of_filed hfiled
      · -- a text of blanks
        have hblank : ∀ c ∈ email.toList, isTrimmed c = true := by
          rcases hcases with ⟨hblank, heq⟩ | ⟨htrimmed, -⟩
          · rwa [heq]
          · refine absurd ((sql_trim_eq_self_iff email).mpr (trimmed_self_iff.mpr ⟨?_, ?_⟩)) htrim
            · exact fun c hc => decide_eq_false fun hspace =>
                absurd (htrimmed.first c hc) (by rw [hspace]; decide)
            · exact fun c hc => decide_eq_false fun hspace =>
                absurd (htrimmed.last c hc) (by rw [hspace]; decide)
        refine ⟨Sql.trim email, hne ?_ ?_⟩
        · rw [Sql.like_iff_of_isLiteral collation (isLiteral_normalised_of_blank hblank),
            normalised, Sql.lower_lower]
        · rw [normalised, sql_trim_trim]
          exact hnormalised

/-- The empty email is never found. -/
theorem agrees_empty_iff (hids : ∀ row ∈ tables.contacts, row.customer_id ≠ 0) :
    Agrees (tables.answer collation) "" ↔
      ∀ row ∈ tables.contacts, normalised collation row.email ≠ "" := by
  have hnone : firstCustomer tables (isFoundByEmail collation "") = none := by
    rw [firstCustomer, Option.map_eq_none_iff, List.find?_eq_none]
    exact fun row _ => Bool.false_ne_true
  rw [agrees_iff hids, hnone, eq_comm, firstCustomer, Option.map_eq_none_iff, List.find?_eq_none]
  simp only [isFiledUnder, decide_eq_true_eq, ne_eq]

/-- **Which emails find their customer, and where.**  An email agrees on every table without padded
contacts of its own if and only if it is plain.  On a given table, a plain email agrees if and only
if the first contact that is the email up to case has the customer of the first one that is it up to
case and spaces; the empty one, if and only if no contact is blank; and any other, if and only if
the first contact it matches as a pattern has the customer of the first one that is filed under
it. -/
theorem getByEmail_agrees_iff (collation : Sql.Collation) (text : String) :
    let email := GdtCache.trim (toLowercase text)
    ((∀ tables : Tables, (∀ row ∈ tables.contacts, row.customer_id ≠ 0) →
        (∀ row ∈ tables.contacts, ¬ IsPadded collation email row.email) →
          Agrees (tables.answer collation) email) ↔ IsPlain collation email) ∧
      ∀ tables : Tables, (∀ row ∈ tables.contacts, row.customer_id ≠ 0) →
        (Agrees (tables.answer collation) email ↔
          (email = "" → ∀ row ∈ tables.contacts, normalised collation row.email ≠ "") ∧
          (IsPlain collation email →
            firstCustomer tables (fun contact => Sql.lower collation contact = email)
              = firstCustomer tables (fun contact => normalised collation contact = email)) ∧
          (email ≠ "" → ¬ IsPlain collation email →
            firstCustomer tables
                (fun contact => Sql.like collation contact (normalised collation email))
              = firstCustomer tables (fun contact => normalised collation contact = email))) := by
  intro email
  refine ⟨⟨fun h => ?_, fun h tables hids hpadded => h.agrees hids hpadded⟩,
    fun tables hids => ?_⟩
  · by_contra hplain
    obtain ⟨contact, hne, hpadded⟩ := exists_ne_of_not_isPlain hplain
    refine not_agrees_of_ne hne (h ⟨[⟨contact, 1⟩], []⟩ ?_ ?_)
    · intro row hrow
      rw [List.mem_singleton.mp hrow]
      exact one_ne_zero
    · intro row hrow
      rw [List.mem_singleton.mp hrow]
      exact hpadded
  · by_cases hempty : email = ""
    · have hplain : ¬ IsPlain collation email := fun h => h.ne_empty hempty
      rw [hempty] at hplain ⊢
      simp only [agrees_empty_iff hids, forall_const, hplain, IsEmpty.forall_iff, ne_eq,
        not_true_eq_false, and_true]
    · by_cases hplain : IsPlain collation email
      · simp only [agrees_iff_of_isPlain hplain hids, hempty, hplain, IsEmpty.forall_iff, true_and,
          forall_const, not_true_eq_false, implies_true, and_true]
      · have hfound : isFoundByEmail collation email
            = fun contact => Sql.like collation contact (normalised collation email) := by
          funext contact
          simp [isFoundByEmail, hempty]
        rw [agrees_iff hids, hfound]
        simp only [hempty, hplain, IsEmpty.forall_iff, true_and, ne_eq, not_false_eq_true,
          forall_const]
        rfl

/-- `_` is a character of emails, and as a pattern it is met by any other: the request for one
customer finds the other. -/
theorem getByEmail_disagrees :
    ¬ ∀ (collation : Sql.Collation) (tables : Tables) (text : String),
      (∀ row ∈ tables.contacts, row.customer_id ≠ 0) →
        Agrees (tables.answer collation) (GdtCache.trim (toLowercase text)) := by
  intro h
  have hids : ∀ row ∈ [ContactRow.mk "axb@x.de" 1, ⟨"a_b@x.de", 2⟩], row.customer_id ≠ 0 := by
    decide
  have hagree := h Sql.Collation.ascii ⟨[⟨"axb@x.de", 1⟩, ⟨"a_b@x.de", 2⟩], []⟩ "a_b@x.de" hids
  rw [agrees_answer_iff _ _ hids] at hagree
  exact absurd hagree (by decide)

end GdtCache.Mysql.Customer
