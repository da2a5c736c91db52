import GdtCache.Lib.Json.Raw
import GdtCache.Mysql.GdtEntry
import GdtCache.View.Equiv.View
import GdtCache.View.GdtEntryList

/-!
# Which pages are faithful JSON

The views put the texts of an entry between quotes as they are.  A page is JSON that shows its
entries if and only if none of these texts has a quote, a backslash or a control character
(`GdtEntryList.toJsonString_faithful_iff`).

The page is taken apart member by member: the entries are objects written without escapes
(`rawEntry`), and so are the members around them.
-/

namespace GdtCache.View

open GdtCache.Lib GdtCache.Lib.Json GdtCache.Model

/-! ### Faithful JSON -/

/-- The members of an entry. -/
def entryKeys : List String :=
  ["id", "amount", "date", "email", "comment", "coupon_code", "gdt_entry_type_id", "factor",
    "amount2", "factor2", "gdt"]

/-- A JSON value that shows an entry: an object with the members of an entry and no others, in
which the id and the texts are those of the entry. -/
def Shows (e : GdtEntry) (v : Json) : Prop :=
  ∃ members, v = .object members ∧ (members.map Prod.fst).Perm entryKeys ∧
    (∃ literal, ("id", .number literal) ∈ members ∧ intValue literal = some e.getId) ∧
    ("date", .string e.getDateString) ∈ members ∧
    ("email", .string e.getEmail) ∈ members ∧
    ("comment", .string e.getComment) ∈ members ∧
    ("coupon_code", .string e.getCouponCode) ∈ members

/-- The members of a page. -/
def pageKeys : List String :=
  ["state", "count", "gdtEntries", "gdtSum", "timeUsed"]

/-- **Faithful JSON**: the text is a JSON object with the members of a page and no others, and the
elements of `gdtEntries` show the entries, in their order. -/
def Faithful (text : String) (entries : List GdtEntry) : Prop :=
  ∃ members elements, Parses text (.object members) ∧
    (members.map Prod.fst).Perm pageKeys ∧
    ("gdtEntries", .array elements) ∈ members ∧ List.Forall₂ Shows entries elements

/-- No text of the entry needs an escape. -/
def IsPlainEntry (e : GdtEntry) : Prop :=
  ∀ text ∈ [e.getDateString, e.getEmail, e.getComment, e.getCouponCode],
    ∀ c ∈ text.toList, IsPlain c

/-- Where all keys differ, a key has one value. -/
theorem eq_of_mem_of_mem {members : List (String × Json)} {keys : List String}
    (hkeys : (members.map Prod.fst).Perm keys) (hnodup : keys.Nodup) {key : String} {v w : Json}
    (hv : (key, v) ∈ members) (hw : (key, w) ∈ members) : v = w :=
  congrArg Prod.snd (List.inj_on_of_nodup_map (hkeys.nodup_iff.mpr hnodup) hv hw rfl)

/-! ### One entry -/

section Entry

variable (key : String) (plain : ∀ c ∈ key.toList, IsPlain c)

/-- A number as a member. -/
def numberField (number : ℚ) : Field :=
  ⟨key, .number (stringWithoutTrailingZeros number).toList
    (isNumber_stringWithoutTrailingZeros number), plain⟩

/-- An integer as a member. -/
def intField (n : ℤ) : Field :=
  ⟨key, .number (toString n).toList (isNumber_toString n), plain⟩

/-- A text as a member. -/
def textField (text : String) : Field :=
  ⟨key, .string text.toList, plain⟩

end Entry

/-- What `toJsonString` writes for an entry. -/
def rawEntry (e : GdtEntry) : RawObject where
  fields := [intField "id" (by simp [IsPlain]) e.getId,
    numberField "amount" (by simp [IsPlain]) e.getAmountDecimal,
    textField "date" (by simp [IsPlain]) e.getDateString,
    textField "email" (by simp [IsPlain]) e.getEmail,
    textField "comment" (by simp [IsPlain]) e.getComment,
    textField "coupon_code" (by simp [IsPlain]) e.getCouponCode,
    intField "gdt_entry_type_id" (by simp [IsPlain]) e.getGdtEntryTypeId,
    numberField "factor" (by simp [IsPlain]) e.getFactor,
    numberField "amount2" (by simp [IsPlain]) e.getAmount2Decimal,
    numberField "factor2" (by simp [IsPlain]) e.getFactor2]
  key := "gdt"
  literal := (stringWithoutTrailingZeros e.getGdt).toList
  number := isNumber_stringWithoutTrailingZeros e.getGdt
  plain := by simp [IsPlain]

theorem toList_toJsonString (e : GdtEntry) : (toJsonString e).toList = (rawEntry e).text := by
  have hopen : ("\x7b" : String).toList = ['\x7b'] := rfl
  have hclose : ("\x7d" : String).toList = ['\x7d'] := rfl
  have hcomma : ("," : String).toList = [','] := rfl
  have hquote : ("\"," : String).toList = ['"', ','] := rfl
  have hid : ("\"id\":" : String).toList = '"' :: ("id".toList ++ ['"', ':']) := rfl
  have hamount : ("\"amount\":" : String).toList = '"' :: ("amount".toList ++ ['"', ':']) := rfl
  have hdate : ("\"date\":\"" : String).toList = '"' :: ("date".toList ++ ['"', ':', '"']) := rfl
  have hemail : ("\"email\":\"" : String).toList
      = '"' :: ("email".toList ++ ['"', ':', '"']) := rfl
  have hcomment : ("\"comment\":\"" : String).toList
      = '"' :: ("comment".toList ++ ['"', ':', '"']) := rfl
  have hcoupon : ("\"coupon_code\":\"" : String).toList
      = '"' :: ("coupon_code".toList ++ ['"', ':', '"']) := rfl
  have htype : ("\"gdt_entry_type_id\":" : String).toList
      = '"' :: ("gdt_entry_type_id".toList ++ ['"', ':']) := rfl
  have hfactor : ("\"factor\":" : String).toList = '"' :: ("factor".toList ++ ['"', ':']) := rfl
  have hamount2 : ("\"amount2\":" : String).toList
      = '"' :: ("amount2".toList ++ ['"', ':']) := rfl
  have hfactor2 : ("\"factor2\":" : String).toList
      = '"' :: ("factor2".toList ++ ['"', ':']) := rfl
  have hgdt : ("\"gdt\":" : String).toList = '"' :: ("gdt".toList ++ ['"', ':']) := rfl
  unfold toJsonString rawEntry RawObject.text RawObject.membersText
  simp only [String.toList_append]
  rw [hopen, hclose, hcomma, hquote, hid, hamount, hdate, hemail, hcomment, hcoupon, htype, hfactor,
    hamount2, hfactor2, hgdt]
  simp only [RawObject.last, Field.text, Raw.text, intField, numberField, textField,
    List.foldr_cons, List.foldr_nil, List.append_assoc, List.cons_append, List.nil_append]

theorem isPlain_rawEntry_iff (e : GdtEntry) : (rawEntry e).IsPlain ↔ IsPlainEntry e := by
  simp [RawObject.IsPlain, rawEntry, IsPlainEntry, intField, numberField, textField, Raw.IsPlain]

/-- The members that are meant show the entry. -/
theorem shows_rawEntry (e : GdtEntry) : Shows e (.object (rawEntry e).members) := by
  have htext : ∀ text : String, String.ofList text.toList = text := fun _ => String.ofList_toList
  refine ⟨_, rfl, List.Perm.refl _, ⟨toString e.getId, ?_, intValue_toString _⟩, ?_, ?_, ?_, ?_⟩
  all_goals simp [RawObject.members, rawEntry, intField, numberField, textField, Field.member,
    Raw.value, htext]

/-- Whatever shows the entry has its texts right. -/
theorem Shows.agrees {e : GdtEntry} {v : Json} (h : Shows e v) :
    ∃ members, v = .object members ∧ RawObject.Agrees (rawEntry e).fields members := by
  obtain ⟨members, rfl, hkeys, -, hdate, hemail, hcomment, hcoupon⟩ := h
  refine ⟨members, rfl, ?_⟩
  have hone : ∀ {key v w}, (key, v) ∈ members → (key, w) ∈ members → v = w :=
    fun hv hw => eq_of_mem_of_mem hkeys (by decide) hv hw
  have htexts : ∀ key text, (key, Json.string text) ∈ members →
      ∀ chars, Raw.string text.toList = .string chars → ∀ v, (key, v) ∈ members →
        v = .string (String.ofList chars) := by
    rintro key text hmem _ ⟨⟩ v hv
    rw [String.ofList_toList]
    exact hone hv hmem
  intro f hf
  simp only [rawEntry, List.mem_cons, List.not_mem_nil, or_false] at hf
  rcases hf with rfl | rfl | rfl | rfl | rfl | rfl | rfl | rfl | rfl | rfl
  · rintro _ ⟨⟩
  · rintro _ ⟨⟩
  · exact htexts _ _ hdate
  · exact htexts _ _ hemail
  · exact htexts _ _ hcomment
  · exact htexts _ _ hcoupon
  · rintro _ ⟨⟩
  · rintro _ ⟨⟩
  · rintro _ ⟨⟩
  · rintro _ ⟨⟩

/-! ### Texts from the database -/

/-- The characters of integers are plain. -/
theorem isPlain_of_isNumberChar {c : Char} (h : isNumberChar c = true) : IsPlain c := by
  unfold isNumberChar at h
  simp only [Bool.or_eq_true, decide_eq_true_eq] at h
  rcases h with ((((h | rfl) | rfl) | rfl) | rfl) | rfl
  · obtain ⟨hlo, -⟩ := Char.isDigit_iff_toNat.mp h
    refine ⟨?_, ?_, hlo.trans' (by decide)⟩
    · rintro rfl
      exact absurd h (by decide)
    · rintro rfl
      exact absurd h (by decide)
  all_goals decide

/-- A date needs no escapes. -/
theorem isPlain_putTime (tm : Tm) : ∀ c ∈ (putTime tm).toList, IsPlain c := by
  have hint : ∀ n : ℤ, ∀ c ∈ (toString n).toList, IsPlain c := fun n c hc =>
    isPlain_of_isNumberChar ((isNumber_toString n).isNumberChar c hc)
  have htwo : ∀ n : ℤ, ∀ c ∈ (twoDigits n).toList, IsPlain c := by
    intro n
    rw [twoDigits, String.toList_append]
    refine List.forall_mem_append.mpr ⟨?_, hint n⟩
    split_ifs
    · simp [IsPlain]
    · simp
  have hdash : ∀ c ∈ ("-" : String).toList, IsPlain c := by simp [IsPlain]
  have hcolon : ∀ c ∈ (":" : String).toList, IsPlain c := by simp [IsPlain]
  have ht : ∀ c ∈ ("T" : String).toList, IsPlain c := by simp [IsPlain]
  have hzone : ∀ c ∈ ("+00:00" : String).toList, IsPlain c := by simp [IsPlain]
  unfold putTime
  simp only [String.toList_append, List.forall_mem_append]
  exact ⟨⟨⟨⟨⟨⟨⟨⟨⟨⟨⟨hint _, hdash⟩, htwo _⟩, hdash⟩, htwo _⟩, ht⟩, htwo _⟩, hcolon⟩, htwo _⟩,
    hcolon⟩, htwo _⟩, hzone⟩

/-- A part that is attached to a full comment. -/
theorem isPlain_attach_iff {label : String} (hlabel : ∀ c ∈ label.toList, IsPlain c)
    (text part : String) :
    (∀ c ∈ (if part.isEmpty then text
        else (if text.isEmpty then text else text ++ " – ") ++ label ++ part).toList, IsPlain c) ↔
      (∀ c ∈ text.toList, IsPlain c) ∧ ∀ c ∈ part.toList, IsPlain c := by
  have hdash : ∀ c ∈ (" – " : String).toList, IsPlain c := by simp [IsPlain]
  by_cases hpart : part.isEmpty
  · rw [if_pos hpart, String.isEmpty_iff.mp hpart]
    simp
  · rw [if_neg hpart]
    simp only [String.toList_append, List.forall_mem_append]
    by_cases htext : text.isEmpty
    · rw [if_pos htext]
      exact ⟨fun h => ⟨h.1.1, h.2⟩, fun h => ⟨⟨h.1, hlabel⟩, h.2⟩⟩
    · rw [if_neg htext]
      simp only [String.toList_append, List.forall_mem_append]
      exact ⟨fun h => ⟨h.1.1.1, h.2⟩, fun h => ⟨⟨⟨h.1, hdash⟩, hlabel⟩, h.2⟩⟩

/-- A full comment needs no escapes if and only if its parts do not. -/
theorem isPlain_getFullComment_iff (comment source project : String) :
    (∀ c ∈ (GdtEntry.getFullComment comment source project).toList, IsPlain c) ↔
      (∀ c ∈ comment.toList, IsPlain c) ∧ (∀ c ∈ source.toList, IsPlain c) ∧
        ∀ c ∈ project.toList, IsPlain c := by
  have hsource : ∀ c ∈ ("Quelle: " : String).toList, IsPlain c := by simp [IsPlain]
  have hproject : ∀ c ∈ ("Projekt: " : String).toList, IsPlain c := by simp [IsPlain]
  unfold GdtEntry.getFullComment
  simp only
  rw [isPlain_attach_iff hproject, isPlain_attach_iff hsource, and_assoc]

/-- An entry from the database needs no escapes if and only if its row does not. -/
theorem isPlainEntry_entry_iff (timeZone : TimeZone) (row : Mysql.GdtEntryRow) :
    IsPlainEntry (Mysql.GdtEntry.entry timeZone row) ↔
      ∀ text ∈ [row.email, row.comment, row.source, row.project, row.coupon_code],
        ∀ c ∈ text.toList, IsPlain c := by
  have hdate : ∀ c ∈ (Mysql.GdtEntry.entry timeZone row).getDateString.toList, IsPlain c :=
    isPlain_putTime _
  have hcomment := isPlain_getFullComment_iff row.comment row.source row.project
  unfold IsPlainEntry
  simp only [List.forall_mem_cons, List.not_mem_nil, false_imp_iff, implies_true, and_true]
  show _ ∧ (∀ c ∈ row.email.toList, IsPlain c) ∧
    (∀ c ∈ (GdtEntry.getFullComment row.comment row.source row.project).toList, IsPlain c) ∧
    (∀ c ∈ row.coupon_code.toList, IsPlain c) ↔ _
  rw [hcomment, and_iff_right hdate, and_assoc, and_assoc]

/-! ### Pages -/

namespace GdtEntryList

/-- The first member of a page. -/
def stateField : Field :=
  textField "state" (by simp [IsPlain]) "success"

/-- The second member. -/
def countField (data : Model.GdtEntryList) : Field :=
  intField "count" (by simp [IsPlain]) data.getTotalCount

/-- The members behind the entries. -/
def rawSums (data : Model.GdtEntryList) (seconds : ℚ) : RawObject where
  fields := [numberField "gdtSum" (by simp [IsPlain]) data.getGdtSum]
  key := "timeUsed"
  literal := (printDouble seconds).toList
  number := isNumber_printDouble seconds
  plain := by simp [IsPlain]

/-- The text from the entries on. -/
def entriesText (data : Model.GdtEntryList) (seconds : ℚ) (entries : List GdtEntry) : List Char :=
  '"' :: ("gdtEntries".toList ++ '"' :: ':' :: '[' ::
    (RawObject.elementsText (entries.map rawEntry) ++ ']' :: ',' ::
      (RawObject.membersText (rawSums data seconds).last (rawSums data seconds).fields
        ++ ['\x7d'])))

/-- The entries, with a comma between them. -/
theorem toList_intercalate_entries (entries : List GdtEntry) :
    (",".intercalate (entries.map View.toJsonString)).toList
      = RawObject.elementsText (entries.map rawEntry) := by
  have htexts : (entries.map View.toJsonString).map String.toList
      = (entries.map rawEntry).map RawObject.text := by
    rw [List.map_map, List.map_map]
    exact List.map_congr_left fun e _ => View.toList_toJsonString e
  rw [String.toList_intercalate, htexts]
  rfl

theorem toList_toJsonString (data : Model.GdtEntryList) (seconds : ℚ) (page count : Int32)
    (order : OrderDirections) :
    (toJsonString data (printDouble seconds) page count order).toList =
      '\x7b' :: (stateField.text ++ ',' :: ((countField data).text ++ ',' ::
        entriesText data seconds (pageEntries data.getGdtEntries page count order))) := by
  have hopen : ("\x7b" : String).toList = ['\x7b'] := rfl
  have hclose : ("\x7d" : String).toList = ['\x7d'] := rfl
  have hcomma : ("," : String).toList = [','] := rfl
  have hstate : ("\"state\":\"success\"," : String).toList
      = '"' :: ("state".toList ++ '"' :: ':' :: '"' :: ("success".toList ++ ['"', ','])) := rfl
  have hcount : ("\"count\":" : String).toList = '"' :: ("count".toList ++ ['"', ':']) := rfl
  have hentries : ("\"gdtEntries\":[" : String).toList
      = '"' :: ("gdtEntries".toList ++ ['"', ':', '[']) := rfl
  have hsum : ("],\"gdtSum\":" : String).toList
      = ']' :: ',' :: '"' :: ("gdtSum".toList ++ ['"', ':']) := rfl
  have htime : ("\"timeUsed\":" : String).toList
      = '"' :: ("timeUsed".toList ++ ['"', ':']) := rfl
  unfold toJsonString entriesText
  simp only [String.toList_append]
  rw [toList_intercalate_entries, hopen, hclose, hcomma, hstate, hcount, hentries, hsum, htime]
  simp only [RawObject.membersText, RawObject.last, rawSums, stateField, countField, Field.text,
    Raw.text, intField, numberField, textField, List.foldr_cons, List.foldr_nil, List.append_assoc,
    List.cons_append, List.nil_append]

theorem isPlain_stateField : stateField.raw.IsPlain := by
  simp [stateField, textField, Raw.IsPlain, IsPlain]

/-- The members that are meant. -/
def pageMembers (data : Model.GdtEntryList) (seconds : ℚ) (entries : List GdtEntry) :
    List (String × Json) :=
  stateField.member :: (countField data).member ::
    ("gdtEntries", .array ((entries.map rawEntry).map fun o => .object o.members)) ::
      (rawSums data seconds).members

theorem pageMembers_keys (data : Model.GdtEntryList) (seconds : ℚ) (entries : List GdtEntry) :
    (pageMembers data seconds entries).map Prod.fst = pageKeys := rfl

/-- They are read if the entries need no escapes. -/
theorem members_pageMembers (data : Model.GdtEntryList) (seconds : ℚ) {entries : List GdtEntry}
    (h : ∀ e ∈ entries, IsPlainEntry e) :
    Members (stateField.text ++ ',' :: ((countField data).text ++ ',' ::
      entriesText data seconds entries)) (pageMembers data seconds entries) [] := by
  have hplain : ∀ o ∈ entries.map rawEntry, o.IsPlain := by
    intro o ho
    obtain ⟨e, he, rfl⟩ := List.mem_map.mp ho
    exact (isPlain_rawEntry_iff e).mpr (h e he)
  -- from the last member to the first
  have hsums : Members _ (rawSums data seconds).members [] :=
    RawObject.members_raw rfl (by simp [rawSums, numberField, Raw.IsPlain]) []
  have harray := RawObject.array_raw hplain (',' :: (RawObject.membersText
    (rawSums data seconds).last (rawSums data seconds).fields ++ ['\x7d']))
  have hentries : Members (entriesText data seconds entries) _ [] :=
    (members_key_iff (by simp [IsPlain])).mpr
      ⟨_, _, harray, .inr ⟨_, _, skip_cons rfl _, hsums, rfl⟩⟩
  have hcount := (@members_plain_iff (countField data) trivial _ _ rfl _).mpr ⟨_, hentries, rfl⟩
  exact (members_plain_iff isPlain_stateField rfl).mpr ⟨_, hcount, rfl⟩

/-- A page is faithful if its entries need no escapes. -/
theorem faithful_of_plain {data : Model.GdtEntryList} {page count : Int32} {order : OrderDirections}
    (seconds : ℚ) (h : ∀ e ∈ pageEntries data.getGdtEntries page count order, IsPlainEntry e) :
    Faithful (toJsonString data (printDouble seconds) page count order)
      (pageEntries data.getGdtEntries page count order) := by
  generalize hentries : pageEntries data.getGdtEntries page count order = entries at h
  refine ⟨pageMembers data seconds entries, _, ⟨[], ?_, rfl⟩,
    .of_eq (pageMembers_keys data seconds entries),
    List.mem_cons_of_mem _ (List.mem_cons_of_mem _ List.mem_cons_self), ?_⟩
  · rw [toList_toJsonString, hentries, skip_cons rfl]
    exact .object (members_pageMembers data seconds h)
  · rw [List.map_map, List.forall₂_map_right_iff]
    exact List.forall₂_same.mpr fun e _ => shows_rawEntry e

/-- And only then. -/
theorem plain_of_faithful {data : Model.GdtEntryList} {seconds : ℚ} {page count : Int32}
    {order : OrderDirections}
    (h : Faithful (toJsonString data (printDouble seconds) page count order)
      (pageEntries data.getGdtEntries page count order)) :
    ∀ e ∈ pageEntries data.getGdtEntries page count order, IsPlainEntry e := by
  generalize hentries : pageEntries data.getGdtEntries page count order = entries at h
  obtain ⟨members, elements, ⟨rest, hvalue, -⟩, hkeys, hmem, hshows⟩ := h
  have hne : ∀ r, Json.skip (stateField.text ++ ',' :: ((countField data).text ++ ',' ::
      entriesText data seconds entries)) ≠ '}' :: r := by
    intro r
    show Json.skip ('"' :: _) ≠ _
    rw [skip_cons rfl]
    simp
  rw [toList_toJsonString, hentries, skip_cons rfl, value_brace_iff hne] at hvalue
  obtain ⟨members, hmembers, heq⟩ := hvalue
  obtain rfl := Json.object.inj heq
  -- what is read as `gdtEntries` is the array of the entries
  obtain ⟨_, hcount, rfl⟩ := (members_plain_iff isPlain_stateField rfl).mp hmembers
  obtain ⟨others, hgdt, rfl⟩ := (@members_plain_iff (countField data) trivial _ _ rfl _).mp hcount
  obtain ⟨v, behind, hv, hend⟩ := (members_key_iff (by simp [IsPlain])).mp hgdt
  have hmem' : ("gdtEntries", v) ∈ others := by
    rcases hend with ⟨-, rfl⟩ | ⟨input, others', -, -, rfl⟩
    · exact List.mem_cons_self
    · exact List.mem_cons_self
  obtain rfl := eq_of_mem_of_mem hkeys (by decide) hmem
    (List.mem_cons_of_mem _ (List.mem_cons_of_mem _ hmem'))
  -- and its objects have the texts right
  rw [skip_cons rfl] at hv
  have hagrees : List.Forall₂
      (fun v o => ∃ members, v = .object members ∧ RawObject.Agrees o.fields members) elements
      (entries.map rawEntry) := by
    rw [List.forall₂_map_right_iff]
    exact hshows.flip.imp fun v e h => Shows.agrees h
  obtain ⟨hplain, -⟩ := RawObject.plain_of_array_raw hv hagrees
  intro e he
  exact (isPlain_rawEntry_iff e).mp (hplain _ (List.mem_map_of_mem he))

/-- **Which pages are faithful JSON**: those of whose entries no text needs an escape.  For an entry
from the database these texts are five columns of its row. -/
theorem toJsonString_faithful_iff (data : Model.GdtEntryList) (seconds : ℚ) (page count : Int32)
    (order : OrderDirections) :
    (Faithful (toJsonString data (printDouble seconds) page count order)
        (pageEntries data.getGdtEntries page count order) ↔
      ∀ e ∈ pageEntries data.getGdtEntries page count order, IsPlainEntry e) ∧
    ∀ timeZone row, IsPlainEntry (Mysql.GdtEntry.entry timeZone row) ↔
      ∀ text ∈ [row.email, row.comment, row.source, row.project, row.coupon_code],
        ∀ c ∈ text.toList, IsPlain c :=
  ⟨⟨plain_of_faithful, faithful_of_plain seconds⟩, isPlainEntry_entry_iff⟩

/-- A comment with quotes breaks the page it is on. -/
theorem toJsonString_not_faithful :
    let data := (Model.GdtEntryList.new 0).addGdtEntry 0 (.new (fun _ => 0) 1 100 1663160964
      "bob@example.org" "so-called \"gift\"" "" "" "" 7 1 1 0 1 100)
    ¬ Faithful (toJsonString data (printDouble 0) 1 1 .ASC)
      (pageEntries data.getGdtEntries 1 1 .ASC) := by
  intro data h
  have hpage : pageEntries data.getGdtEntries 1 1 .ASC = data.getGdtEntries := rfl
  have hplain := plain_of_faithful h
  rw [hpage] at hplain
  have hquote := hplain _ List.mem_cons_self "so-called \"gift\"" (by decide) '"' (by decide)
  exact hquote.1 rfl

end GdtEntryList

end GdtCache.View
