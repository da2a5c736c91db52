import GdtCache.Lib.Html
import GdtCache.Lib.Json
import GdtCache.Logging.Equiv.ContainerSingleton

/-!
# Messages and the tags of the page

The page of logged errors is a text of tags with messages in between, and nothing is escaped.  Here
every character carries a mark that says whether it comes from a message (`markedPage`, of which
`getErrorsHtml` is what is left without the marks), and the page is read with the marks.

The tags of the page are those of the page itself and no others exactly if every message that is
shown is text by itself (`tags_markedPage_iff`): a message with a tag shows it among them, and one
that leaves markup open takes a tag of the page into it.
-/

namespace GdtCache.Logging.ContainerSingleton

open GdtCache.Lib GdtCache.Lib.Html

/-! ### The page with its marks -/

/-- Characters of the page itself. -/
def own (text : String) : List (Char × Bool) :=
  text.toList.map fun c => (c, false)

/-- Characters of a message. -/
def foreign (text : String) : List (Char × Bool) :=
  text.toList.map fun c => (c, true)

/-- The entries that are shown. -/
def shown (s : ContainerSingleton) : List Entry :=
  s.mLogEntries.take (fitCount maxHtmlSize (entriesHead s.mDBUpdateLastTimes).utf8ByteSize
    (s.mLogEntries.map logSize))

/-- `logMessageHtml` up to the message. -/
def entryFront (log : Entry) : String :=
  "<li>" ++ typeSpan log.type ++ typeToString log.type ++ "</span>&nbsp;" ++ "[" ++ log.function
    ++ "] "

/-- What `logMessageHtml` says behind the message. -/
def entryBack (log : Entry) : String :=
  " (file: " ++ log.file ++ ", line: " ++ toString log.line ++ ")"

/-- `logMessageHtml` -/
def markedEntry (log : Entry) : List (Char × Bool) :=
  own (entryFront log) ++ foreign log.message ++ own (entryBack log ++ "</li>")

/-- What `getErrorsHtml` says behind the entries. -/
def pageEnd (s : ContainerSingleton) : String :=
  (if s.shown.length < s.mLogEntries.length then omissionMarker else "") ++ "</ul>"
    ++ removedErrorsHtml s.mRemovedErrors

/-- `getErrorsHtml` -/
def markedPage (s : ContainerSingleton) : List (Char × Bool) :=
  own (entriesHead s.mDBUpdateLastTimes) ++ s.shown.flatMap markedEntry ++ own s.pageEnd

/-- The tags of an entry. -/
def entryTags (log : Entry) : List String :=
  ["<li>", typeSpan log.type, "</span>", "</li>"]

/-- The tags of the page. -/
def pageTags (s : ContainerSingleton) : List String :=
  ["<ul class='success'>", "<li>", "</li>", "</ul>", "<ul class='errors'>"]
    ++ s.shown.flatMap entryTags
    ++ ((if s.shown.length < s.mLogEntries.length then ["<li>", "</li>"] else []) ++ ["</ul>"])

/-- A message of letters that takes as many bytes. -/
def letters (message : String) : String :=
  String.ofList (List.replicate message.utf8ByteSize 'a')

/-- The same entries with letters for messages. -/
def withLetters (s : ContainerSingleton) : ContainerSingleton :=
  { s with mLogEntries := s.mLogEntries.map fun log => { log with message := letters log.message } }

/-! ### Without the marks -/

theorem map_fst_own (text : String) : (own text).map Prod.fst = text.toList := by
  unfold own
  rw [List.map_map]
  exact List.map_id _

theorem map_fst_foreign (text : String) : (foreign text).map Prod.fst = text.toList := by
  unfold foreign
  rw [List.map_map]
  exact List.map_id _

theorem own_append (a b : String) : own (a ++ b) = own a ++ own b := by
  unfold own
  rw [String.toList_append, List.map_append]

theorem map_fst_markedEntry (log : Entry) :
    (markedEntry log).map Prod.fst = (logMessageHtml log).toList := by
  unfold markedEntry entryFront entryBack logMessageHtml
  simp only [List.map_append, map_fst_own, map_fst_foreign, String.toList_append, List.append_assoc]
  rfl

theorem map_fst_flatMap_markedEntry (logEntries : List Entry) :
    (logEntries.flatMap markedEntry).map Prod.fst = (entriesHtml logEntries).toList := by
  induction logEntries with
  | nil => rfl
  | cons log logEntries ih =>
    rw [List.flatMap_cons, List.map_append, map_fst_markedEntry, ih, entriesHtml,
      String.toList_append]

/-- The page is the marked page without its marks. -/
theorem map_fst_markedPage (s : ContainerSingleton) :
    s.markedPage.map Prod.fst = s.getErrorsHtml.toList := by
  obtain ⟨hle, -, -⟩ := @fitCount_spec maxHtmlSize (s.mLogEntries.map logSize)
    (entriesHead s.mDBUpdateLastTimes).utf8ByteSize
  rw [List.length_map] at hle
  have hshown : s.shown.length = fitCount maxHtmlSize
      (entriesHead s.mDBUpdateLastTimes).utf8ByteSize (s.mLogEntries.map logSize) := by
    rw [shown, List.length_take_of_le hle]
  unfold markedPage pageEnd getErrorsHtml
  rw [List.map_append, List.map_append, map_fst_own, map_fst_own, map_fst_flatMap_markedEntry,
    appendEntries_eq, hshown]
  simp only [String.toList_append, List.append_assoc, shown]

/-! ### The page's own texts -/

/-- A text without `<` and `>`. -/
def Plain (text : String) : Prop :=
  ∀ c ∈ text.toList, c ≠ '<' ∧ c ≠ '>'

instance (text : String) : Decidable (Plain text) :=
  List.decidableBAll (fun c => c ≠ '<' ∧ c ≠ '>') text.toList

theorem Plain.append {a b : String} (ha : Plain a) (hb : Plain b) : Plain (a ++ b) := by
  intro c hc
  rw [String.toList_append, List.mem_append] at hc
  exact hc.elim (ha c) (hb c)

theorem Plain.reads {text : String} (h : Plain text) : Reads text [] :=
  reads_of_plain fun c hc => (h c hc).1

/-- A number is plain. -/
theorem plain_toString (n : ℤ) : Plain (toString n) := by
  intro c hc
  have hchar := (Json.isNumber_toString n).isNumberChar c hc
  constructor
  · rintro rfl
    exact absurd hchar (by decide)
  · rintro rfl
    exact absurd hchar (by decide)

theorem plain_typeToString (type : LogType) : Plain (typeToString type) := by
  cases type <;> decide

theorem reads_typeSpan (type : LogType) : Reads (typeSpan type) [typeSpan type] := by
  cases type <;> exact ⟨by decide +kernel, by decide⟩

theorem reads_li : Reads "<li>" ["<li>"] := ⟨by decide, by decide⟩

theorem reads_li_end : Reads "</li>" ["</li>"] := ⟨by decide, by decide⟩

theorem reads_entryFront {log : Entry} (hfunction : Plain log.function) :
    Reads (entryFront log) ["<li>", typeSpan log.type, "</span>"] := by
  have hspan : Reads "</span>&nbsp;" ["</span>"] := ⟨by decide +kernel, by decide⟩
  have hopen : Plain "[" := by decide
  have hclose : Plain "] " := by decide
  exact (((((reads_li.append (reads_typeSpan log.type)).append
    (plain_typeToString log.type).reads).append hspan).append hopen.reads).append
    hfunction.reads).append hclose.reads

theorem plain_entryBack {log : Entry} (hfile : Plain log.file) : Plain (entryBack log) := by
  have hopen : Plain " (file: " := by decide
  have hline : Plain ", line: " := by decide
  have hclose : Plain ")" := by decide
  exact (((hopen.append hfile).append hline).append (plain_toString log.line)).append hclose

theorem reads_entriesHead {dbUpdateLastTimes : String} (h : Plain dbUpdateLastTimes) :
    Reads (entriesHead dbUpdateLastTimes)
      ["<ul class='success'>", "<li>", "</li>", "</ul>", "<ul class='errors'>"] := by
  have hsuccess : Reads "<ul class='success'>" ["<ul class='success'>"] :=
    ⟨by decide +kernel, by decide⟩
  have herrors : Reads "</ul><ul class='errors'>" ["</ul>", "<ul class='errors'>"] :=
    ⟨by decide +kernel, by decide⟩
  exact (hsuccess.append ((reads_li.append h.reads).append reads_li_end)).append herrors

theorem reads_pageEnd (s : ContainerSingleton) :
    Reads s.pageEnd
      ((if s.shown.length < s.mLogEntries.length then ["<li>", "</li>"] else []) ++ ["</ul>"]) := by
  have hend : Reads "</ul>" ["</ul>"] := ⟨by decide, by decide⟩
  have hremoved : Plain (removedErrorsHtml s.mRemovedErrors) := by
    have hsentence : Plain " additional errors already removed from memory" := by decide
    unfold removedErrorsHtml
    split_ifs
    · exact fun c hc => absurd hc (by simp)
    · exact (plain_toString _).append hsentence
  have hmarker : Reads (if s.shown.length < s.mLogEntries.length then omissionMarker else "")
      (if s.shown.length < s.mLogEntries.length then ["<li>", "</li>"] else []) := by
    split_ifs
    · exact ⟨by decide +kernel, by decide⟩
    · exact ⟨rfl, rfl⟩
  have h := (hmarker.append hend).append hremoved.reads
  rwa [List.append_nil] at h

/-! ### Reading with marks -/

/-- What stands in front does not matter for what is read, and neither do the marks. -/
theorem readAll_mark (mark : Bool) (text : String) (front : List String) :
    (Reader.text (front.map own)).readAll Prod.fst (text.toList.map fun c => (c, mark))
      = (((Reader.text []).readAll id text.toList).map fun c => (c, mark)).behind
        (front.map own) := by
  have hread := @readAll_map _ _ id Prod.fst (fun c => (c, mark)) (fun _ => rfl) (Reader.text [])
    text.toList
  have hbehind := readAll_behind Prod.fst (front.map own) (.text [])
    (text.toList.map fun c => (c, mark))
  have hfront : (Reader.text []).behind (front.map own) = .text (front.map own) := by
    simp [Reader.behind, Reader.text]
  rw [← hfront, hbehind, ← hread]
  rfl

/-- A text of whole tags adds its tags. -/
theorem readAll_own {text : String} {tags : List String} (h : Reads text tags)
    (front : List String) :
    (Reader.text (front.map own)).readAll Prod.fst (own text)
      = .text ((front ++ tags).map own) := by
  have hmark := readAll_mark false text front
  rw [h.readAll] at hmark
  refine hmark.trans ?_
  simp [Reader.map, Reader.behind, Reader.text, own]

/-- At a blank it makes no difference whether there is a `<` in front. -/
theorem readAll_blank {r : Reader (Char × Bool)} (h : r.state = .data ∨ r.state = .tagOpen)
    (rest : List (Char × Bool)) :
    r.readAll Prod.fst ((' ', false) :: rest)
      = (Reader.text r.tags).readAll Prod.fst ((' ', false) :: rest) := by
  have hlt : (' ' : Char) ≠ '<' := by decide
  have hread : r.read Prod.fst (' ', false) = .text r.tags := by
    rcases h with h | h
    · unfold Reader.read
      simp only [h, if_neg hlt]
    · exact read_of_tagOpen Prod.fst h hlt rfl
  rw [readAll_cons, hread, readAll_cons]
  rfl

/-- Behind a message that is text by itself the page goes on. -/
theorem readAll_markedEntry {log : Entry} (hfunction : Plain log.function) (hfile : Plain log.file)
    (hmessage : IsText log.message.toList) (front : List String) :
    (Reader.text (front.map own)).readAll Prod.fst (markedEntry log)
      = .text ((front ++ entryTags log).map own) := by
  obtain ⟨htags, hstate⟩ := hmessage
  have hmark := readAll_mark true log.message (front ++ ["<li>", typeSpan log.type, "</span>"])
  have hreads := (plain_entryBack hfile).reads.append reads_li_end
  have hback := readAll_own hreads (front ++ ["<li>", typeSpan log.type, "</span>"])
  obtain ⟨rest, hrest⟩ : ∃ rest, own (entryBack log ++ "</li>") = (' ', false) :: rest := by
    unfold entryBack own
    simp only [String.toList_append, List.append_assoc]
    exact ⟨_, rfl⟩
  have hleft : ((((Reader.text []).readAll id log.message.toList).map fun c => (c, true)).behind
      ((front ++ ["<li>", typeSpan log.type, "</span>"]).map own)).tags
      = (front ++ ["<li>", typeSpan log.type, "</span>"]).map own := by
    show _ ++ (tags id log.message.toList).map _ = _
    rw [htags, List.map_nil, List.append_nil]
  rw [hrest] at hback
  rw [markedEntry, readAll_append, readAll_append, readAll_own (reads_entryFront hfunction),
    foreign, hmark, hrest, readAll_blank hstate, hleft, hback, List.append_assoc]
  rfl

/-! ### A message that is not text -/

/-- What is not made of the page's own characters only. -/
theorem weight_foreign {piece : List Char} (h : piece ≠ []) (rest : List (Char × Bool)) :
    weight (fun a => !a.2) (piece.map (fun c => (c, true)) ++ rest) = 0 := by
  obtain ⟨c, piece, rfl⟩ := List.exists_cons_of_ne_nil h
  unfold weight
  rw [List.map_cons, List.cons_append, List.all_cons]
  rfl

theorem mark_of_mem_own {text : String} {a : Char × Bool} (h : a ∈ own text) : a.2 = false := by
  obtain ⟨c, -, rfl⟩ := List.mem_map.mp h
  rfl

theorem countP_map_own (tags : List String) :
    (tags.map own).countP (List.all · fun a => !a.2) = tags.length := by
  have hall : ∀ t ∈ tags.map own, List.all t (fun a => !a.2) = true := by
    intro t ht
    obtain ⟨tag, -, rfl⟩ := List.mem_map.mp ht
    exact List.all_eq_true.mpr fun a ha => by rw [mark_of_mem_own ha]; rfl
  rw [List.countP_eq_length.mpr hall, List.length_map]

/-- A tag of a message is none of the page. -/
theorem map_foreign_ne_own {t : List Char} (h : t ≠ []) (tag : String) :
    t.map (fun c => (c, true)) ≠ own tag := by
  obtain ⟨c, t, rfl⟩ := List.exists_cons_of_ne_nil h
  intro heq
  have hmem : (c, true) ∈ own tag := heq ▸ List.mem_cons_self
  cases mark_of_mem_own hmem

/-- If all tags are of the page itself, each of them that comes begins with a `<` of the page. -/
theorem length_le_of_tags_eq {r : Reader (Char × Bool)} {rest : List (Char × Bool)}
    {tags : List String} (h : (r.readAll Prod.fst rest).tags = tags.map own) :
    tags.length ≤ r.tagsOf (fun a => !a.2)
      + rest.countP fun a => !a.2 && decide (a.1 = '<') := by
  have hcount := tagsOf_readAll Prod.fst (fun a => !a.2) r rest
  have hle : tags.length ≤ (r.readAll Prod.fst rest).tagsOf fun a => !a.2 := by
    rw [Reader.tagsOf, h, countP_map_own]
    exact Nat.le_add_right _ _
  exact hle.trans hcount

/-- A message that is not text by itself is seen from the tags of the page: it adds one, or takes
one of the page's own into its markup. -/
theorem tags_ne_of_not_isText {log : Entry} (hfunction : Plain log.function)
    (hfile : Plain log.file) (hmessage : ¬ IsText log.message.toList) (front back : List String)
    {rest : List (Char × Bool)}
    (hrest : rest.countP (fun a => !a.2 && decide (a.1 = '<')) ≤ back.length) :
    ((Reader.text (front.map own)).readAll Prod.fst (markedEntry log ++ rest)).tags
      ≠ (front ++ entryTags log ++ back).map own := by
  intro heq
  have hmark := readAll_mark true log.message (front ++ ["<li>", typeSpan log.type, "</span>"])
  obtain ⟨hpiece, htags⟩ := ne_nil_of_readAll id (r := Reader.text []) (fun h => absurd rfl h)
    (fun t ht => absurd ht List.not_mem_nil) log.message.toList
  have hopen := exists_markup_of_not_isText hmessage
  unfold tags at hopen
  generalize (Reader.text []).readAll id log.message.toList = r at hmark hpiece htags hopen
  have hsplit : markedEntry log ++ rest = own (entryFront log) ++ (foreign log.message
      ++ (own (entryBack log ++ "<") ++ (own "/li>" ++ rest))) := by
    have hli : ("</li>" : String) = "<" ++ "/li>" := rfl
    unfold markedEntry
    rw [hli, ← String.append_assoc, own_append _ "/li>"]
    simp only [List.append_assoc]
  rw [hsplit, readAll_append, readAll_append, readAll_own (reads_entryFront hfunction), foreign,
    hmark] at heq
  by_cases hnone : r.tags = []
  · -- markup that is open at the end of the message goes on behind the `<` of the closing tag
    obtain ⟨m, hm⟩ := hopen hnone
    have hback : ∀ a ∈ own (entryBack log ++ "<"), a.1 ≠ '>' := by
      intro a ha
      obtain ⟨c, hc, rfl⟩ := List.mem_map.mp ha
      rw [String.toList_append, List.mem_append] at hc
      rcases hc with hc | hc
      · exact (plain_entryBack hfile c hc).2
      · rw [List.mem_singleton.mp hc]
        decide
    obtain ⟨m', hread⟩ := readAll_markup Prod.fst hback (r := (r.map fun c => (c, true)).behind
      ((front ++ ["<li>", typeSpan log.type, "</span>"]).map own)) (m := m) hm
    rw [readAll_append, hread] at heq
    have hle := length_le_of_tags_eq heq
    have hweight : weight (fun a => !a.2) (r.piece.map (fun c => (c, true))
        ++ own (entryBack log ++ "<")) = 0 :=
      weight_foreign (hpiece (by rw [hm]; nofun)) _
    have hli : (own "/li>").countP (fun a => !a.2 && decide (a.1 = '<')) = 0 := by decide
    simp only [Reader.tagsOf, Reader.behind, Reader.map, hnone, List.map_nil, List.append_nil,
      countP_map_own, hweight, List.countP_append, hli, List.length_append, entryTags,
      List.length_cons, List.length_nil, reduceCtorEq, if_false] at hle
    omega
  · -- a tag of the message is one of the page
    obtain ⟨t, ht⟩ := List.exists_mem_of_ne_nil _ hnone
    have hprefix := tags_prefix_readAll Prod.fst ((r.map fun c => (c, true)).behind
      ((front ++ ["<li>", typeSpan log.type, "</span>"]).map own))
      (own (entryBack log ++ "<") ++ (own "/li>" ++ rest))
    rw [heq] at hprefix
    have hmem := hprefix.mem (List.mem_append_right _ (List.mem_map_of_mem ht))
    obtain ⟨tag, -, htag⟩ := List.mem_map.mp hmem
    exact map_foreign_ne_own (htags t ht) tag htag.symm

/-! ### All entries -/

theorem countP_own {text : String} {tags : List String} (h : Reads text tags) :
    (own text).countP (fun a => !a.2 && decide (a.1 = '<')) = tags.length := by
  unfold own
  rw [List.countP_map, ← h.count, List.count_eq_countP]
  congr 1

theorem countP_foreign (message : String) :
    (foreign message).countP (fun a => !a.2 && decide (a.1 = '<')) = 0 := by
  rw [List.countP_eq_zero]
  intro a ha
  obtain ⟨c, -, rfl⟩ := List.mem_map.mp ha
  simp

/-- Every `<` of an entry begins one of its tags. -/
theorem countP_flatMap_markedEntry {logEntries : List Entry}
    (hplain : ∀ log ∈ logEntries, Plain log.function ∧ Plain log.file) :
    (logEntries.flatMap markedEntry).countP (fun a => !a.2 && decide (a.1 = '<'))
      = (logEntries.flatMap entryTags).length := by
  induction logEntries with
  | nil => rfl
  | cons log logEntries ih =>
    obtain ⟨hfunction, hfile⟩ := hplain log List.mem_cons_self
    have hback := (plain_entryBack hfile).reads.append reads_li_end
    have hentry : (markedEntry log).countP (fun a => !a.2 && decide (a.1 = '<'))
        = (entryTags log).length := by
      rw [markedEntry, List.countP_append, List.countP_append,
        countP_own (reads_entryFront hfunction), countP_foreign, countP_own hback]
      rfl
    rw [List.flatMap_cons, List.flatMap_cons, List.countP_append, List.length_append, hentry,
      ih fun log hlog => hplain log (List.mem_cons_of_mem _ hlog)]

/-- If all messages are texts, the tags of the page are its own. -/
theorem readAll_flatMap_markedEntry {logEntries : List Entry}
    (hplain : ∀ log ∈ logEntries, Plain log.function ∧ Plain log.file)
    (hmessages : ∀ log ∈ logEntries, IsText log.message.toList) (front : List String) :
    (Reader.text (front.map own)).readAll Prod.fst (logEntries.flatMap markedEntry)
      = .text ((front ++ logEntries.flatMap entryTags).map own) := by
  induction logEntries generalizing front with
  | nil => rw [List.flatMap_nil, List.flatMap_nil, List.append_nil, readAll_nil]
  | cons log logEntries ih =>
    obtain ⟨hfunction, hfile⟩ := hplain log List.mem_cons_self
    rw [List.flatMap_cons, readAll_append,
      readAll_markedEntry hfunction hfile (hmessages log List.mem_cons_self),
      ih (fun log hlog => hplain log (List.mem_cons_of_mem _ hlog))
        fun log hlog => hmessages log (List.mem_cons_of_mem _ hlog),
      List.append_assoc, List.flatMap_cons]

/-- And only then: the first message that is not text is seen. -/
theorem isText_of_tags {pageEnd : String} {endTags : List String} (hend : Reads pageEnd endTags)
    {logEntries : List Entry} (hplain : ∀ log ∈ logEntries, Plain log.function ∧ Plain log.file)
    (front : List String)
    (h : ((Reader.text (front.map own)).readAll Prod.fst
      (logEntries.flatMap markedEntry ++ own pageEnd)).tags
        = (front ++ logEntries.flatMap entryTags ++ endTags).map own) :
    ∀ log ∈ logEntries, IsText log.message.toList := by
  induction logEntries generalizing front with
  | nil => exact fun log hlog => absurd hlog List.not_mem_nil
  | cons log logEntries ih =>
    obtain ⟨hfunction, hfile⟩ := hplain log List.mem_cons_self
    have hrest : ∀ log ∈ logEntries, Plain log.function ∧ Plain log.file := fun log hlog =>
      hplain log (List.mem_cons_of_mem _ hlog)
    rw [List.flatMap_cons, List.flatMap_cons, List.append_assoc, ← List.append_assoc front,
      List.append_assoc] at h
    have hmessage : IsText log.message.toList := by
      by_contra hnot
      refine tags_ne_of_not_isText hfunction hfile hnot front _ ?_ h
      rw [List.countP_append, countP_flatMap_markedEntry hrest, countP_own hend, List.length_append]
    rw [readAll_append, readAll_markedEntry hfunction hfile hmessage, ← List.append_assoc] at h
    intro log' hlog'
    rcases List.mem_cons.mp hlog' with rfl | hlog'
    · exact hmessage
    · exact ih hrest _ h log' hlog'

/-! ### The page -/

theorem tags_markedPage_eq_iff {s : ContainerSingleton} (hlast : Plain s.mDBUpdateLastTimes)
    (hplain : ∀ log ∈ s.mLogEntries, Plain log.function ∧ Plain log.file) :
    tags Prod.fst s.markedPage = s.pageTags.map own ↔
      ∀ log ∈ s.shown, IsText log.message.toList := by
  have hshown : ∀ log ∈ s.shown, Plain log.function ∧ Plain log.file := fun log hlog =>
    hplain log (List.mem_of_mem_take hlog)
  have hhead := readAll_own (reads_entriesHead hlast) []
  have hstart : tags Prod.fst s.markedPage
      = ((Reader.text (["<ul class='success'>", "<li>", "</li>", "</ul>",
          "<ul class='errors'>"].map own)).readAll Prod.fst
            (s.shown.flatMap markedEntry ++ own s.pageEnd)).tags := by
    rw [tags, markedPage, List.append_assoc, readAll_append]
    exact congrArg (fun r => (Reader.readAll Prod.fst r _).tags) hhead
  rw [hstart, pageTags]
  constructor
  · exact isText_of_tags s.reads_pageEnd hshown _
  · intro hmessages
    rw [readAll_append, readAll_flatMap_markedEntry hshown hmessages,
      readAll_own s.reads_pageEnd]
    rfl

/-- Letters take as many bytes, so the same entries are shown. -/
theorem shown_withLetters (s : ContainerSingleton) :
    s.withLetters.shown = s.shown.map fun log => { log with message := letters log.message } := by
  have hsizes : (s.mLogEntries.map fun log => { log with message := letters log.message }).map
      logSize = s.mLogEntries.map logSize := by
    rw [List.map_map]
    refine List.map_congr_left fun log _ => ?_
    have hletters : (letters log.message).utf8ByteSize = log.message.utf8ByteSize :=
      utf8ByteSize_replicate (by decide) _
    simp only [Function.comp_apply, logSize, hletters]
  unfold shown withLetters
  simp only [hsizes, List.map_take]

theorem pageTags_withLetters (s : ContainerSingleton) : s.withLetters.pageTags = s.pageTags := by
  have hlength : s.withLetters.mLogEntries.length = s.mLogEntries.length := List.length_map _
  have hentries : s.withLetters.shown.flatMap entryTags = s.shown.flatMap entryTags := by
    rw [shown_withLetters, List.flatMap_map]
    rfl
  unfold pageTags
  rw [hentries, hlength, shown_withLetters, List.length_map]

theorem isText_letters (message : String) : IsText (letters message).toList := by
  have hplain : ∀ c ∈ (letters message).toList, c ≠ '<' := by
    intro c hc
    rw [letters, String.toList_ofList] at hc
    rw [List.eq_of_mem_replicate hc]
    decide
  have hread := readAll_text_of_plain id hplain []
  exact ⟨by rw [tags, hread]; rfl, .inl (by rw [hread]; rfl)⟩

/-- **Messages and tags.**  For a page whose other texts hold no `<` and no `>`: the page has the
same tags, and from the same places, as with letters for messages, one list item for each entry with
one span in it, exactly if every message that is shown is text by itself. -/
theorem tags_markedPage_iff (s : ContainerSingleton) (hlast : Plain s.mDBUpdateLastTimes)
    (hplain : ∀ log ∈ s.mLogEntries, Plain log.function ∧ Plain log.file) :
    s.markedPage.map Prod.fst = s.getErrorsHtml.toList ∧
      ((tags Prod.fst s.markedPage = tags Prod.fst s.withLetters.markedPage ∧
          tags Prod.fst s.markedPage = s.pageTags.map own) ↔
        ∀ log ∈ s.shown, IsText log.message.toList) := by
  have hletters : tags Prod.fst s.withLetters.markedPage = s.pageTags.map own := by
    rw [← pageTags_withLetters]
    refine (tags_markedPage_eq_iff (s := s.withLetters) hlast fun log hlog => ?_).mpr
      fun log hlog => ?_
    · obtain ⟨log, hmem, rfl⟩ := List.mem_map.mp hlog
      exact hplain log hmem
    · rw [shown_withLetters] at hlog
      obtain ⟨log, -, rfl⟩ := List.mem_map.mp hlog
      exact isText_letters log.message
  refine ⟨s.map_fst_markedPage, ?_⟩
  rw [hletters, and_self, tags_markedPage_eq_iff hlast hplain]

/-- A page with one message without any `<`. -/
theorem tags_markedPage_no_database :
    tags Prod.fst (new.addLog ⟨.ERROR, "no database", "run", "main.cpp", 95⟩).markedPage
      = (pageTags (new.addLog ⟨.ERROR, "no database", "run", "main.cpp", 95⟩)).map own := by
  have hplain : ∀ log ∈ (new.addLog ⟨.ERROR, "no database", "run", "main.cpp", 95⟩).mLogEntries,
      Plain log.function ∧ Plain log.file := by decide
  exact ((tags_markedPage_iff (new.addLog ⟨.ERROR, "no database", "run", "main.cpp", 95⟩)
    (fun c hc => absurd hc List.not_mem_nil) hplain).2.mpr (by decide +kernel)).2

/-- An email from the database that does not match the pattern is logged as it is, and one that is a
script is a script on the page. -/
theorem tags_markedPage_script :
    tags Prod.fst (new.addLog ⟨.ERROR, "<script>alert(1)</script> matched false with email valid "
        ++ "pattern, please update pattern!", "loadFromDb", "CacheServer.cpp", 322⟩).markedPage
      ≠ tags Prod.fst (new.addLog ⟨.ERROR,
        "<script>alert(1)</script> matched false with email valid "
        ++ "pattern, please update pattern!", "loadFromDb", "CacheServer.cpp",
          322⟩).withLetters.markedPage := by
  decide +kernel

end GdtCache.Logging.ContainerSingleton
