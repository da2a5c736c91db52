import GdtCache.Lib.Json
import Mathlib.Data.List.Forall2

/-!
# JSON put together without escaping

Objects whose strings are written as they are, and arrays of such objects.  If no string needs an
escape they are read back as what is meant (`array_raw`).  And the other way round: if what is read
back has the strings right, in whatever order and with whatever else, none of them needed one
(`plain_of_array_raw`).  So a single string that does cannot go unnoticed.
-/

namespace GdtCache.Lib.Json

/-! ### What is written -/

/-- A value as it is written without escapes. -/
inductive Raw
  | number (literal : List Char) (h : IsNumber literal)
  | string (text : List Char)

/-- A member with a plain key. -/
structure Field where
  key : String
  raw : Raw
  plain : ∀ c ∈ key.toList, IsPlain c

/-- The text of a value. -/
def Raw.text : Raw → List Char
  | .number literal _ => literal
  | .string text => '"' :: (text ++ ['"'])

/-- The value that is meant. -/
def Raw.value : Raw → Json
  | .number literal _ => .number (String.ofList literal)
  | .string text => .string (String.ofList text)

/-- It needs no escapes. -/
def Raw.IsPlain : Raw → Prop
  | .number _ _ => True
  | .string text => ∀ c ∈ text, Json.IsPlain c

/-- The text of a member. -/
def Field.text (f : Field) : List Char :=
  '"' :: (f.key.toList ++ '"' :: ':' :: f.raw.text)

/-- The member that is meant. -/
def Field.member (f : Field) : String × Json :=
  (f.key, f.raw.value)

/-- An object whose last member is a number, as it is written without escapes. -/
structure RawObject where
  fields : List Field
  key : String
  literal : List Char
  number : IsNumber literal
  plain : ∀ c ∈ key.toList, IsPlain c

namespace RawObject

/-- The last member. -/
def last (o : RawObject) : Field :=
  ⟨o.key, .number o.literal o.number, o.plain⟩

/-- The text between the braces, from some field on. -/
def membersText (last : Field) (fields : List Field) : List Char :=
  fields.foldr (fun f text => f.text ++ ',' :: text) last.text

/-- The text of the object. -/
def text (o : RawObject) : List Char :=
  '{' :: (membersText o.last o.fields ++ ['}'])

/-- The members that are meant. -/
def members (o : RawObject) : List (String × Json) :=
  (o.fields ++ [o.last]).map Field.member

/-- No string of it needs escapes. -/
def IsPlain (o : RawObject) : Prop :=
  ∀ f ∈ o.fields, f.raw.IsPlain

/-- Where these members name one of the strings, they have it right. -/
def Agrees (fields : List Field) (members : List (String × Json)) : Prop :=
  ∀ f ∈ fields, ∀ text, f.raw = .string text → ∀ v, (f.key, v) ∈ members →
    v = .string (String.ofList text)

theorem membersText_eq_cons (last : Field) (fields : List Field) :
    ∃ text, membersText last fields = '"' :: text := by
  cases fields with
  | nil => exact ⟨_, rfl⟩
  | cons f fields => exact ⟨_, rfl⟩

theorem membersText_nil_append (last : Field) (behind : List Char) :
    membersText last [] ++ behind
      = '"' :: (last.key.toList ++ '"' :: ':' :: (last.raw.text ++ behind)) := by
  simp [membersText, Field.text]

theorem membersText_cons_append (last f : Field) (fields : List Field) (behind : List Char) :
    membersText last (f :: fields) ++ behind
      = '"' :: (f.key.toList ++ '"' :: ':' ::
          (f.raw.text ++ ',' :: (membersText last fields ++ behind))) := by
  simp [membersText, Field.text]

end RawObject

theorem skip_number {literal : List Char} (h : IsNumber literal) (behind : List Char) :
    skip (literal ++ behind) = literal ++ behind := by
  obtain ⟨c, literal', rfl, hc⟩ := h.exists_cons
  rw [List.cons_append]
  refine skip_cons ?_ _
  rcases hc with rfl | hc
  · rfl
  · -- a digit is no white space
    unfold isBlank
    rw [Bool.eq_false_iff]
    intro hblank
    simp only [Bool.or_eq_true, decide_eq_true_eq] at hblank
    rcases hblank with ((rfl | rfl) | rfl) | rfl <;> exact absurd hc (by decide)

/-- A value in front of another member is read as itself if and only if it needs no escapes. -/
theorem value_raw_iff {raw : Raw} {behind rest : List Char} :
    Value (skip (raw.text ++ ',' :: '"' :: behind)) raw.value rest ↔
      raw.IsPlain ∧ rest = ',' :: '"' :: behind := by
  cases raw with
  | number literal h =>
    show Value (skip (literal ++ ',' :: '"' :: behind)) (.number (String.ofList literal)) rest ↔
      True ∧ rest = ',' :: '"' :: behind
    rw [skip_number h, value_number_iff h rfl]
    exact and_congr_left fun _ => iff_of_true rfl trivial
  | string text =>
    have hskip : skip (Raw.text (.string text) ++ ',' :: '"' :: behind)
        = '"' :: (text ++ '"' :: ',' :: '"' :: behind) := by
      have htext : Raw.text (.string text) ++ ',' :: '"' :: behind
          = '"' :: (text ++ '"' :: ',' :: '"' :: behind) := by
        simp [Raw.text]
      rw [htext]
      exact skip_cons rfl _
    rw [hskip, value_quote_iff]
    show (∃ text', Chars _ text' rest ∧ Json.string _ = Json.string _) ↔
      (∀ c ∈ text, Json.IsPlain c) ∧ rest = ',' :: '"' :: behind
    rw [← chars_raw_iff]
    constructor
    · rintro ⟨text', h, heq⟩
      obtain rfl : text = text' := String.ofList_injective (Json.string.inj heq)
      exact h
    · intro h
      exact ⟨text, h, rfl⟩

/-- So it is plain if the value read is right, for a string. -/
theorem value_raw {raw : Raw} {v : Json} {behind rest : List Char}
    (h : Value (skip (raw.text ++ ',' :: '"' :: behind)) v rest)
    (hv : ∀ text, raw = .string text → v = .string (String.ofList text)) :
    v = raw.value ∧ raw.IsPlain ∧ rest = ',' :: '"' :: behind := by
  have hvalue : v = raw.value := by
    cases raw with
    | number literal hnumber =>
      have htext : Raw.text (.number literal hnumber) = literal := rfl
      rw [htext, skip_number hnumber] at h
      exact ((value_number_iff hnumber rfl).mp h).1
    | string text => exact hv text rfl
  subst hvalue
  exact ⟨rfl, value_raw_iff.mp h⟩

/-- A value that needs no escapes is read as itself and as nothing else. -/
theorem value_plain_iff {raw : Raw} (hplain : raw.IsPlain) {behind rest : List Char} {v : Json} :
    Value (skip (raw.text ++ ',' :: '"' :: behind)) v rest ↔
      v = raw.value ∧ rest = ',' :: '"' :: behind := by
  constructor
  · intro h
    cases raw with
    | number literal hnumber =>
      have htext : Raw.text (.number literal hnumber) = literal := rfl
      rw [htext, skip_number hnumber] at h
      exact (value_number_iff hnumber rfl).mp h
    | string text =>
      have htext : Raw.text (.string text) ++ ',' :: '"' :: behind
          = '"' :: (text ++ '"' :: ',' :: '"' :: behind) := by
        simp [Raw.text]
      rw [htext, skip_cons rfl, value_quote_iff] at h
      obtain ⟨text', hchars, rfl⟩ := h
      obtain ⟨rfl, rfl⟩ := hchars.eq_of_plain hplain
      exact ⟨rfl, rfl⟩
  · rintro ⟨rfl, rfl⟩
    exact value_raw_iff.mpr ⟨hplain, rfl⟩

/-- A member that needs no escapes is read as itself, and the others follow. -/
theorem members_plain_iff {f : Field} (hplain : f.raw.IsPlain) {next rest : List Char}
    (hnext : next.head? = some '"') {members : List (String × Json)} :
    Members (f.text ++ ',' :: next) members rest ↔
      ∃ others, Members next others rest ∧ members = f.member :: others := by
  obtain ⟨behind, rfl⟩ := List.head?_eq_some_iff.mp hnext
  have htext : f.text ++ ',' :: '"' :: behind
      = '"' :: (f.key.toList ++ '"' :: ':' :: (f.raw.text ++ ',' :: '"' :: behind)) := by
    simp [Field.text]
  rw [htext, members_key_iff f.plain]
  constructor
  · rintro ⟨v, behind', hv, hend⟩
    obtain ⟨rfl, rfl⟩ := (value_plain_iff hplain).mp hv
    rw [skip_cons rfl] at hend
    rcases hend with ⟨hend, -⟩ | ⟨input, others, hcomma, hothers, rfl⟩
    · cases hend
    · cases hcomma
      exact ⟨others, hothers, rfl⟩
  · rintro ⟨others, hothers, rfl⟩
    exact ⟨f.raw.value, _, (value_plain_iff hplain).mpr ⟨rfl, rfl⟩,
      .inr ⟨_, others, skip_cons rfl _, hothers, rfl⟩⟩

namespace RawObject

variable {last : Field} {literal : List Char} {hnumber : IsNumber literal}

/-- **Members without escapes** are read back if their strings are plain. -/
theorem members_raw (hlast : last.raw = .number literal hnumber) {fields : List Field}
    (hplain : ∀ f ∈ fields, f.raw.IsPlain) (behind : List Char) :
    Members (membersText last fields ++ '}' :: behind) ((fields ++ [last]).map Field.member)
      behind := by
  induction fields with
  | nil =>
    have hv : Value (skip (literal ++ '}' :: behind)) last.raw.value ('}' :: behind) := by
      rw [skip_number hnumber, hlast]
      exact (value_number_iff hnumber rfl).mpr ⟨rfl, rfl⟩
    have htext : last.raw.text = literal := by rw [hlast, Raw.text]
    rw [membersText_nil_append, htext]
    exact (members_key_iff last.plain).mpr ⟨_, _, hv, .inl ⟨skip_cons rfl _, rfl⟩⟩
  | cons f fields ih =>
    have hrest := ih fun g hg => hplain g (List.mem_cons_of_mem f hg)
    obtain ⟨text, htext⟩ := membersText_eq_cons last fields
    rw [membersText_cons_append]
    have hv : Value (skip (f.raw.text ++ ',' :: (membersText last fields ++ '}' :: behind)))
        f.raw.value (',' :: (membersText last fields ++ '}' :: behind)) := by
      rw [htext]
      exact value_raw_iff.mpr ⟨hplain f List.mem_cons_self, rfl⟩
    exact (members_key_iff f.plain).mpr ⟨_, _, hv, .inr ⟨_, _, skip_cons rfl _, hrest, rfl⟩⟩

/-- And they are plain if what is read has the strings right. -/
theorem plain_of_members_raw (hlast : last.raw = .number literal hnumber) {fields : List Field}
    {behind rest : List Char} {members : List (String × Json)}
    (h : Members (membersText last fields ++ '}' :: behind) members rest)
    (hagrees : Agrees fields members) : (∀ f ∈ fields, f.raw.IsPlain) ∧ rest = behind := by
  induction fields generalizing members with
  | nil =>
    have htext : last.raw.text = literal := by rw [hlast, Raw.text]
    rw [membersText_nil_append, htext, members_key_iff last.plain] at h
    obtain ⟨v, behind', hv, hend⟩ := h
    rw [skip_number hnumber, value_number_iff hnumber rfl] at hv
    obtain ⟨-, rfl⟩ := hv
    rw [skip_cons rfl] at hend
    rcases hend with ⟨hend, -⟩ | ⟨input, members', hcomma, -⟩
    · cases hend
      exact ⟨fun f hf => absurd hf List.not_mem_nil, rfl⟩
    · cases hcomma
  | cons f fields ih =>
    obtain ⟨text, htext⟩ := membersText_eq_cons last fields
    rw [membersText_cons_append, members_key_iff f.plain] at h
    obtain ⟨v, behind', hv, hend⟩ := h
    -- the first member is among the members, whichever way the object goes on
    have hmem : (f.key, v) ∈ members := by
      rcases hend with ⟨-, rfl⟩ | ⟨input, members', -, -, rfl⟩
      · exact List.mem_cons_self
      · exact List.mem_cons_self
    rw [htext, List.cons_append] at hv
    obtain ⟨-, hplain, rfl⟩ := value_raw hv fun text hraw =>
      hagrees f List.mem_cons_self text hraw v hmem
    rw [skip_cons rfl] at hend
    rcases hend with ⟨hbrace, -⟩ | ⟨input, members', hcomma, hmembers, rfl⟩
    · cases hbrace
    · obtain rfl : '"' :: (text ++ '}' :: behind) = input := by simpa using hcomma
      rw [← List.cons_append, ← htext] at hmembers
      obtain ⟨hrest, hbehind⟩ := ih hmembers fun g hg text hraw v hv =>
        hagrees g (List.mem_cons_of_mem f hg) text hraw v (List.mem_cons_of_mem _ hv)
      exact ⟨List.forall_mem_cons.mpr ⟨hplain, hrest⟩, hbehind⟩

theorem text_append (o : RawObject) (behind : List Char) :
    o.text ++ behind = '{' :: (membersText o.last o.fields ++ '}' :: behind) := by
  simp [text]

theorem skip_membersText (o : RawObject) (behind : List Char) :
    ∀ r, skip (membersText o.last o.fields ++ behind) ≠ '}' :: r := by
  intro r
  obtain ⟨text, htext⟩ := membersText_eq_cons o.last o.fields
  rw [htext, List.cons_append, skip_cons rfl]
  simp

theorem value_raw {o : RawObject} (h : o.IsPlain) (behind : List Char) :
    Value (o.text ++ behind) (.object o.members) behind := by
  rw [text_append]
  exact .object (members_raw rfl h behind)

theorem plain_of_value_raw {o : RawObject} {behind rest : List Char}
    {members : List (String × Json)} (h : Value (o.text ++ behind) (.object members) rest)
    (hagrees : Agrees o.fields members) : o.IsPlain ∧ rest = behind := by
  rw [text_append, value_brace_iff (skip_membersText o _)] at h
  obtain ⟨members', hmembers, heq⟩ := h
  obtain rfl := Json.object.inj heq
  exact plain_of_members_raw rfl hmembers hagrees

/-! ### Arrays of such objects -/

/-- The objects, with a comma between them. -/
def elementsText (objects : List RawObject) : List Char :=
  [','].intercalate (objects.map text)

theorem skip_text (o : RawObject) (behind : List Char) :
    skip (o.text ++ behind) = o.text ++ behind := by
  rw [text_append]
  exact skip_cons rfl _

theorem elementsText_singleton (o : RawObject) : elementsText [o] = o.text := by
  simp [elementsText]

theorem elementsText_cons_cons (o o' : RawObject) (objects : List RawObject) :
    elementsText (o :: o' :: objects) = o.text ++ ',' :: elementsText (o' :: objects) := by
  simp [elementsText, List.intercalate_cons_cons]

/-- **Elements without escapes** are read back if their strings are plain. -/
theorem elements_raw {o : RawObject} {objects : List RawObject}
    (h : ∀ x ∈ o :: objects, x.IsPlain) (behind : List Char) :
    Elements (elementsText (o :: objects) ++ ']' :: behind)
      ((o :: objects).map fun x => .object x.members) behind := by
  induction objects generalizing o with
  | nil =>
    have hv := value_raw (h o List.mem_cons_self) (']' :: behind)
    rw [← skip_text] at hv
    rw [elementsText_singleton]
    exact .last hv (skip_cons rfl _)
  | cons o' objects ih =>
    have hv := value_raw (h o List.mem_cons_self)
      (',' :: (elementsText (o' :: objects) ++ ']' :: behind))
    rw [← skip_text] at hv
    rw [elementsText_cons_cons, List.append_assoc, List.cons_append]
    exact .cons hv (skip_cons rfl _) (ih fun x hx => h x (List.mem_cons_of_mem o hx))

/-- And they are plain if what is read has the strings right. -/
theorem plain_of_elements_raw {objects : List RawObject} {behind rest : List Char}
    {elements : List Json}
    (h : Elements (elementsText objects ++ ']' :: behind) elements rest)
    (hagrees : List.Forall₂
      (fun v o => ∃ members, v = .object members ∧ Agrees o.fields members) elements objects) :
    (∀ o ∈ objects, o.IsPlain) ∧ rest = behind := by
  induction hagrees generalizing rest with
  | nil => cases h
  | @cons v o elements objects hv hagrees ih =>
    obtain ⟨members, rfl, hmembers⟩ := hv
    cases objects with
    | nil =>
      rw [elementsText_singleton] at h
      cases h with
      | last hvalue hend =>
        rw [skip_text] at hvalue
        obtain ⟨hplain, rfl⟩ := plain_of_value_raw hvalue hmembers
        rw [skip_cons rfl] at hend
        cases hend
        exact ⟨List.forall_mem_singleton.mpr hplain, rfl⟩
      | cons _ _ hrest =>
        cases hagrees
        cases hrest
    | cons o' objects =>
      rw [elementsText_cons_cons, List.append_assoc, List.cons_append] at h
      cases h with
      | last _ _ => cases hagrees
      | cons hvalue hcomma hrest =>
        rw [skip_text] at hvalue
        obtain ⟨hplain, rfl⟩ := plain_of_value_raw hvalue hmembers
        rw [skip_cons rfl] at hcomma
        cases hcomma
        obtain ⟨hall, rfl⟩ := ih hrest
        exact ⟨List.forall_mem_cons.mpr ⟨hplain, hall⟩, rfl⟩

/-- The array of the objects is read back if their strings are plain. -/
theorem array_raw {objects : List RawObject} (h : ∀ o ∈ objects, o.IsPlain)
    (behind : List Char) :
    Value ('[' :: (elementsText objects ++ ']' :: behind))
      (.array (objects.map fun o => .object o.members)) behind := by
  cases objects with
  | nil => exact .emptyArray (skip_cons rfl _)
  | cons o objects => exact .array (elements_raw h behind)

/-- And they are plain if what is read has the strings right. -/
theorem plain_of_array_raw {objects : List RawObject} {behind rest : List Char}
    {elements : List Json}
    (h : Value ('[' :: (elementsText objects ++ ']' :: behind)) (.array elements) rest)
    (hagrees : List.Forall₂
      (fun v o => ∃ members, v = .object members ∧ Agrees o.fields members) elements objects) :
    (∀ o ∈ objects, o.IsPlain) ∧ rest = behind := by
  cases objects with
  | nil =>
    cases h with
    | emptyArray hend =>
      have hend : skip (']' :: behind) = ']' :: rest := hend
      rw [skip_cons rfl] at hend
      cases hend
      exact ⟨fun o ho => absurd ho List.not_mem_nil, rfl⟩
    | array h =>
      cases hagrees
      cases h
  | cons o objects =>
    have hne : ∀ r, skip (elementsText (o :: objects) ++ ']' :: behind) ≠ ']' :: r := by
      intro r
      cases objects with
      | nil =>
        rw [elementsText_singleton, skip_text, text_append]
        simp
      | cons o' objects =>
        rw [elementsText_cons_cons, List.append_assoc, skip_text, text_append]
        simp
    obtain ⟨elements', helements, heq⟩ := (value_bracket_iff hne).mp h
    obtain rfl := Json.array.inj heq
    exact plain_of_elements_raw helements hagrees

end RawObject

end GdtCache.Lib.Json
