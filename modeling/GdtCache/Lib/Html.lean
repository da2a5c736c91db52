import Mathlib.Data.List.Basic

/-!
# Tags in a text

A text read as HTML, as far as its tags are concerned: the states of the HTML tokenizer that decide
where a tag begins and where it ends, with quoted attribute values, and with comments and other
markup declarations, which hold no tags.  `tags` lists the start and end tags of a text, each with
all its characters.  A `<` that is not followed by a letter, `/`, `!` or `?` is text, and so is a
piece of markup that the end of the text cuts off.

Elements whose content is read in another way (`script`, `style`, `title`, ...) are not treated
apart: what is said here is meant for texts without them, and whether a text has one is seen from
its tags.

A reader takes one character after another, of any type that has a character (`char`): what it
reads can carry marks, and the tags keep them (`readAll_map`).
-/

namespace GdtCache.Lib.Html

/-! ### The tokenizer -/

/-- The states behind a `<` that begins markup. -/
inductive Markup
  | endTagOpen
  | tagName
  | beforeAttributeName
  | attributeName
  | afterAttributeName
  | beforeAttributeValue
  | attributeValueQuoted (quote : Char)
  | attributeValueUnquoted
  | afterAttributeValueQuoted
  | selfClosingStartTag
  | bogusComment
  | markupDeclarationOpen
  | markupDeclarationDash
  | commentStart
  | commentStartDash
  | comment
  | commentEndDash
  | commentEnd
  | commentEndBang
  deriving DecidableEq

/-- What a character does to markup. -/
inductive Outcome
  | inside (m : Markup)
  /-- It ends a tag. -/
  | tag
  /-- It ends a comment, or `</>`, which is nothing at all. -/
  | dropped
  deriving DecidableEq

/-- White space between attributes. -/
def isSpace (c : Char) : Bool :=
  c = '\t' || c = '\n' || c = '\x0c' || c = '\r' || c = ' '

/-- Within a tag, where neither a name nor a value goes on. -/
def beforeAttribute (c : Char) : Outcome :=
  if isSpace c then .inside .beforeAttributeName
  else if c = '/' then .inside .selfClosingStartTag
  else if c = '>' then .tag
  else .inside .attributeName

/-- The next character of markup. -/
def Markup.next (c : Char) : Markup → Outcome
  | .endTagOpen =>
    if c.isAlpha then .inside .tagName else if c = '>' then .dropped else .inside .bogusComment
  | .tagName =>
    if isSpace c then .inside .beforeAttributeName
    else if c = '/' then .inside .selfClosingStartTag
    else if c = '>' then .tag
    else .inside .tagName
  | .beforeAttributeName | .afterAttributeValueQuoted | .selfClosingStartTag => beforeAttribute c
  | .attributeName =>
    if isSpace c then .inside .afterAttributeName
    else if c = '=' then .inside .beforeAttributeValue
    else if c = '/' then .inside .selfClosingStartTag
    else if c = '>' then .tag
    else .inside .attributeName
  | .afterAttributeName =>
    if isSpace c then .inside .afterAttributeName
    else if c = '=' then .inside .beforeAttributeValue
    else beforeAttribute c
  | .beforeAttributeValue =>
    if isSpace c then .inside .beforeAttributeValue
    else if c = '"' ∨ c = '\'' then .inside (.attributeValueQuoted c)
    else if c = '>' then .tag
    else .inside .attributeValueUnquoted
  | .attributeValueQuoted quote =>
    .inside (if c = quote then .afterAttributeValueQuoted else .attributeValueQuoted quote)
  | .attributeValueUnquoted =>
    if isSpace c then .inside .beforeAttributeName
    else if c = '>' then .tag
    else .inside .attributeValueUnquoted
  | .bogusComment => if c = '>' then .dropped else .inside .bogusComment
  | .markupDeclarationOpen =>
    if c = '-' then .inside .markupDeclarationDash
    else if c = '>' then .dropped
    else .inside .bogusComment
  | .markupDeclarationDash =>
    if c = '-' then .inside .commentStart else if c = '>' then .dropped else .inside .bogusComment
  | .commentStart =>
    if c = '-' then .inside .commentStartDash else if c = '>' then .dropped else .inside .comment
  | .commentStartDash =>
    if c = '-' then .inside .commentEnd else if c = '>' then .dropped else .inside .comment
  | .comment => .inside (if c = '-' then .commentEndDash else .comment)
  | .commentEndDash => .inside (if c = '-' then .commentEnd else .comment)
  | .commentEnd =>
    if c = '>' then .dropped
    else if c = '!' then .inside .commentEndBang
    else .inside (if c = '-' then .commentEnd else .comment)
  | .commentEndBang =>
    if c = '-' then .inside .commentEndDash else if c = '>' then .dropped else .inside .comment

/-- What follows a `<`, if it begins markup. -/
def opened (c : Char) : Option Markup :=
  if c.isAlpha then some .tagName
  else if c = '/' then some .endTagOpen
  else if c = '!' then some .markupDeclarationOpen
  else if c = '?' then some .bogusComment
  else none

/-- The states of the tokenizer. -/
inductive State
  | data
  /-- Behind a `<`. -/
  | tagOpen
  | markup (m : Markup)
  deriving DecidableEq

/-- The tokenizer in the middle of a text. -/
structure Reader (α : Type*) where
  state : State
  /-- From the last `<` on, unless that has turned out to be text. -/
  piece : List α
  /-- The tags so far. -/
  tags : List (List α)
  deriving DecidableEq

/-- Between pieces of markup. -/
def Reader.text {α : Type*} (tags : List (List α)) : Reader α :=
  ⟨.data, [], tags⟩

variable {α β : Type*} (char : α → Char)

/-- One character. -/
def Reader.read (r : Reader α) (a : α) : Reader α :=
  match r.state with
  | .data => if char a = '<' then ⟨.tagOpen, [a], r.tags⟩ else .text r.tags
  | .tagOpen =>
    if char a = '<' then ⟨.tagOpen, [a], r.tags⟩
    else
      match opened (char a) with
      | some m => ⟨.markup m, r.piece ++ [a], r.tags⟩
      | none => .text r.tags
  | .markup m =>
    match m.next (char a) with
    | .inside m => ⟨.markup m, r.piece ++ [a], r.tags⟩
    | .tag => .text (r.tags ++ [r.piece ++ [a]])
    | .dropped => .text r.tags

/-- A text. -/
def Reader.readAll (r : Reader α) (input : List α) : Reader α :=
  input.foldl (Reader.read char) r

/-- The tags of a text. -/
def tags (input : List α) : List (List α) :=
  ((Reader.text []).readAll char input).tags

/-- A text without tags that leaves no markup open at its end. -/
def IsText (input : List Char) : Prop :=
  tags id input = [] ∧
    (((Reader.text []).readAll id input).state = .data ∨
      ((Reader.text []).readAll id input).state = .tagOpen)

instance (input : List Char) : Decidable (IsText input) :=
  inferInstanceAs (Decidable (_ ∧ _))

example : tags id "a < b <i title='>'>x</i><!-- <b> -->".toList
    = ["<i title='>'>".toList, "</i>".toList] := by decide +kernel

/-! ### Reading on -/

theorem readAll_nil (r : Reader α) : r.readAll char [] = r := rfl

theorem readAll_cons (r : Reader α) (a : α) (input : List α) :
    r.readAll char (a :: input) = (r.read char a).readAll char input := rfl

theorem readAll_append (r : Reader α) (a b : List α) :
    r.readAll char (a ++ b) = (r.readAll char a).readAll char b :=
  List.foldl_append

/-- With more tags in front. -/
def Reader.behind (front : List (List α)) (r : Reader α) : Reader α :=
  { r with tags := front ++ r.tags }

/-- What has been read before does not matter for what is read next. -/
theorem readAll_behind (front : List (List α)) (r : Reader α) (input : List α) :
    (r.behind front).readAll char input = (r.readAll char input).behind front := by
  have hread : ∀ (r : Reader α) (a : α),
      (r.behind front).read char a = (r.read char a).behind front := by
    intro r a
    obtain ⟨state, piece, tags⟩ := r
    cases state with
    | data =>
      simp only [Reader.read, Reader.behind]
      split_ifs <;> rfl
    | tagOpen =>
      simp only [Reader.read, Reader.behind]
      split_ifs
      · rfl
      · cases opened (char a) <;> rfl
    | markup m =>
      simp only [Reader.read, Reader.behind]
      cases m.next (char a) with
      | inside m' => rfl
      | tag => simp [Reader.text]
      | dropped => rfl
  induction input generalizing r with
  | nil => rfl
  | cons a input ih => rw [readAll_cons, hread, ih, readAll_cons]

/-- Tags stay. -/
theorem tags_prefix_readAll (r : Reader α) (input : List α) :
    r.tags <+: (r.readAll char input).tags := by
  have hbehind : r = Reader.behind r.tags { r with tags := [] } := by
    simp [Reader.behind]
  conv_rhs => rw [hbehind, readAll_behind]
  exact List.prefix_append _ _

/-- A reader of other elements. -/
def Reader.map (f : α → β) (r : Reader α) : Reader β :=
  ⟨r.state, r.piece.map f, r.tags.map (List.map f)⟩

/-- Only the characters decide. -/
theorem readAll_map {char' : β → Char} {f : α → β} (hf : ∀ a, char' (f a) = char a) (r : Reader α)
    (input : List α) :
    (r.map f).readAll char' (input.map f) = (r.readAll char input).map f := by
  have hread : ∀ (r : Reader α) (a : α), (r.map f).read char' (f a) = (r.read char a).map f := by
    intro r a
    obtain ⟨state, piece, tags⟩ := r
    cases state with
    | data =>
      simp only [Reader.read, Reader.map, hf]
      split_ifs <;> rfl
    | tagOpen =>
      simp only [Reader.read, Reader.map, hf]
      split_ifs
      · rfl
      · cases opened (char a) with
        | none => rfl
        | some m => simp
    | markup m =>
      simp only [Reader.read, Reader.map, hf]
      cases m.next (char a) with
      | inside m' => simp
      | tag => simp [Reader.text]
      | dropped => rfl
  induction input generalizing r with
  | nil => rfl
  | cons a input ih => rw [List.map_cons, readAll_cons, hread, ih, readAll_cons]

/-! ### Plain texts -/

/-- Without `<` nothing begins. -/
theorem readAll_text_of_plain {input : List α} (h : ∀ a ∈ input, char a ≠ '<')
    (tags : List (List α)) : (Reader.text tags).readAll char input = .text tags := by
  induction input with
  | nil => rfl
  | cons a input ih =>
    have ha : (Reader.text tags).read char a = .text tags := if_neg (h a List.mem_cons_self)
    rw [readAll_cons, ha]
    exact ih fun b hb => h b (List.mem_cons_of_mem a hb)

/-- A `<` behind which no markup begins. -/
theorem read_of_tagOpen {r : Reader α} (hr : r.state = .tagOpen) {a : α} (ha : char a ≠ '<')
    (hopened : opened (char a) = none) : r.read char a = .text r.tags := by
  unfold Reader.read
  simp only [hr, if_neg ha, hopened]

/-- Only `>` ends markup. -/
theorem next_of_ne {c : Char} (hc : c ≠ '>') (m : Markup) : ∃ m', m.next c = .inside m' := by
  cases m <;> simp only [Markup.next, beforeAttribute, hc, if_false] <;>
    (repeat' split) <;> exact ⟨_, rfl⟩

/-- Without `>` markup goes on. -/
theorem readAll_markup {input : List α} (h : ∀ a ∈ input, char a ≠ '>') {r : Reader α} {m : Markup}
    (hr : r.state = .markup m) :
    ∃ m', r.readAll char input = ⟨.markup m', r.piece ++ input, r.tags⟩ := by
  induction input generalizing r m with
  | nil => exact ⟨m, by rw [readAll_nil, List.append_nil, ← hr]⟩
  | cons a input ih =>
    obtain ⟨m', hnext⟩ := next_of_ne (h a List.mem_cons_self) m
    have ha : r.read char a = ⟨.markup m', r.piece ++ [a], r.tags⟩ := by
      unfold Reader.read
      simp only [hr, hnext]
    rw [readAll_cons, ha]
    obtain ⟨m'', heq⟩ := @ih (fun b hb => h b (List.mem_cons_of_mem a hb))
      ⟨.markup m', r.piece ++ [a], r.tags⟩ m' rfl
    exact ⟨m'', by rw [heq, List.append_assoc, List.singleton_append]⟩

/-! ### Where tags come from -/

/-- A tag is not empty, and neither is a piece of markup. -/
theorem ne_nil_of_readAll {r : Reader α} (hpiece : r.state ≠ .data → r.piece ≠ [])
    (htags : ∀ t ∈ r.tags, t ≠ []) (input : List α) :
    ((r.readAll char input).state ≠ .data → (r.readAll char input).piece ≠ []) ∧
      ∀ t ∈ (r.readAll char input).tags, t ≠ [] := by
  induction input generalizing r with
  | nil => exact ⟨hpiece, htags⟩
  | cons a input ih =>
    rw [readAll_cons]
    unfold Reader.read
    cases hstate : r.state with
    | data =>
      simp only
      split_ifs
      · exact ih (fun _ => List.cons_ne_nil _ _) htags
      · exact ih (fun h => absurd rfl h) htags
    | tagOpen =>
      simp only
      split_ifs
      · exact ih (fun _ => List.cons_ne_nil _ _) htags
      · cases opened (char a) with
        | none => exact ih (fun h => absurd rfl h) htags
        | some m => exact ih (fun _ => by simp) htags
    | markup m =>
      simp only
      cases m.next (char a) with
      | inside m' => exact ih (fun _ => by simp) htags
      | dropped => exact ih (fun h => absurd rfl h) htags
      | tag =>
        refine ih (fun h => absurd rfl h) fun t ht => ?_
        rcases List.mem_append.mp ht with ht | ht
        · exact htags t ht
        · rw [List.mem_singleton.mp ht]
          simp

/-- `1` for a piece that is made of one kind of elements only. -/
def weight (own : α → Bool) (piece : List α) : ℕ :=
  if piece.all own then 1 else 0

theorem weight_append_le (own : α → Bool) (piece : List α) (a : α) :
    weight own (piece ++ [a]) ≤ weight own piece := by
  unfold weight
  rw [List.all_append]
  cases piece.all own with
  | false => exact Nat.le_refl 0
  | true =>
    rw [Bool.true_and, if_pos (rfl : true = true)]
    split_ifs <;> omega

/-- How many tags are made of one kind of elements only, with the piece that is being read. -/
def Reader.tagsOf (own : α → Bool) (r : Reader α) : ℕ :=
  r.tags.countP (List.all · own) + if r.state = .data then 0 else weight own r.piece

/-- Each of them begins with a `<` of that kind. -/
theorem tagsOf_read (own : α → Bool) (r : Reader α) (a : α) :
    (r.read char a).tagsOf own
      ≤ r.tagsOf own + if own a && decide (char a = '<') then 1 else 0 := by
  have hsingle : weight own [a] = if own a then 1 else 0 := by
    simp [weight]
  have happend := weight_append_le own r.piece a
  unfold Reader.read Reader.tagsOf
  cases hstate : r.state with
  | data =>
    by_cases hlt : char a = '<'
    · simp [hlt, hsingle]
    · simp [hlt, Reader.text]
  | tagOpen =>
    by_cases hlt : char a = '<'
    · simp only [hlt, if_true, hsingle, reduceCtorEq, if_false, decide_true, Bool.and_true]
      omega
    · cases opened (char a) with
      | none => simp [hlt, Reader.text]
      | some m =>
        simp only [hlt, if_false, reduceCtorEq]
        omega
  | markup m =>
    cases hnext : m.next (char a) with
    | inside m' =>
      simp only [hnext, reduceCtorEq, if_false]
      omega
    | tag =>
      have hcount : (r.tags ++ [r.piece ++ [a]]).countP (List.all · own)
          = r.tags.countP (List.all · own) + weight own (r.piece ++ [a]) := by
        rw [List.countP_append, List.countP_singleton]
        rfl
      simp only [hnext, Reader.text, if_true, reduceCtorEq, if_false, hcount]
      omega
    | dropped =>
      simp only [hnext, Reader.text, if_true, reduceCtorEq, if_false]
      omega

theorem tagsOf_readAll (own : α → Bool) (r : Reader α) (input : List α) :
    (r.readAll char input).tagsOf own
      ≤ r.tagsOf own + input.countP fun a => own a && decide (char a = '<') := by
  induction input generalizing r with
  | nil => exact Nat.le_refl _
  | cons a input ih =>
    have hstep := tagsOf_read char own r a
    have hrest := ih (r.read char a)
    rw [readAll_cons, List.countP_cons]
    omega

/-- A text without tags that is none leaves markup open. -/
theorem exists_markup_of_not_isText {input : List Char} (h : ¬ IsText input)
    (htags : tags id input = []) :
    ∃ m, ((Reader.text []).readAll id input).state = .markup m := by
  cases hstate : ((Reader.text []).readAll id input).state with
  | data => exact absurd ⟨htags, .inl hstate⟩ h
  | tagOpen => exact absurd ⟨htags, .inr hstate⟩ h
  | markup m => exact ⟨m, rfl⟩

/-! ### Texts of whole tags -/

/-- A text in which every `<` begins one of these tags, and every one of them ends. -/
structure Reads (text : String) (tags : List String) : Prop where
  readAll : (Reader.text []).readAll id text.toList = .text (tags.map String.toList)
  count : text.toList.count '<' = tags.length

theorem Reads.append {text text' : String} {tags tags' : List String} (h : Reads text tags)
    (h' : Reads text' tags') : Reads (text ++ text') (tags ++ tags') where
  readAll := by
    have hbehind := readAll_behind id (tags.map String.toList) (.text []) text'.toList
    rw [h'.readAll] at hbehind
    rw [String.toList_append, readAll_append, h.readAll, List.map_append]
    simpa [Reader.behind, Reader.text] using hbehind
  count := by
    rw [String.toList_append, List.count_append, h.count, h'.count, List.length_append]

/-- Without `<` there is no tag. -/
theorem reads_of_plain {text : String} (h : ∀ c ∈ text.toList, c ≠ '<') : Reads text [] where
  readAll := readAll_text_of_plain id h []
  count := List.count_eq_zero.mpr fun hmem => h '<' hmem rfl

end GdtCache.Lib.Html
