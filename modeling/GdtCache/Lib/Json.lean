import Mathlib.Data.List.TakeWhile

/-!
# JSON texts

The grammar of JSON as a relation: `Value input v rest` says that the value `v` stands at the
beginning of `input`, with `rest` behind it, and `Parses text v` that the text is that value and
nothing else.  A number is kept as its literal.

A string that is written without any escaping in front of `,"` is read back as itself if and only if
it consists of plain characters (`chars_raw_iff`).
-/

namespace GdtCache.Lib

/-- A JSON value. -/
inductive Json
  | null
  | bool (b : Bool)
  | number (literal : String)
  | string (text : String)
  | array (elements : List Json)
  | object (members : List (String × Json))

namespace Json

/-! ### Strings -/

/-- A character that stands for itself between quotes. -/
def IsPlain (c : Char) : Prop :=
  c ≠ '"' ∧ c ≠ '\\' ∧ 0x20 ≤ c.toNat

instance (c : Char) : Decidable (IsPlain c) :=
  inferInstanceAs (Decidable (_ ∧ _ ∧ _))

/-- The value of a hexadecimal digit. -/
def hexDigit (c : Char) : Option ℕ :=
  if c.isDigit then some (c.toNat - 48)
  else if 'a' ≤ c ∧ c ≤ 'f' then some (c.toNat - 87)
  else if 'A' ≤ c ∧ c ≤ 'F' then some (c.toNat - 55)
  else none

/-- Four hexadecimal digits and what is behind them. -/
def hex4 : List Char → Option (ℕ × List Char)
  | a :: b :: c :: d :: input =>
    match hexDigit a, hexDigit b, hexDigit c, hexDigit d with
    | some a, some b, some c, some d => some (((a * 16 + b) * 16 + c) * 16 + d, input)
    | _, _, _, _ => none
  | _ => none

/-- The character of the code unit `n`.  A high surrogate takes the low one behind it along; a
surrogate that is on its own is no character, and replaced. -/
def unicode (n : ℕ) (input : List Char) : Char × List Char :=
  if 0xd800 ≤ n ∧ n < 0xdc00 then
    match input with
    | '\\' :: 'u' :: low =>
      match hex4 low with
      | some (m, rest) =>
        if 0xdc00 ≤ m ∧ m < 0xe000 then
          (Char.ofNat (0x10000 + (n - 0xd800) * 0x400 + (m - 0xdc00)), rest)
        else ('\ufffd', input)
      | none => ('\ufffd', input)
    | _ => ('\ufffd', input)
  else if 0xdc00 ≤ n ∧ n < 0xe000 then ('\ufffd', input)
  else (Char.ofNat n, input)

/-- The character a letter stands for behind a backslash. -/
def shortEscape (c : Char) : Option Char :=
  if c = '"' ∨ c = '\\' ∨ c = '/' then some c
  else if c = 'b' then some '\x08'
  else if c = 'f' then some '\x0c'
  else if c = 'n' then some '\n'
  else if c = 'r' then some '\r'
  else if c = 't' then some '\t'
  else none

/-- The character an escape stands for, read from behind its backslash. -/
def escape : List Char → Option (Char × List Char)
  | [] => none
  | c :: input =>
    if c = 'u' then (hex4 input).map fun p => unicode p.1 p.2
    else (shortEscape c).map fun c => (c, input)

/-- The characters of a string, read from behind its opening quote. -/
inductive Chars : List Char → List Char → List Char → Prop
  | close {rest} : Chars ('"' :: rest) [] rest
  | plain {c input text rest} : IsPlain c → Chars input text rest →
      Chars (c :: input) (c :: text) rest
  | escape {input c behind text rest} : escape input = some (c, behind) →
      Chars behind text rest → Chars ('\\' :: input) (c :: text) rest

/-! ### Numbers -/

/-- At least one digit. -/
def IsDigits (digits : List Char) : Prop :=
  digits ≠ [] ∧ ∀ d ∈ digits, d.isDigit = true

/-- The integer part of a number: no zero in front of other digits. -/
def IsInt (digits : List Char) : Prop :=
  IsDigits digits ∧ (digits.head? = some '0' → digits = ['0'])

/-- The fraction of a number, if it has one. -/
def IsFraction (fraction : List Char) : Prop :=
  fraction = [] ∨ ∃ digits, IsDigits digits ∧ fraction = '.' :: digits

/-- The exponent of a number, if it has one. -/
def IsExponent (exponent : List Char) : Prop :=
  exponent = [] ∨ ∃ mark sign digits, (mark = 'e' ∨ mark = 'E') ∧
    (sign = [] ∨ sign = ['+'] ∨ sign = ['-']) ∧ IsDigits digits ∧
    exponent = mark :: (sign ++ digits)

/-- The literals of numbers. -/
def IsNumber (literal : List Char) : Prop :=
  ∃ sign int fraction exponent, (sign = [] ∨ sign = ['-']) ∧ IsInt int ∧ IsFraction fraction ∧
    IsExponent exponent ∧ literal = sign ++ int ++ fraction ++ exponent

/-- The characters of numbers.  Behind a number stands none of them. -/
def isNumberChar (c : Char) : Bool :=
  c.isDigit || c = '-' || c = '+' || c = '.' || c = 'e' || c = 'E'

/-- The number some digits stand for. -/
def natValue (digits : List Char) : Option ℕ :=
  if digits ≠ [] ∧ digits.all Char.isDigit then some (Nat.ofDigitChars 10 digits 0) else none

/-- The integer a literal without fraction and exponent stands for. -/
def intValue (literal : String) : Option ℤ :=
  match literal.toList with
  | '-' :: digits => (natValue digits).map fun n : ℕ => -Int.ofNat n
  | digits => (natValue digits).map Int.ofNat

/-! ### Values -/

/-- White space. -/
def isBlank (c : Char) : Bool :=
  c = ' ' || c = '\t' || c = '\n' || c = '\r'

/-- White space is skipped. -/
def skip (input : List Char) : List Char :=
  input.dropWhile isBlank

mutual

/-- A value. -/
inductive Value : List Char → Json → List Char → Prop
  | null {rest} : Value ('n' :: 'u' :: 'l' :: 'l' :: rest) .null rest
  | true {rest} : Value ('t' :: 'r' :: 'u' :: 'e' :: rest) (.bool true) rest
  | false {rest} : Value ('f' :: 'a' :: 'l' :: 's' :: 'e' :: rest) (.bool false) rest
  | number {input} : IsNumber (input.takeWhile isNumberChar) →
      Value input (.number (String.ofList (input.takeWhile isNumberChar)))
        (input.dropWhile isNumberChar)
  | string {input text rest} : Chars input text rest →
      Value ('"' :: input) (.string (String.ofList text)) rest
  | emptyArray {input rest} : skip input = ']' :: rest → Value ('[' :: input) (.array []) rest
  | array {input elements rest} : Elements input elements rest →
      Value ('[' :: input) (.array elements) rest
  | emptyObject {input rest} : skip input = '}' :: rest → Value ('{' :: input) (.object []) rest
  | object {input members rest} : Members input members rest →
      Value ('{' :: input) (.object members) rest

/-- The elements of an array, up to its closing bracket. -/
inductive Elements : List Char → List Json → List Char → Prop
  | last {input v behind rest} : Value (skip input) v behind → skip behind = ']' :: rest →
      Elements input [v] rest
  | cons {input v behind input' elements rest} : Value (skip input) v behind →
      skip behind = ',' :: input' → Elements input' elements rest →
      Elements input (v :: elements) rest

/-- The members of an object, up to its closing brace. -/
inductive Members : List Char → List (String × Json) → List Char → Prop
  | last {input chars key colon value v behind rest} : skip input = '"' :: chars →
      Chars chars key colon → skip colon = ':' :: value → Value (skip value) v behind →
      skip behind = '}' :: rest → Members input [(String.ofList key, v)] rest
  | cons {input chars key colon value v behind input' members rest} :
      skip input = '"' :: chars → Chars chars key colon → skip colon = ':' :: value →
      Value (skip value) v behind → skip behind = ',' :: input' → Members input' members rest →
      Members input ((String.ofList key, v) :: members) rest

end

/-- The text is a JSON text for the value. -/
def Parses (text : String) (v : Json) : Prop :=
  ∃ rest, Value (skip text.toList) v rest ∧ skip rest = []

/-! ### Strings without escapes -/

/-- Four digits in front of a quote end in front of it. -/
theorem hex4_append_quote {text behind rest : List Char} {n : ℕ}
    (h : hex4 (text ++ '"' :: behind) = some (n, rest)) :
    ∃ taken text', text = taken ++ text' ∧ rest = text' ++ '"' :: behind := by
  have hquote : hexDigit '"' = none := by decide
  match text, h with
  | a :: b :: c :: d :: text', h =>
    simp only [List.cons_append, hex4] at h
    split at h
    · cases h
      exact ⟨[a, b, c, d], text', rfl, rfl⟩
    · cases h
  -- otherwise the quote is among the first four characters
  | [a, b, c], h => simp [hex4, hquote] at h
  | [a, b], h => cases behind <;> simp [hex4, hquote] at h
  | [a], h => rcases behind with _ | ⟨x, _ | ⟨y, behind⟩⟩ <;> simp [hex4, hquote] at h
  | [], h => rcases behind with _ | ⟨x, _ | ⟨y, _ | ⟨z, behind⟩⟩⟩ <;> simp [hex4, hquote] at h

/-- So does a pair of surrogates. -/
theorem unicode_append_quote {text behind : List Char} (n : ℕ) :
    ∃ taken text', text = taken ++ text' ∧
      (unicode n (text ++ '"' :: behind)).2 = text' ++ '"' :: behind := by
  have hstay : ∃ taken text', text = taken ++ text' ∧
      text ++ '"' :: behind = text' ++ '"' :: behind := ⟨[], text, rfl, rfl⟩
  unfold unicode
  split_ifs with hhigh
  · split
    · rename_i low heq
      cases hlow : hex4 low with
      | none => exact hstay
      | some p =>
        obtain ⟨m, rest⟩ := p
        simp only
        split_ifs with hm
        · -- the backslash and the `u` are in front of the quote, too
          cases text with
          | nil => simp at heq
          | cons x text =>
            cases text with
            | nil => simp at heq
            | cons y text =>
              obtain ⟨rfl, rfl, rfl⟩ : x = '\\' ∧ y = 'u' ∧ text ++ '"' :: behind = low := by
                simpa using heq
              obtain ⟨taken, text', rfl, hrest⟩ := hex4_append_quote hlow
              exact ⟨'\\' :: 'u' :: taken, text', rfl, hrest⟩
        · exact hstay
    · exact hstay
  · exact hstay
  · exact hstay

/-- An escape in front of a quote ends in front of it, unless it takes just the quote. -/
theorem escape_append_quote {text behind rest : List Char} {c : Char}
    (h : escape (text ++ '"' :: behind) = some (c, rest)) :
    (text = [] ∧ rest = behind) ∨
      ∃ taken text', taken ≠ [] ∧ text = taken ++ text' ∧ rest = text' ++ '"' :: behind := by
  cases text with
  | nil =>
    cases h
    exact .inl ⟨rfl, rfl⟩
  | cons x text =>
    right
    rw [List.cons_append, escape] at h
    split_ifs at h with hx
    · obtain ⟨⟨n, input⟩, hhex, hc⟩ := Option.map_eq_some_iff.mp h
      obtain ⟨digits, text', rfl, rfl⟩ := hex4_append_quote hhex
      obtain ⟨low, text'', rfl, hrest⟩ := @unicode_append_quote text' behind n
      rw [hc] at hrest
      exact ⟨x :: digits ++ low, text'', by simp, by simp, hrest⟩
    · obtain ⟨c', -, hc⟩ := Option.map_eq_some_iff.mp h
      cases hc
      exact ⟨[x], text, by simp, rfl, rfl⟩

/-- What a string is read as that begins with `raw`, if `,"` stands behind it: `raw`, as it should
be, or something shorter, or something that ends otherwise because the last character of `raw`
took the closing quote along. -/
theorem Chars.of_append_quote {raw behind text rest : List Char}
    (h : Chars (raw ++ '"' :: ',' :: '"' :: behind) text rest) :
    (text = raw ∧ (∀ c ∈ raw, IsPlain c) ∧ rest = ',' :: '"' :: behind) ∨
      text.length < raw.length ∨
      (raw.getLast? = some '\\' ∧ text.getLast? = some ',') := by
  generalize hinput : raw ++ '"' :: ',' :: '"' :: behind = input at h
  induction h generalizing raw with
  | close =>
    cases raw with
    | nil =>
      obtain rfl : ',' :: '"' :: behind = _ := by simpa using hinput
      simp
    | cons c raw => simp
  | @plain c input text rest hc _ ih =>
    cases raw with
    | nil =>
      obtain ⟨rfl, -⟩ : '"' = c ∧ _ := by simpa using hinput
      exact absurd rfl hc.1
    | cons c' raw =>
      obtain ⟨rfl, hraw⟩ : c' = c ∧ _ := by simpa using hinput
      rcases ih hraw with ⟨rfl, hplain, hrest⟩ | hshort | ⟨hraw', htext⟩
      · left
        exact ⟨rfl, List.forall_mem_cons.mpr ⟨hc, hplain⟩, hrest⟩
      · right; left
        simpa using hshort
      · right; right
        rw [List.getLast?_cons, List.getLast?_cons, hraw', htext]
        exact ⟨rfl, rfl⟩
  | @escape input c behind' text rest hescape hchars ih =>
    cases raw with
    | nil => simp at hinput
    | cons c' raw =>
      obtain ⟨rfl, rfl⟩ : c' = '\\' ∧ raw ++ '"' :: ',' :: '"' :: behind = input := by
        simpa using hinput
      rcases escape_append_quote hescape with ⟨rfl, rfl⟩ | ⟨taken, raw, hne, rfl, rfl⟩
      · -- the quote is taken: the string goes on with the comma, and ends at the next quote
        right; right
        have hcomma : text = [','] := by
          cases hchars with
          | plain _ hclose =>
            cases hclose with
            | close => rfl
            | plain hc _ => exact absurd rfl hc.1
        rw [hcomma]
        exact ⟨rfl, rfl⟩
      · have htaken : 0 < taken.length := List.length_pos_iff.mpr hne
        rcases ih rfl with ⟨rfl, -, -⟩ | hshort | ⟨hraw', htext⟩
        · right; left
          simp only [List.length_cons, List.length_append]
          omega
        · right; left
          simp only [List.length_cons, List.length_append]
          omega
        · right; right
          rw [List.getLast?_cons, List.getLast?_cons, List.getLast?_append, hraw', htext]
          exact ⟨rfl, rfl⟩

/-- Plain characters are read as themselves. -/
theorem chars_of_plain {raw : List Char} (h : ∀ c ∈ raw, IsPlain c) (behind : List Char) :
    Chars (raw ++ '"' :: behind) raw behind := by
  induction raw with
  | nil => exact .close
  | cons c raw ih =>
    exact .plain (h c List.mem_cons_self) (ih fun x hx => h x (List.mem_cons_of_mem c hx))

/-- Nor are they read as anything else. -/
theorem Chars.eq_of_plain {raw behind text rest : List Char} (hraw : ∀ c ∈ raw, IsPlain c)
    (h : Chars (raw ++ '"' :: behind) text rest) : text = raw ∧ rest = behind := by
  induction raw generalizing text with
  | nil =>
    cases h with
    | close => exact ⟨rfl, rfl⟩
    | plain hc _ => exact absurd rfl hc.1
  | cons c raw ih =>
    have hc := hraw c List.mem_cons_self
    rw [List.cons_append] at h
    cases h with
    | close => exact absurd rfl hc.1
    | plain _ h =>
      obtain ⟨rfl, hrest⟩ := ih (fun x hx => hraw x (List.mem_cons_of_mem c hx)) h
      exact ⟨rfl, hrest⟩
    | escape _ _ => exact absurd rfl hc.2.1

/-- **A string without escapes** in front of `,"` is read as itself if and only if it is plain. -/
theorem chars_raw_iff {raw behind rest : List Char} :
    Chars (raw ++ '"' :: ',' :: '"' :: behind) raw rest ↔
      (∀ c ∈ raw, IsPlain c) ∧ rest = ',' :: '"' :: behind := by
  constructor
  · intro h
    rcases h.of_append_quote with ⟨-, hplain, hrest⟩ | hshort | ⟨hraw, hcomma⟩
    · exact ⟨hplain, hrest⟩
    · exact absurd hshort (lt_irrefl _)
    · rw [hraw] at hcomma
      cases hcomma
  · rintro ⟨hplain, rfl⟩
    exact chars_of_plain hplain _

/-! ### Decimal numbers -/

theorem isDigits_toDigits (n : ℕ) : IsDigits (Nat.toDigits 10 n) :=
  ⟨Nat.toDigits_ne_nil, fun _ hd => Nat.isDigit_of_mem_toDigits (by decide) (by decide) hd⟩

/-- Decimal digits begin with a zero only for the number zero. -/
theorem isInt_toDigits (n : ℕ) : IsInt (Nat.toDigits 10 n) := by
  refine ⟨isDigits_toDigits n, ?_⟩
  induction n using Nat.strongRecOn with
  | _ n ih =>
    rw [Nat.toDigits_eq_if (by decide)]
    split_ifs with h
    · intro hzero
      rw [Option.some.inj hzero]
    · rw [List.head?_append, Option.or_of_isSome (by simp [Nat.toDigits_ne_nil])]
      intro hzero
      -- the digits of `n / 10` would be a zero
      have hdigits := ih (n / 10) (by omega) hzero
      have hdiv : n / 10 = 0 := by
        rw [← @Nat.ofDigitChars_ten_toDigits (n / 10), hdigits]
        rfl
      omega

/-- So do its first digits. -/
theorem isInt_take_toDigits (n k : ℕ) : IsInt ((Nat.toDigits 10 n).take (k + 1)) := by
  obtain ⟨⟨hne, hdigits⟩, hzero⟩ := isInt_toDigits n
  obtain ⟨d, digits, heq⟩ := List.exists_cons_of_ne_nil hne
  rw [heq, List.take_succ_cons]
  refine ⟨⟨List.cons_ne_nil _ _, fun x hx => hdigits x ?_⟩, fun hhead => ?_⟩
  · rw [heq, ← List.take_succ_cons] at *
    exact List.mem_of_mem_take hx
  · -- the only number that begins with a zero has no other digits
    rw [heq] at hzero
    rw [(List.cons.inj (hzero hhead)).2]
    simpa using hhead

/-- A number without fraction and exponent. -/
theorem isNumber_of_isInt {sign int : List Char} (hsign : sign = [] ∨ sign = ['-'])
    (hint : IsInt int) : IsNumber (sign ++ int) :=
  ⟨sign, int, [], [], hsign, hint, .inl rfl, .inl rfl, by simp⟩

/-- Integers are written as JSON numbers. -/
theorem isNumber_toString (n : ℤ) : IsNumber (toString n).toList := by
  have hrepr : toString n = n.repr := rfl
  rw [hrepr, Int.repr_eq_if]
  split_ifs with hneg
  · rw [Nat.toList_repr]
    exact isNumber_of_isInt (.inl rfl) (isInt_toDigits _)
  · rw [String.toList_append, Nat.toList_repr]
    exact isNumber_of_isInt (.inr rfl) (isInt_toDigits _)

theorem natValue_toDigits (n : ℕ) : natValue (Nat.toDigits 10 n) = some n := by
  obtain ⟨hne, hdigits⟩ := isDigits_toDigits n
  unfold natValue
  rw [if_pos ⟨hne, List.all_eq_true.mpr hdigits⟩, Nat.ofDigitChars_ten_toDigits]

/-- The integer that is written can be read back. -/
theorem intValue_toString (n : ℤ) : intValue (toString n) = some n := by
  have hrepr : toString n = n.repr := rfl
  unfold intValue
  rw [hrepr, Int.repr_eq_if]
  split_ifs with hneg
  · rw [Nat.toList_repr]
    split
    · rename_i digits heq
      -- no digit is a sign
      have hminus := (isDigits_toDigits n.toNat).2 '-' (by rw [heq]; exact List.mem_cons_self)
      exact absurd hminus (by decide)
    · rw [natValue_toDigits, Option.map_some, Int.ofNat_eq_natCast, Int.toNat_of_nonneg hneg]
  · have htext : ("-" ++ (-n).toNat.repr).toList = '-' :: Nat.toDigits 10 (-n).toNat := by
      rw [String.toList_append, Nat.toList_repr]
      rfl
    rw [htext]
    show (natValue (Nat.toDigits 10 (-n).toNat)).map (fun n : ℕ => -Int.ofNat n) = some n
    rw [natValue_toDigits, Option.map_some, Int.ofNat_eq_natCast]
    congr 1
    omega

/-! ### Reading values -/

theorem skip_cons {c : Char} (hc : isBlank c = false) (input : List Char) :
    skip (c :: input) = c :: input :=
  List.dropWhile_cons_of_neg (by simp [hc])

theorem IsNumber.isNumberChar {literal : List Char} (h : IsNumber literal) :
    ∀ c ∈ literal, isNumberChar c = true := by
  have hdigits : ∀ {digits : List Char}, IsDigits digits →
      ∀ c ∈ digits, Json.isNumberChar c = true :=
    fun hd c hc => by simp [Json.isNumberChar, hd.2 c hc]
  obtain ⟨sign, int, fraction, exponent, hsign, hint, hfraction, hexponent, rfl⟩ := h
  intro c hc
  simp only [List.mem_append] at hc
  rcases hc with ((hc | hc) | hc) | hc
  · rcases hsign with rfl | rfl
    · cases hc
    · obtain rfl := List.mem_singleton.mp hc
      rfl
  · exact hdigits hint.1 c hc
  · rcases hfraction with rfl | ⟨digits, hd, rfl⟩
    · cases hc
    · rcases List.mem_cons.mp hc with rfl | hc
      · rfl
      · exact hdigits hd c hc
  · rcases hexponent with rfl | ⟨mark, sign, digits, hmark, hsign, hd, rfl⟩
    · cases hc
    · rcases List.mem_cons.mp hc with rfl | hc
      · rcases hmark with rfl | rfl <;> rfl
      · rcases List.mem_append.mp hc with hc | hc
        · rcases hsign with rfl | rfl | rfl
          · cases hc
          · obtain rfl := List.mem_singleton.mp hc
            rfl
          · obtain rfl := List.mem_singleton.mp hc
            rfl
        · exact hdigits hd c hc

/-- A number begins with a sign or a digit. -/
theorem IsNumber.exists_cons {literal : List Char} (h : IsNumber literal) :
    ∃ c literal', literal = c :: literal' ∧ (c = '-' ∨ c.isDigit = true) := by
  obtain ⟨sign, int, fraction, exponent, hsign, hint, -, -, rfl⟩ := h
  rcases hsign with rfl | rfl
  · obtain ⟨⟨hne, hdigits⟩, -⟩ := hint
    obtain ⟨c, int, rfl⟩ := List.exists_cons_of_ne_nil hne
    exact ⟨c, int ++ fraction ++ exponent, rfl, .inr (hdigits c List.mem_cons_self)⟩
  · exact ⟨'-', int ++ fraction ++ exponent, rfl, .inl rfl⟩

/-- A number is read up to its end. -/
theorem value_number_iff {literal behind rest : List Char} {c : Char} {v : Json}
    (h : IsNumber literal) (hc : isNumberChar c = false) :
    Value (literal ++ c :: behind) v rest ↔
      v = .number (String.ofList literal) ∧ rest = c :: behind := by
  have htake : (literal ++ c :: behind).takeWhile Json.isNumberChar = literal := by
    rw [List.takeWhile_append_of_pos h.isNumberChar, List.takeWhile_cons_of_neg (by simp [hc]),
      List.append_nil]
  have hdrop : (literal ++ c :: behind).dropWhile Json.isNumberChar = c :: behind := by
    rw [List.dropWhile_append_of_pos h.isNumberChar, List.dropWhile_cons_of_neg (by simp [hc])]
  constructor
  · intro hv
    obtain ⟨d, literal', rfl, hd⟩ := h.exists_cons
    rw [List.cons_append] at htake hdrop hv
    generalize literal' ++ c :: behind = input at htake hdrop hv
    -- no other value begins like a number
    cases hv with
    | number _ => exact ⟨by rw [htake], hdrop⟩
    | _ => exact absurd hd (by decide)
  · rintro ⟨rfl, rfl⟩
    have hnumber : IsNumber ((literal ++ c :: behind).takeWhile Json.isNumberChar) := by
      rwa [htake]
    have hvalue := Value.number hnumber
    rwa [htake, hdrop] at hvalue

/-- No number begins with another character. -/
theorem not_isNumber_takeWhile {c : Char} (hc : isNumberChar c = false) (input : List Char) :
    ¬ IsNumber ((c :: input).takeWhile isNumberChar) := by
  rw [List.takeWhile_cons_of_neg (by simp [hc])]
  rintro h
  obtain ⟨d, literal, heq, -⟩ := h.exists_cons
  cases heq

theorem value_quote_iff {input rest : List Char} {v : Json} :
    Value ('"' :: input) v rest ↔
      ∃ text, Chars input text rest ∧ v = .string (String.ofList text) := by
  constructor
  · intro h
    cases h with
    | number h => exact absurd h (not_isNumber_takeWhile rfl input)
    | string h => exact ⟨_, h, rfl⟩
  · rintro ⟨text, h, rfl⟩
    exact .string h

/-- An object with members. -/
theorem value_brace_iff {input rest : List Char} {v : Json} (hne : ∀ r, skip input ≠ '}' :: r) :
    Value ('{' :: input) v rest ↔ ∃ members, Members input members rest ∧ v = .object members := by
  constructor
  · intro h
    cases h with
    | number h => exact absurd h (not_isNumber_takeWhile rfl input)
    | emptyObject h => exact absurd h (hne rest)
    | object h => exact ⟨_, h, rfl⟩
  · rintro ⟨members, h, rfl⟩
    exact .object h

/-- An array with elements. -/
theorem value_bracket_iff {input rest : List Char} {v : Json} (hne : ∀ r, skip input ≠ ']' :: r) :
    Value ('[' :: input) v rest ↔
      ∃ elements, Elements input elements rest ∧ v = .array elements := by
  constructor
  · intro h
    cases h with
    | number h => exact absurd h (not_isNumber_takeWhile rfl input)
    | emptyArray h => exact absurd h (hne rest)
    | array h => exact ⟨_, h, rfl⟩
  · rintro ⟨elements, h, rfl⟩
    exact .array h

/-- The first member, whose key is plain. -/
theorem members_key_iff {key : String} (hkey : ∀ c ∈ key.toList, IsPlain c)
    {value rest : List Char} {members : List (String × Json)} :
    Members ('"' :: (key.toList ++ '"' :: ':' :: value)) members rest ↔
      ∃ v behind, Value (skip value) v behind ∧
        ((skip behind = '}' :: rest ∧ members = [(key, v)]) ∨
          ∃ input members', skip behind = ',' :: input ∧ Members input members' rest ∧
            members = (key, v) :: members') := by
  have hquote : skip ('"' :: (key.toList ++ '"' :: ':' :: value))
      = '"' :: (key.toList ++ '"' :: ':' :: value) := skip_cons rfl _
  have hcolon : skip (':' :: value) = ':' :: value := skip_cons rfl _
  have hself : String.ofList key.toList = key := String.ofList_toList
  constructor
  · intro h
    cases h with
    | last hinput hchars hvalue hv hend =>
      rw [hquote] at hinput
      cases hinput
      obtain ⟨rfl, rfl⟩ := hchars.eq_of_plain hkey
      rw [hcolon] at hvalue
      cases hvalue
      exact ⟨_, _, hv, .inl ⟨hend, by rw [hself]⟩⟩
    | cons hinput hchars hvalue hv hcomma hrest =>
      rw [hquote] at hinput
      cases hinput
      obtain ⟨rfl, rfl⟩ := hchars.eq_of_plain hkey
      rw [hcolon] at hvalue
      cases hvalue
      exact ⟨_, _, hv, .inr ⟨_, _, hcomma, hrest, by rw [hself]⟩⟩
  · have hchars := chars_of_plain hkey (':' :: value)
    rintro ⟨v, behind, hv, ⟨hend, rfl⟩ | ⟨input, members', hcomma, hrest, rfl⟩⟩
    · have h := Members.last hquote hchars hcolon hv hend
      rwa [hself] at h
    · have h := Members.cons hquote hchars hcolon hv hcomma hrest
      rwa [hself] at h

end Json

end GdtCache.Lib
