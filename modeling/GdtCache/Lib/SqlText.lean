import Mathlib.Data.List.DropRight
import Mathlib.Data.List.Infix

/-!
# Text functions of a MySQL server

`LOWER`, `TRIM` and `LIKE` as MySQL documents them, on texts of characters.  What a letter's lower
case is depends on the character set of the column, so it is a parameter (`Collation`): `LOWER`
applies it to every character, and `LIKE` compares up to it.  `TRIM` strips spaces only, and
`LIKE` leaves the spaces of both sides alone.

A `LIKE` pattern is first cut into tokens (`tokens`): `%` stands for any sequence, `_` for any one
character, and a backslash takes away the meaning of the character after it.  Without these three
the pattern stands for itself up to case (`like_iff_of_isLiteral`); with one of them it is met by
something else, too (`like_sample`, `isLiteral_of_map_sample`).
-/

namespace GdtCache.Lib.Sql

/-- The lower case of each character of a column's character set. -/
structure Collation where
  /-- The lower case of a character. -/
  lower : Char → Char
  /-- A lower-case character stays. -/
  lower_lower : ∀ c, lower (lower c) = lower c
  /-- In every character set, ASCII has its usual lower case. -/
  lower_ascii : ∀ c, c.toNat < 128 → lower c = c.toLower

/-- The lower case of a lower-case letter of ASCII is the letter itself. -/
theorem toLower_toLower (c : Char) : c.toLower.toLower = c.toLower := by
  unfold Char.toLower
  split
  · rename_i h
    obtain ⟨hlo, hhi⟩ := h
    have hlo : 65 ≤ c.val.toNat := UInt32.le_iff_toNat_le.mp hlo
    have hhi : c.val.toNat ≤ 90 := UInt32.le_iff_toNat_le.mp hhi
    rw [dif_neg]
    rintro ⟨-, h⟩
    have h : (c.val.toNat + 32) % 2 ^ 32 ≤ 90 := UInt32.le_iff_toNat_le.mp h
    omega
  · rfl

/-- The character set of ASCII letters. -/
def Collation.ascii : Collation where
  lower := Char.toLower
  lower_lower := toLower_toLower
  lower_ascii _ _ := rfl

/-- `LOWER(text)`. -/
def lower (collation : Collation) (text : String) : String :=
  String.ofList (text.toList.map collation.lower)

/-- `TRIM(text)`: spaces at both ends go, other blanks stay. -/
def trim (text : String) : String :=
  String.ofList ((text.toList.dropWhile (· = ' ')).rdropWhile (· = ' '))

/-! ### `LIKE` -/

/-- What one piece of a pattern stands for. -/
inductive Token
  /-- `%` -/
  | anySequence
  /-- `_` -/
  | anyChar
  /-- Any other character, or the one after a backslash. -/
  | char (c : Char)
  deriving DecidableEq

/-- The pieces of a pattern.  A backslash at the very end stands for itself. -/
def tokens : List Char → List Token
  | [] => []
  | '\\' :: c :: pattern => .char c :: tokens pattern
  | '%' :: pattern => .anySequence :: tokens pattern
  | '_' :: pattern => .anyChar :: tokens pattern
  | c :: pattern => .char c :: tokens pattern

/-- The pieces match the whole text. -/
def accepts (collation : Collation) : List Token → List Char → Bool
  | [], text => text.isEmpty
  | .anySequence :: pattern, text => text.tails.any (accepts collation pattern)
  | .anyChar :: _, [] => false
  | .anyChar :: pattern, _ :: text => accepts collation pattern text
  | .char _ :: _, [] => false
  | .char c :: pattern, x :: text =>
    decide (collation.lower c = collation.lower x) && accepts collation pattern text

/-- `text LIKE pattern`. -/
def like (collation : Collation) (text pattern : String) : Bool :=
  accepts collation (tokens pattern.toList) text.toList

/-- A pattern without a meaning of its own: no `%`, no `_`, and no backslash before a character. -/
def IsLiteral (pattern : List Char) : Prop :=
  '%' ∉ pattern ∧ '_' ∉ pattern ∧ '\\' ∉ pattern.dropLast

instance (pattern : List Char) : Decidable (IsLiteral pattern) :=
  inferInstanceAs (Decidable (_ ∧ _ ∧ _))

theorem length_tokens_le (pattern : List Char) : (tokens pattern).length ≤ pattern.length := by
  fun_induction tokens pattern with
  | case1 => exact Nat.le_refl _
  | case2 c pattern ih => simp only [List.length_cons]; omega
  | case3 pattern ih => simp only [List.length_cons]; omega
  | case4 pattern ih => simp only [List.length_cons]; omega
  | case5 c pattern _ _ _ ih => simp only [List.length_cons]; omega

/-- Such a pattern stands for itself, and no other does. -/
theorem tokens_eq_map_char_iff (pattern : List Char) :
    tokens pattern = pattern.map .char ↔ IsLiteral pattern := by
  fun_induction tokens pattern with
  | case1 => simp [IsLiteral]
  | case2 c pattern ih =>
    -- the backslash is no piece of its own
    refine iff_of_false (fun h => ?_) (fun h => ?_)
    · have hlength := congrArg List.length h
      have hle := length_tokens_le pattern
      simp only [List.length_cons, List.length_map] at hlength
      omega
    · exact h.2.2 (by simp)
  | case3 pattern ih => simp [IsLiteral]
  | case4 pattern ih => simp [IsLiteral]
  | case5 c pattern hescape hsequence hchar ih =>
    have hlast : '\\' ∉ (c :: pattern).dropLast ↔ '\\' ∉ pattern.dropLast := by
      cases pattern with
      | nil => simp
      | cons d pattern =>
        have hne : c ≠ '\\' := fun h => hescape d pattern h rfl
        rw [List.dropLast_cons_cons, List.mem_cons, not_or]
        exact and_iff_right hne.symm
    have hhead : '%' ≠ c ∧ '_' ≠ c := ⟨fun h => hsequence h.symm, fun h => hchar h.symm⟩
    simp only [List.map_cons, List.cons.injEq, true_and, ih, IsLiteral, hlast, List.mem_cons,
      not_or, hhead, not_false_eq_true]

theorem accepts_map_char (collation : Collation) :
    ∀ pattern text : List Char, accepts collation (pattern.map .char) text = true ↔
      pattern.map collation.lower = text.map collation.lower
  | [], text => by cases text <;> simp [accepts]
  | c :: pattern, [] => by simp [accepts]
  | c :: pattern, x :: text => by
    simp [accepts, accepts_map_char collation pattern text]

/-- Such a pattern is met by the texts that equal it up to case. -/
theorem like_iff_of_isLiteral (collation : Collation) {text pattern : String}
    (h : IsLiteral pattern.toList) :
    like collation text pattern = true ↔ lower collation text = lower collation pattern := by
  unfold like lower
  rw [(tokens_eq_map_char_iff _).mpr h, accepts_map_char, String.ofList_inj]
  exact eq_comm

/-- A character that a piece stands for. -/
def Token.sample : Token → Char
  | anySequence => 'x'
  | anyChar => 'x'
  | char c => c

theorem accepts_map_sample (collation : Collation) :
    ∀ pattern : List Token, accepts collation pattern (pattern.map Token.sample) = true
  | [] => rfl
  | .anySequence :: pattern => by
    rw [List.map_cons, accepts, List.any_eq_true]
    exact ⟨pattern.map Token.sample, (List.mem_tails _ _).mpr (List.suffix_cons _ _),
      accepts_map_sample collation pattern⟩
  | .anyChar :: pattern => by
    rw [List.map_cons, accepts]
    exact accepts_map_sample collation pattern
  | .char c :: pattern => by
    rw [List.map_cons, accepts, Token.sample, accepts_map_sample collation pattern]
    simp

/-- A text that the pattern is met by. -/
def sample (pattern : String) : String :=
  String.ofList ((tokens pattern.toList).map Token.sample)

theorem like_sample (collation : Collation) (pattern : String) :
    like collation (sample pattern) pattern = true := by
  rw [like, sample, String.toList_ofList]
  exact accepts_map_sample collation _

/-- Up to case, only a pattern that stands for itself is what it is met by. -/
theorem isLiteral_of_map_sample (collation : Collation) (pattern : List Char)
    (h : ((tokens pattern).map Token.sample).map collation.lower = pattern) :
    IsLiteral pattern := by
  rw [← tokens_eq_map_char_iff]
  have hx : collation.lower 'x' = 'x' := collation.lower_ascii 'x' (by decide)
  fun_induction tokens pattern with
  | case1 => rfl
  | case2 c pattern ih =>
    have hlength := congrArg List.length h
    have hle := length_tokens_le pattern
    simp only [List.length_cons, List.length_map] at hlength
    omega
  | case3 pattern ih =>
    rw [List.map_cons, List.map_cons, Token.sample, hx] at h
    exact absurd (List.cons.inj h).1 (by decide)
  | case4 pattern ih =>
    rw [List.map_cons, List.map_cons, Token.sample, hx] at h
    exact absurd (List.cons.inj h).1 (by decide)
  | case5 c pattern _ _ _ ih =>
    rw [List.map_cons, List.map_cons] at h
    rw [List.map_cons, ih (List.cons.inj h).2]

/-! ### `LOWER` and `TRIM` -/

@[simp] theorem lower_lower (collation : Collation) (text : String) :
    lower collation (lower collation text) = lower collation text := by
  unfold lower
  rw [String.toList_ofList, List.map_map]
  congr 1
  exact List.map_congr_left fun c _ => collation.lower_lower c

/-- A text that neither begins nor ends with a space is trimmed already. -/
theorem trim_eq_self {text : String} (hfirst : text.toList.head? ≠ some ' ')
    (hlast : text.toList.getLast? ≠ some ' ') : trim text = text := by
  have hdrop : text.toList.dropWhile (· = ' ') = text.toList := by
    cases h : text.toList with
    | nil => rfl
    | cons c rest =>
      rw [h, List.head?_cons] at hfirst
      exact List.dropWhile_cons_of_neg (by simpa using hfirst)
  unfold trim
  rw [hdrop, List.rdropWhile_eq_self_iff.mpr, String.ofList_toList]
  intro hne
  rw [List.getLast?_eq_some_getLast hne] at hlast
  simpa using hlast

end GdtCache.Lib.Sql
