import GdtCache.Lithium.OutputBuffer
import Mathlib.Data.List.Basic
import Mathlib.Tactic.Ring

/-!
# What reaches the socket

`content` is everything that was written into a buffer, whether it was flushed or not, and every
operation appends to it what it writes.  So the socket gets the responses of a connection complete
and in their order, wherever the flushes fall; and the buffer is too small exactly if it is too
small for one piece (`OutputAction.connection_output`).

The length of a body is printed in decimal, of which the last ten digits are right
(`countText_spec`).
-/

namespace GdtCache.Lithium

namespace OutputBuffer

/-! ### Pieces -/

/-- All that was written. -/
def content (b : OutputBuffer) : List UInt8 :=
  b.flushed.flatten ++ b.written

theorem content_flush (b : OutputBuffer) : b.flush.content = b.content := by
  simp [content, flush]

theorem content_new (capacity : ℕ) : (new capacity).content = [] :=
  rfl

/-- After a flush the socket has all. -/
theorem flatten_flushed_flush (b : OutputBuffer) : b.flush.flushed.flatten = b.content := by
  simp [content, flush]

/-- `b'` is `b` after `s`. -/
structure Appends (b b' : OutputBuffer) (s : List UInt8) : Prop where
  content_eq : b'.content = b.content ++ s
  capacity_eq : b'.capacity = b.capacity

theorem Appends.trans {b b' b'' : OutputBuffer} {s s' : List UInt8} (h : Appends b b' s)
    (h' : Appends b' b'' s') : Appends b b'' (s ++ s') where
  content_eq := by rw [h'.content_eq, h.content_eq, List.append_assoc]
  capacity_eq := h'.capacity_eq.trans h.capacity_eq

theorem appends_flush (b : OutputBuffer) : Appends b b.flush [] where
  content_eq := by rw [content_flush, List.append_nil]
  capacity_eq := rfl

theorem write_spec {b b' : OutputBuffer} {s : List UInt8} (h : b.write s = some b') :
    Appends b b' s ∧ b'.written.length < b'.capacity := by
  unfold write at h
  dsimp only at h
  split_ifs at h with hfull hfit hfit
  · cases h
    refine ⟨⟨?_, rfl⟩, ?_⟩
    · simp [content, flush]
    · simpa [flush] using hfit
  · cases h
    refine ⟨⟨?_, rfl⟩, ?_⟩
    · simp [content]
    · simpa using hfit

theorem write_isSome_iff (b : OutputBuffer) (s : List UInt8) :
    (b.write s).isSome = true ↔ s.length < b.capacity := by
  unfold write
  dsimp only
  split_ifs with hfull hfit hfit
  · have hlt : s.length < b.capacity := by simpa [flush] using hfit
    exact iff_of_true rfl hlt
  · have hle : ¬ s.length < b.capacity := by simpa [flush] using hfit
    exact iff_of_false Bool.false_ne_true hle
  · exact iff_of_true rfl (by omega)
  · exact absurd (by omega) hfit

/-! ### One piece after another -/

section

variable {α : Type} {f : OutputBuffer → α → Option OutputBuffer} {text : α → List UInt8}
  {Fits : ℕ → α → Prop}

theorem appends_foldlM (hf : ∀ b b' a, f b a = some b' → Appends b b' (text a)) :
    ∀ (l : List α) {b b' : OutputBuffer}, l.foldlM f b = some b' →
      Appends b b' (l.map text).flatten := by
  intro l
  induction l with
  | nil =>
    intro b b' h
    cases h
    exact ⟨(List.append_nil _).symm, rfl⟩
  | cons a l ih =>
    intro b b' h
    rw [List.foldlM_cons] at h
    obtain ⟨b'', ha, h⟩ := Option.bind_eq_some_iff.mp h
    rw [List.map_cons, List.flatten_cons]
    exact (hf b b'' a ha).trans (ih h)

theorem foldlM_isSome_iff (hf : ∀ b b' a, f b a = some b' → Appends b b' (text a))
    (hfits : ∀ a b, (f b a).isSome = true ↔ Fits b.capacity a) :
    ∀ (l : List α) {b : OutputBuffer}, (l.foldlM f b).isSome = true ↔
      ∀ a ∈ l, Fits b.capacity a := by
  intro l
  induction l with
  | nil => exact iff_of_true rfl nofun
  | cons a l ih =>
    intro b
    rw [List.foldlM_cons, List.forall_mem_cons, ← hfits]
    cases ha : f b a with
    | none => simp
    | some b' =>
      have hcapacity : b'.capacity = b.capacity := (hf b b' a ha).capacity_eq
      rw [← hcapacity]
      simpa using ih

end

theorem appends_write (b b' : OutputBuffer) (s : List UInt8) (h : b.write s = some b') :
    Appends b b' (id s) :=
  (write_spec h).1

theorem foldlM_write_spec {pieces : List (List UInt8)} {b b' : OutputBuffer}
    (h : pieces.foldlM write b = some b') : Appends b b' pieces.flatten := by
  have happends := appends_foldlM appends_write pieces h
  rwa [List.map_id] at happends

theorem foldlM_write_isSome_iff {pieces : List (List UInt8)} {b : OutputBuffer} :
    (pieces.foldlM write b).isSome = true ↔ ∀ s ∈ pieces, s.length < b.capacity :=
  @foldlM_isSome_iff _ write id (fun capacity s => s.length < capacity) appends_write
    (fun s b => write_isSome_iff b s) pieces b

theorem foldlM_write_room {pieces : List (List UInt8)} :
    ∀ {b b' : OutputBuffer}, pieces.foldlM write b = some b' → pieces ≠ [] →
      b'.written.length < b'.capacity := by
  induction pieces with
  | nil => exact fun _ hne => absurd rfl hne
  | cons s pieces ih =>
    intro b b' h _
    rw [List.foldlM_cons] at h
    obtain ⟨b'', hs, h⟩ := Option.bind_eq_some_iff.mp h
    by_cases hpieces : pieces = []
    · subst hpieces
      cases h
      exact (write_spec hs).2
    · exact ih h hpieces

/-! ### Numbers -/

theorem rounds_zero (n : ℕ) : ∀ (digits : List UInt8) (taken : ℕ),
    SizeLoop.rounds n ⟨0, digits, taken⟩ =
      ⟨0, List.replicate n (digit 0) ++ digits, taken⟩ := by
  induction n with
  | zero => exact fun _ _ => rfl
  | succ n ih =>
    intro digits taken
    have hround : SizeLoop.round ⟨0, digits, taken⟩ = ⟨0, digit 0 :: digits, taken⟩ := by
      simp [SizeLoop.round]
    rw [SizeLoop.rounds, hround, ih, List.replicate_succ', List.append_assoc]
    rfl

/-- The rounds write the digits of a number that is not zero, and take them. -/
theorem rounds_of_pos (n : ℕ) : ∀ {v : ℕ}, 0 < v → v < 10 ^ n →
    ∀ (digits : List UInt8) (taken : ℕ),
      SizeLoop.rounds n ⟨v, digits, taken⟩ =
        ⟨0, List.replicate (n - (Nat.toDigits 10 v).length) (digit 0) ++
            (Nat.toDigits 10 v).map Char.toUInt8 ++ digits,
          (Nat.toDigits 10 v).length + digits.length⟩ := by
  induction n with
  | zero => intro v hv hlt; omega
  | succ n ih =>
    intro v hv hlt digits taken
    have hround : SizeLoop.round ⟨v, digits, taken⟩ =
        ⟨v / 10, digit (v % 10) :: digits, digits.length + 1⟩ := by
      simp [SizeLoop.round, hv]
    rw [SizeLoop.rounds, hround]
    rcases Nat.lt_or_ge v 10 with hsmall | hbig
    · rw [Nat.div_eq_of_lt hsmall, Nat.mod_eq_of_lt hsmall, rounds_zero,
        Nat.toDigits_of_lt_base hsmall]
      simp [digit, Nat.add_comm]
    · have hdiv : 0 < v / 10 := Nat.div_pos hbig (by decide)
      have hlt' : v / 10 < 10 ^ n := by
        rw [Nat.pow_succ] at hlt
        omega
      rw [ih hdiv hlt', Nat.toDigits_of_base_le (by decide) hbig]
      simp [digit]
      omega

/-- A number that is not zero is printed in decimal. -/
theorem sizeText_of_pos {v : ℕ} (hv : 0 < v) (hlt : v < 10 ^ 10) :
    sizeText v = (Nat.toDigits 10 v).map Char.toUInt8 := by
  have hlength : (Nat.toDigits 10 v).length ≤ 10 :=
    (Nat.length_toDigits_le_iff (by decide) (by decide)).mpr hlt
  rw [sizeText, rounds_of_pos 10 hv hlt]
  simp

theorem length_rounds (n : ℕ) : ∀ s : SizeLoop,
    (SizeLoop.rounds n s).digits.length = n + s.digits.length := by
  induction n with
  | zero => exact fun s => (Nat.zero_add _).symm
  | succ n ih =>
    intro s
    have hround : s.round.digits.length = s.digits.length + 1 := rfl
    rw [SizeLoop.rounds, ih, hround]
    omega

theorem length_sizeText_le (v : ℕ) : (sizeText v).length ≤ 10 := by
  rw [sizeText, List.length_drop, length_rounds]
  simp

/-- What `writeSize` writes. -/
def countText (v : ℕ) : List UInt8 :=
  (if v = 0 then [digit 0] else []) ++ sizeText v

/-! ### What a client reads -/

/-- The number of some digits. -/
def readSize (text : List UInt8) : ℕ :=
  text.foldl (fun n c => 10 * n + (c.toNat - 48)) 0

theorem readSize_cons_aux (text : List UInt8) : ∀ n : ℕ,
    text.foldl (fun n c => 10 * n + (c.toNat - 48)) n = n * 10 ^ text.length + readSize text := by
  induction text with
  | nil => intro n; simp [readSize]
  | cons c text ih =>
    intro n
    rw [readSize, List.foldl_cons, List.foldl_cons, ih, ih (10 * 0 + _), List.length_cons,
      Nat.pow_succ]
    ring

theorem toNat_digit {d : ℕ} (hd : d < 10) : (digit d).toNat - 48 = d := by
  revert d
  decide

theorem readSize_digit_cons {d : ℕ} (hd : d < 10) (text : List UInt8) :
    readSize (digit d :: text) = d * 10 ^ text.length + readSize text := by
  rw [readSize, List.foldl_cons, readSize_cons_aux, toNat_digit hd, Nat.mul_zero, Nat.zero_add]

theorem rounds_succ (n : ℕ) : ∀ s : SizeLoop,
    SizeLoop.rounds (n + 1) s = (SizeLoop.rounds n s).round := by
  induction n with
  | zero => exact fun _ => rfl
  | succ n ih => exact fun s => ih s.round

/-- `s` is what the loop has of `v` after `k` rounds: the lowest digits, of which it leaves out only
zeros. -/
structure Counts (v k : ℕ) (s : SizeLoop) : Prop where
  v_eq : s.v = v / 10 ^ k
  length_eq : s.digits.length = k
  readSize_digits : readSize s.digits = v % 10 ^ k
  readSize_taken : readSize (s.digits.drop (k - s.taken)) = v % 10 ^ k

theorem Counts.round {v k : ℕ} {s : SizeLoop} (h : Counts v k s) : Counts v (k + 1) s.round := by
  have hdigit : s.v % 10 < 10 := Nat.mod_lt _ (by decide)
  have hdigits : readSize (digit (s.v % 10) :: s.digits) = v % 10 ^ (k + 1) := by
    rw [readSize_digit_cons hdigit, h.length_eq, h.readSize_digits, h.v_eq, Nat.mod_pow_succ]
    ring
  refine ⟨?_, congrArg Nat.succ h.length_eq, hdigits, ?_⟩
  · rw [SizeLoop.round, h.v_eq, Nat.div_div_eq_div_mul, Nat.pow_succ]
  · rcases Nat.eq_zero_or_pos s.v with hzero | hpos
    · have htaken : s.round.taken = s.taken := by simp [SizeLoop.round, hzero]
      rw [htaken]
      rcases Nat.lt_or_ge k s.taken with hall | hlast
      · rw [Nat.sub_eq_zero_of_le hall]
        exact hdigits
      -- the digit of this round is a zero that is left out
      · have hv : v % 10 ^ (k + 1) = v % 10 ^ k := by
          rw [Nat.mod_pow_succ, ← h.v_eq, hzero]
          simp
        rw [Nat.succ_sub hlast, hv]
        exact h.readSize_taken
    · have htaken : s.round.taken = k + 1 := by simp [SizeLoop.round, hpos, h.length_eq]
      rw [htaken, Nat.sub_self]
      exact hdigits

theorem counts_rounds (v k : ℕ) : Counts v k (SizeLoop.rounds k ⟨v, [], 10⟩) := by
  induction k with
  | zero => exact ⟨(Nat.div_one v).symm, rfl, (Nat.mod_one v).symm, (Nat.mod_one v).symm⟩
  | succ k ih =>
    rw [rounds_succ]
    exact ih.round

theorem readSize_sizeText (v : ℕ) : readSize (sizeText v) = v % 10 ^ 10 :=
  (counts_rounds v 10).readSize_taken

/-- The length of a response is read back up to ten digits; it is in decimal, but zero has eleven
digits. -/
theorem countText_spec (v : ℕ) :
    readSize (countText v) = v % 10 ^ 10 ∧
      (0 < v → v < 10 ^ 10 → countText v = (Nat.toDigits 10 v).map Char.toUInt8) ∧
      countText 0 = List.replicate 11 (digit 0) := by
  refine ⟨?_, fun hv hlt => ?_, by decide⟩
  · rw [countText]
    split_ifs with hv
    · rw [List.singleton_append, readSize_digit_cons (by decide), Nat.zero_mul, Nat.zero_add,
        readSize_sizeText]
    · rw [List.nil_append, readSize_sizeText]
  · rw [countText, if_neg hv.ne', List.nil_append, sizeText_of_pos hv hlt]

theorem countText_spec_of_120 :
    countText 120 = (Nat.toDigits 10 120).map Char.toUInt8 ∧
      readSize (countText (10 ^ 10 + 7)) = 7 :=
  ⟨(countText_spec 120).2.1 (by decide) (by decide), (countText_spec (10 ^ 10 + 7)).1⟩

/-! ### Numbers in the buffer -/

theorem put_spec {b b' : OutputBuffer} {v : UInt8} (h : b.put v = some b') : Appends b b' [v] := by
  unfold put at h
  split_ifs at h with hroom
  cases h
  exact ⟨(List.append_assoc _ _ _).symm, rfl⟩

theorem writeSize_spec {b b' : OutputBuffer} {v : ℕ} (h : b.writeSize v = some b') :
    Appends b b' (countText v) := by
  rw [writeSize] at h
  rw [countText]
  split_ifs at h ⊢ with hv
  · obtain ⟨b'', hput, hwrite⟩ := Option.bind_eq_some_iff.mp h
    exact (put_spec hput).trans (write_spec hwrite).1
  · exact (write_spec h).1

/-- Behind a piece that went in there is room for the digit of zero. -/
theorem writeSize_isSome {b : OutputBuffer} (hroom : b.written.length < b.capacity)
    (hcapacity : 10 < b.capacity) (v : ℕ) : (b.writeSize v).isSome = true := by
  have hsize : (sizeText v).length < b.capacity :=
    Nat.lt_of_le_of_lt (length_sizeText_le v) hcapacity
  rw [writeSize]
  split_ifs with hv
  · rw [put, if_pos hroom]
    exact (write_isSome_iff _ _).mpr hsize
  · exact (write_isSome_iff b _).mpr hsize

end OutputBuffer

/-! ### Texts -/

theorem length_toList_loop (bs : ByteArray) (i : ℕ) (r : List UInt8) :
    (ByteArray.toList.loop bs i r).length = r.length + (bs.size - i) := by
  fun_induction ByteArray.toList.loop bs i r with
  | case1 i r hi ih => rw [ih, List.length_cons]; omega
  | case2 i r hi => rw [List.length_reverse]; omega

@[simp] theorem length_bytes (text : String) : (bytes text).length = text.utf8ByteSize := by
  rw [bytes, ByteArray.toList, length_toList_loop, List.length_nil, Nat.zero_add, Nat.sub_zero]
  rfl

/-! ### Responses -/

namespace ResponseParts

open OutputBuffer

/-- Each piece is shorter than the buffer. -/
def Fits (r : ResponseParts) (capacity : ℕ) : Prop :=
  (∀ s ∈ r.head, s.length < capacity) ∧ r.body.length < capacity

theorem text_eq (r : ResponseParts) :
    r.text = r.head.flatten ++ (countText r.body.length ++ (bytes "\r\n\r\n" ++ r.body)) := by
  simp only [text, countText, List.append_assoc]

theorem respond_spec {r : ResponseParts} {b b' : OutputBuffer} (h : r.respond b = some b') :
    Appends b b' r.text := by
  obtain ⟨b₁, hhead, h⟩ := Option.bind_eq_some_iff.mp h
  obtain ⟨b₂, hsize, h⟩ := Option.bind_eq_some_iff.mp h
  obtain ⟨b₃, hbreak, hbody⟩ := Option.bind_eq_some_iff.mp h
  rw [text_eq]
  exact (foldlM_write_spec hhead).trans
    ((writeSize_spec hsize).trans ((write_spec hbreak).1.trans (write_spec hbody).1))

theorem contentLength_mem_head (r : ResponseParts) : bytes "Content-Length: " ∈ r.head := by
  simp [head]

/-- The length of the body and the empty line behind it are no longer than what is written before
them. -/
theorem respond_isSome_iff (r : ResponseParts) (b : OutputBuffer) :
    (r.respond b).isSome = true ↔ r.Fits b.capacity := by
  rw [Fits, ← foldlM_write_isSome_iff, respond]
  cases hhead : r.head.foldlM write b with
  | none => simp
  | some b₁ =>
    have hlengths : 10 < b.capacity := by
      have hfits := foldlM_write_isSome_iff.mp (Option.isSome_of_eq_some hhead) _
        r.contentLength_mem_head
      have hlength : (bytes "Content-Length: ").length = 16 := by decide +kernel
      omega
    have hcapacity₁ : b₁.capacity = b.capacity := (foldlM_write_spec hhead).capacity_eq
    have hroom : b₁.written.length < b₁.capacity :=
      foldlM_write_room hhead (List.ne_nil_of_mem r.contentLength_mem_head)
    obtain ⟨b₂, hsize⟩ := Option.isSome_iff_exists.mp
      (writeSize_isSome hroom (hcapacity₁ ▸ hlengths) r.body.length)
    have hcapacity₂ : b₂.capacity = b.capacity :=
      (writeSize_spec hsize).capacity_eq.trans hcapacity₁
    have hbreakLength : (bytes "\r\n\r\n").length = 4 := by decide +kernel
    obtain ⟨b₃, hbreak⟩ := Option.isSome_iff_exists.mp
      ((write_isSome_iff b₂ (bytes "\r\n\r\n")).mpr (by omega))
    have hcapacity₃ : b₃.capacity = b.capacity :=
      (write_spec hbreak).1.capacity_eq.trans hcapacity₂
    have hbody := write_isSome_iff b₃ r.body
    rw [hcapacity₃] at hbody
    simpa [hsize, hbreak] using hbody

end ResponseParts

/-! ### Connections -/

namespace OutputAction

open OutputBuffer

theorem apply_spec (b b' : OutputBuffer) (a : OutputAction) (h : apply b a = some b') :
    Appends b b' a.text := by
  cases a with
  | respond r => exact r.respond_spec h
  | flushResponses =>
    cases h
    exact appends_flush b

/-- Each piece of an action is shorter than the buffer. -/
def Fits (capacity : ℕ) : OutputAction → Prop
  | respond r => r.Fits capacity
  | flushResponses => True

theorem apply_isSome_iff (a : OutputAction) (b : OutputBuffer) :
    (a.apply b).isSome = true ↔ a.Fits b.capacity := by
  cases a with
  | respond r => exact r.respond_isSome_iff b
  | flushResponses => exact iff_of_true rfl trivial

/-- A connection writes its responses exactly if the buffer is larger than each of their pieces, and
then the socket gets them, and nothing else, in their order. -/
theorem connection_output (actions : List OutputAction) (capacity : ℕ) :
    ((actions.foldlM apply (OutputBuffer.new capacity)).isSome = true ↔
        ∀ a ∈ actions, a.Fits capacity) ∧
      ∀ b, actions.foldlM apply (OutputBuffer.new capacity) = some b →
        b.flush.flushed.flatten = (actions.map text).flatten := by
  refine ⟨foldlM_isSome_iff apply_spec apply_isSome_iff actions, fun b h => ?_⟩
  have hcontent := (appends_foldlM apply_spec actions h).content_eq
  rwa [content_new, List.nil_append, ← flatten_flushed_flush] at hcontent

/-- A response of the status page. -/
def statusResponse : ResponseParts :=
  ⟨200, [], [], bytes "HTTP/1.1 200 OK\r\n", [], bytes "true"⟩

theorem connection_output_status :
    ∃ b, [respond statusResponse, respond statusResponse, flushResponses].foldlM apply
        (OutputBuffer.new 24) = some b ∧
      b.flush.flushed.flatten = statusResponse.text ++ statusResponse.text := by
  have hfits : statusResponse.Fits 24 := by
    unfold ResponseParts.Fits
    decide +kernel
  obtain ⟨b, hb⟩ := Option.isSome_iff_exists.mp ((connection_output
    [respond statusResponse, respond statusResponse, flushResponses] 24).1.mpr
      (by simpa [Fits] using hfits))
  refine ⟨b, hb, ?_⟩
  rw [(connection_output _ 24).2 b hb]
  simp [text]

end OutputAction

end GdtCache.Lithium
