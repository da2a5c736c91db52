import GdtCache.BackgroundTasks.UpdateGdtEntryList
import GdtCache.CacheServer.Basic
import GdtCache.View.Equiv.Loops

/-!
# The name of a task

While the loop of the constructor runs, the name is the email with `x` from the third byte up to the
loop variable (`loopState`).  From two bytes on the bound is the third byte from the end, so the
loop stops there, unless the `int` overflows before; below two bytes the bound has wrapped around,
and the first round writes behind the end of the string.  `constructor_safe_iff` puts this together.
-/

namespace GdtCache.BackgroundTasks.UpdateGdtEntryList

open GdtCache.Lib GdtCache.Mysql GdtCache.View.GdtEntryList

variable {email : List UInt8}

/-- A name as it should be: the first two and the last two characters of the email, and `x`. -/
structure Masked (email mName : List UInt8) : Prop where
  length_eq : mName.length = email.length
  first : mName.take 2 = email.take 2
  last : mName.drop (email.length - 2) = email.drop (email.length - 2)
  others : ∀ j, 2 ≤ j → j + 2 < email.length → mName[j]? = some 'x'.toUInt8

/-- The email with `x` from the third byte up to another one. -/
def maskedUpTo (email : List UInt8) (n : ℕ) : List UInt8 :=
  email.mapIdx fun j c => if 2 ≤ j ∧ j < n then 'x'.toUInt8 else c

/-- Before round `a` of the loop. -/
def loopState (email : List UInt8) (a : ℕ) : Construction :=
  ⟨.looping, Int32.ofNat (a + 2), email, maskedUpTo email (a + 2)⟩

/-! ### Names -/

@[simp] theorem length_maskedUpTo (email : List UInt8) (n : ℕ) :
    (maskedUpTo email n).length = email.length :=
  List.length_mapIdx

theorem getElem?_maskedUpTo (email : List UInt8) (n j : ℕ) :
    (maskedUpTo email n)[j]? = email[j]?.map fun c => if 2 ≤ j ∧ j < n then 'x'.toUInt8 else c :=
  List.getElem?_mapIdx

theorem maskedUpTo_two (email : List UInt8) : maskedUpTo email 2 = email := by
  refine List.ext_getElem? fun j => ?_
  have hnot : ¬ (2 ≤ j ∧ j < 2) := by omega
  rw [getElem?_maskedUpTo]
  simp only [if_neg hnot, Option.map_id_fun', id]

/-- One more `x`. -/
theorem set_maskedUpTo (email : List UInt8) (a : ℕ) :
    (maskedUpTo email (a + 2)).set (a + 2) 'x'.toUInt8 = maskedUpTo email (a + 3) := by
  refine List.ext_getElem? fun j => ?_
  rw [List.getElem?_set, getElem?_maskedUpTo, getElem?_maskedUpTo, length_maskedUpTo]
  by_cases hj : a + 2 = j
  · obtain rfl := hj
    have hin : 2 ≤ a + 2 ∧ a + 2 < a + 3 := by omega
    rw [if_pos rfl]
    simp only [if_pos hin]
    split_ifs with hlt
    · rw [List.getElem?_eq_getElem hlt, Option.map_some]
    · rw [List.getElem?_eq_none (by omega), Option.map_none]
  · have hiff : 2 ≤ j ∧ j < a + 2 ↔ 2 ≤ j ∧ j < a + 3 := by omega
    rw [if_neg hj]
    simp only [hiff]

/-- At the third byte from the end the name is as it should be. -/
theorem masked_maskedUpTo (email : List UInt8) :
    Masked email (maskedUpTo email (email.length - 2)) where
  length_eq := length_maskedUpTo email _
  first := by
    refine List.ext_getElem? fun j => ?_
    rw [List.getElem?_take, List.getElem?_take, getElem?_maskedUpTo]
    by_cases hj : j < 2
    · have hnot : ¬ (2 ≤ j ∧ j < email.length - 2) := by omega
      rw [if_pos hj, if_pos hj]
      simp only [if_neg hnot, Option.map_id_fun', id]
    · rw [if_neg hj, if_neg hj]
  last := by
    refine List.ext_getElem? fun j => ?_
    have hnot : ¬ (2 ≤ email.length - 2 + j ∧ email.length - 2 + j < email.length - 2) := by omega
    rw [List.getElem?_drop, List.getElem?_drop, getElem?_maskedUpTo]
    simp only [if_neg hnot, Option.map_id_fun', id]
  others j hlo hhi := by
    have hin : 2 ≤ j ∧ j < email.length - 2 := by omega
    rw [getElem?_maskedUpTo, List.getElem?_eq_getElem (by omega), Option.map_some, if_pos hin]

/-! ### The loop -/

theorem start_eq (email : List UInt8) : Construction.start email = loopState email 0 := by
  unfold Construction.start loopState
  rw [maskedUpTo_two]
  rfl

/-- The loop variable as a `size_t`. -/
theorem sizeT_ofNat {a : ℕ} (ha : a < 2 ^ 31) : sizeT (Int32.ofNat a) = a := by
  unfold sizeT
  rw [Int32.toInt_ofNat_of_lt ha]
  omega

theorem round_loopState {a : ℕ} (ha : a + 2 < 2 ^ 31 - 1) (hbound : a + 2 < loopBound email)
    (hlength : a + 2 < email.length) :
    Construction.round email (loopState email a) = some (loopState email (a + 1)) := by
  have hmax : Int32.ofNat (a + 2) ≠ Int32.maxValue := by
    intro h
    have h := congrArg Int32.toInt h
    rw [Int32.toInt_ofNat_of_lt (by omega)] at h
    have hvalue : Int32.maxValue.toInt = 2 ^ 31 - 1 := by decide
    omega
  unfold Construction.round loopState
  simp only [sizeT_ofNat (show a + 2 < 2 ^ 31 by omega), length_maskedUpTo, if_pos hbound,
    if_pos hlength, if_neg hmax, set_maskedUpTo, ofNat_succ]

theorem after_eq_loopState {n : ℕ}
    (h : ∀ a < n, a + 2 < 2 ^ 31 - 1 ∧ a + 2 < loopBound email ∧ a + 2 < email.length) :
    Construction.after email n = some (loopState email n) := by
  unfold Construction.after
  rw [start_eq]
  exact rounds_chain fun a ha => round_loopState (h a ha).1 (h a ha).2.1 (h a ha).2.2

/-- One more round. -/
theorem after_succ {n : ℕ} {c : Construction} (h : Construction.after email n = some c) :
    Construction.after email (n + 1) = Construction.round email c := by
  unfold Construction.after at h ⊢
  rw [Nat.add_comm, rounds_add, h]
  rfl

/-- From two to `2 ^ 31 + 1` bytes the loop ends, and leaves the name as it should be. -/
theorem exists_after_ended (h2 : 2 ≤ email.length) (h31 : email.length ≤ 2 ^ 31 + 1) :
    ∃ n c, Construction.after email n = some c ∧ c.phase = .ended ∧ c.mEmail = email ∧
      Masked email c.mName := by
  have hbound : loopBound email = email.length - 2 := if_neg (by omega)
  have hstate := @after_eq_loopState email (email.length - 4) fun a ha => by omega
  -- below four bytes there is nothing to write over
  have hname : maskedUpTo email (email.length - 4 + 2) = maskedUpTo email (email.length - 2) := by
    refine List.ext_getElem? fun j => ?_
    have hiff : 2 ≤ j ∧ j < email.length - 4 + 2 ↔ 2 ≤ j ∧ j < email.length - 2 := by omega
    rw [getElem?_maskedUpTo, getElem?_maskedUpTo]
    simp only [hiff]
  have hlast : Construction.round email (loopState email (email.length - 4))
      = some { loopState email (email.length - 4) with phase := .ended } := by
    have hstop : ¬ sizeT (Int32.ofNat (email.length - 4 + 2)) < loopBound email := by
      rw [sizeT_ofNat (by omega)]
      omega
    unfold Construction.round loopState
    simp only [if_neg hstop]
  refine ⟨email.length - 4 + 1, _, (after_succ hstate).trans hlast, rfl, rfl, ?_⟩
  show Masked email (maskedUpTo email (email.length - 4 + 2))
  rw [hname]
  exact masked_maskedUpTo email

/-- Below two bytes the first round writes behind the end. -/
theorem after_one_of_short (h : email.length < 2) : Construction.after email 1 = none := by
  have hbound : sizeT (Int32.ofNat 2) < loopBound email := by
    rw [sizeT_ofNat (by omega), loopBound, if_pos h]
    omega
  have hout : ¬ sizeT (Int32.ofNat 2) < (maskedUpTo email 2).length := by
    rw [sizeT_ofNat (by omega), length_maskedUpTo]
    omega
  have hstart := @after_eq_loopState email 0 fun a ha => absurd ha (Nat.not_lt_zero a)
  rw [after_succ hstart]
  unfold Construction.round loopState
  simp only [Nat.zero_add, if_pos hbound, if_neg hout]

/-- From `2 ^ 31 + 2` bytes on the loop variable overflows. -/
theorem exists_after_eq_none_of_long (h : 2 ^ 31 + 2 ≤ email.length) :
    ∃ n, Construction.after email n = none ∧ n < email.length := by
  have hbound : loopBound email = email.length - 2 := if_neg (by omega)
  obtain ⟨n, hn⟩ : ∃ n, n + 2 = 2 ^ 31 - 1 := ⟨2 ^ 31 - 3, by norm_num⟩
  have hstate := @after_eq_loopState email n fun a ha => by omega
  have hmax : Int32.ofNat (n + 2) = Int32.maxValue := by
    rw [hn]
    decide
  refine ⟨n + 1, ?_, by omega⟩
  rw [after_succ hstate]
  have hin : sizeT (Int32.ofNat (n + 2)) < loopBound email ∧
      sizeT (Int32.ofNat (n + 2)) < (maskedUpTo email (n + 2)).length := by
    rw [sizeT_ofNat (by omega), length_maskedUpTo]
    omega
  unfold Construction.round loopState
  simp only [if_pos hin.1, if_pos hin.2, if_pos hmax]

/-- A loop that ends never goes wrong. -/
theorem isSome_after (h2 : 2 ≤ email.length) (h31 : email.length ≤ 2 ^ 31 + 1) (n : ℕ) :
    (Construction.after email n).isSome := by
  obtain ⟨m, c, hafter, hended, -⟩ := exists_after_ended h2 h31
  have hfixed : Construction.round email c = some c := by
    unfold Construction.round
    rw [hended]
  exact isSome_rounds_of_fixed hafter hfixed n

/-- What goes wrong has gone wrong after as many rounds as there are bytes, and one more. -/
theorem after_length_isSome_iff (email : List UInt8) :
    (Construction.after email (email.length + 1)).isSome = true ↔
      2 ≤ email.length ∧ email.length ≤ 2 ^ 31 + 1 := by
  have hnone : ∀ {n : ℕ}, Construction.after email n = none → n ≤ email.length + 1 →
      Construction.after email (email.length + 1) = none := by
    intro n hn hle
    obtain ⟨k, hk⟩ := Nat.exists_eq_add_of_le' hle
    unfold Construction.after at hn ⊢
    rw [hk, rounds_add, hn, rounds_none]
  constructor
  · intro h
    constructor
    · by_contra hshort
      rw [hnone (after_one_of_short (by omega)) (by omega)] at h
      cases h
    · by_contra hlong
      obtain ⟨n, hn, hle⟩ := exists_after_eq_none_of_long (show 2 ^ 31 + 2 ≤ email.length by omega)
      rw [hnone hn (by omega)] at h
      cases h
  · exact fun h => isSome_after h.1 h.2 _

/-- **The constructor is safe from two bytes on.**  Its loop writes only within the name and ends,
the email is kept, and the name shows its first two and its last two characters, exactly if the
email has at least two bytes and at most `2 ^ 31 + 1`. -/
theorem constructor_safe_iff (email : List UInt8) :
    ((∀ n, (Construction.after email n).isSome) ∧
        ∃ n c, Construction.after email n = some c ∧ c.phase = .ended ∧ c.mEmail = email ∧
          Masked email c.mName) ↔
      2 ≤ email.length ∧ email.length ≤ 2 ^ 31 + 1 := by
  constructor
  · rintro ⟨hsome, -⟩
    constructor
    · by_contra hshort
      have h := hsome 1
      rw [after_one_of_short (by omega)] at h
      cases h
    · by_contra hlong
      obtain ⟨n, hnone, -⟩ := exists_after_eq_none_of_long (show 2 ^ 31 + 2 ≤ email.length by omega)
      have h := hsome n
      rw [hnone] at h
      cases h
  · rintro ⟨h2, h31⟩
    exact ⟨isSome_after h2 h31, exists_after_ended h2 h31⟩

/-- A contact with the email `a` is cached, a request for its sum pushes a task as soon as the list
may be updated, and the constructor of that task writes behind the end of its name. -/
theorem constructor_not_safe :
    (∃ s, CacheServer.new.initializeFromDb (fun _ => 0)
        (Tables.answer Sql.Collation.ascii ⟨[⟨"a", 7⟩],
          [⟨1, 500, 1663160964, "a", "", "", "", "", 7, 1, 1, 0, 1, 20⟩]⟩)
        ⟨0, fun _ => 0⟩ 0 = (.ok (), s) ∧
      (s.sumPerEmailApi {} ⟨100, "0", by decide, true⟩ "a").2.mUpdateCacheWorker.mTasks
        = [⟨"a"⟩]) ∧
      Construction.after "a".toUTF8.toList 1 = none :=
  ⟨⟨_, rfl, rfl⟩, by decide +kernel⟩

end GdtCache.BackgroundTasks.UpdateGdtEntryList

namespace GdtCache.CacheServer

open GdtCache.BackgroundTasks.UpdateGdtEntryList GdtCache.Model

/-- The emails of which a task can be made. -/
theorem makeTask_isSome_iff (email : String) :
    (makeTask email).isSome = true ↔ 2 ≤ email.utf8ByteSize ∧ email.utf8ByteSize ≤ 2 ^ 31 + 1 := by
  rw [makeTask, Option.isSome_map]
  exact after_length_isSome_iff (Lithium.textBytes email)

variable {config : Config} {c : Circumstances} {request : ApiRequest} {s : CacheServer}

/-- The handler of a request answers if no task is due, or the email is one to make a task of. -/
theorem served_isSome_iff :
    (s.served config c request).isSome = true ↔
      (c.locked = true → s.refreshDue config c.now request.email = true →
        2 ≤ request.email.utf8ByteSize ∧ request.email.utf8ByteSize ≤ 2 ^ 31 + 1) := by
  rw [served]
  split_ifs with h
  · rw [Bool.and_eq_true] at h
    rw [Option.isSome_map, makeTask_isSome_iff]
    exact ⟨fun hsize _ _ => hsize, fun hsize => hsize h.1 h.2⟩
  · rw [Bool.and_eq_true, not_and] at h
    exact iff_of_true rfl fun hlocked hdue => absurd hdue (h hlocked)

/-- What it answers, and how it changes the cache. -/
theorem eq_of_served {answer : Except HttpError String × CacheServer}
    (h : s.served config c request = some answer) : answer = s.serve config c request := by
  rw [served] at h
  split_ifs at h
  · obtain ⟨task, -, rfl⟩ := Option.map_eq_some_iff.mp h
    rfl
  · exact (Option.some.inj h).symm

end GdtCache.CacheServer
