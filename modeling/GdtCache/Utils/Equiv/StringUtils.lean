import GdtCache.Lib.Trim
import GdtCache.Utils.StringUtils

/-!
# Correctness of `trim`

Where there is anything but white space, `trim` is the trimming of its argument
(`trim_eq_of_trimmed`): its two searches find the ends of what is left.  A string of white space
alone is where both searches fail, and `trim` returns it as it is (`trim_of_blank`), although
nothing of it should be left.  So `trim` trims exactly the other strings and the empty one
(`trim_law_iff`).
-/

namespace GdtCache

open GdtCache.Lib

variable {str : String} {a t b : List Char}

/-- The first search stops at the first character that stays. -/
theorem findFirstNotTrimmed_append (ha : ∀ c ∈ a, isTrimmed c = true) {c : Char}
    (hc : isTrimmed c = false) (rest : List Char) :
    findFirstNotTrimmed (a ++ c :: rest) = some a.length := by
  have hnone : a.findIdx? (fun c => !isTrimmed c) = none := by
    rw [List.findIdx?_eq_none_iff]
    intro x hx
    rw [ha x hx, Bool.not_true]
  unfold findFirstNotTrimmed
  rw [List.findIdx?_append, hnone, Option.none_or, List.findIdx?_cons, hc]
  simp

/-- The second search is the first one from the other end. -/
theorem findLastNotTrimmed_append (hb : ∀ c ∈ b, isTrimmed c = true) {c : Char}
    (hc : isTrimmed c = false) (front : List Char) :
    findLastNotTrimmed (front ++ c :: b) = some front.length := by
  have hsearch : (front ++ c :: b).reverse.findIdx? (fun c => !isTrimmed c) = some b.length := by
    have h := findFirstNotTrimmed_append (a := b.reverse)
      (fun x hx => hb x (List.mem_reverse.mp hx)) hc front.reverse
    rw [List.length_reverse] at h
    simpa [findFirstNotTrimmed] using h
  unfold findLastNotTrimmed
  rw [hsearch, Option.map_some, List.length_append, List.length_cons]
  congr 1
  omega

/-- White space alone is returned as it is. -/
theorem trim_of_blank (h : ∀ c ∈ str.toList, isTrimmed c = true) : trim str = str := by
  have hnone : findFirstNotTrimmed str.toList = none := by
    unfold findFirstNotTrimmed
    rw [List.findIdx?_eq_none_iff]
    intro c hc
    rw [h c hc, Bool.not_true]
  unfold trim
  rw [hnone]

/-- **What is between the white space.** -/
theorem trim_eq_of_trimmed (h : Trimmed isTrimmed str.toList t) (hne : t ≠ []) :
    trim str = String.ofList t := by
  obtain ⟨⟨a, b, hsplit, ha, hb⟩, hfirst, hlast⟩ := h
  -- the two ends of `t` are where the two searches stop
  have hfound : findFirstNotTrimmed str.toList = some a.length := by
    obtain ⟨c, rest, rfl⟩ := List.exists_cons_of_ne_nil hne
    rw [hsplit, List.append_assoc, List.cons_append]
    exact findFirstNotTrimmed_append ha (hfirst c rfl) _
  have hfoundLast : findLastNotTrimmed str.toList = some (a.length + (t.length - 1)) := by
    have hc := hlast _ (List.getLast?_eq_some_getLast hne)
    have h := findLastNotTrimmed_append hb hc (a ++ t.dropLast)
    rw [List.length_append, List.length_dropLast] at h
    rw [← h, hsplit]
    congr 1
    conv_lhs => rw [← List.dropLast_append_getLast hne]
    simp
  have hlength : a.length + (t.length - 1) - a.length + 1 = t.length := by
    have := List.length_pos_of_ne_nil hne
    omega
  unfold trim
  rw [hfound, hfoundLast]
  simp only [hlength]
  rw [hsplit, List.append_assoc, List.drop_left, List.take_left]

/-- Two kinds of strings. -/
theorem trim_cases (str : String) :
    (∀ c ∈ str.toList, isTrimmed c = true) ∧ trim str = str ∨
      Trimmed isTrimmed str.toList (trim str).toList ∧ (trim str).toList ≠ [] := by
  by_cases hnil : (str.toList.dropWhile isTrimmed).rdropWhile isTrimmed = []
  · have hblank := trimmed_nil_iff.mp (trimmed_iff.mpr hnil)
    exact .inl ⟨hblank, trim_of_blank hblank⟩
  · have htrimmed := trimmed_dropWhile isTrimmed str.toList
    rw [trim_eq_of_trimmed htrimmed hnil, String.toList_ofList]
    exact .inr ⟨htrimmed, hnil⟩

/-- What blanks have anyway, a string has if its trimming has. -/
theorem forall_mem_trim_iff {P : Char → Prop} (hP : ∀ c, isTrimmed c = true → P c)
    (str : String) : (∀ c ∈ (trim str).toList, P c) ↔ ∀ c ∈ str.toList, P c := by
  rcases trim_cases str with ⟨-, heq⟩ | ⟨htrimmed, -⟩
  · rw [heq]
  · obtain ⟨a, b, hsplit, ha, hb⟩ := htrimmed.split
    rw [hsplit]
    simp only [List.forall_mem_append]
    exact ⟨fun h => ⟨⟨fun c hc => hP c (ha c hc), h⟩, fun c hc => hP c (hb c hc)⟩, fun h => h.1.2⟩

/-- Trimming again changes nothing. -/
theorem trim_trim (str : String) : trim (trim str) = trim str := by
  rcases trim_cases str with ⟨-, heq⟩ | ⟨htrimmed, hne⟩
  · rw [heq, heq]
  · have hself := trimmed_self_iff.mpr ⟨htrimmed.first, htrimmed.last⟩
    rw [trim_eq_of_trimmed hself hne, String.ofList_toList]

/-- **`trim` trims every string except one of white space alone.** -/
theorem trim_law_iff (str : String) :
    (Trimmed isTrimmed str.toList (trim str).toList ∧
        (∀ t, Trimmed isTrimmed str.toList t → t = (trim str).toList) ∧
        trim (trim str) = trim str) ↔
      str = "" ∨ ∃ c ∈ str.toList, isTrimmed c = false := by
  constructor
  · rintro ⟨htrimmed, -, -⟩
    by_contra hnot
    push Not at hnot
    obtain ⟨hne, hblank⟩ := hnot
    have hblank : ∀ c ∈ str.toList, isTrimmed c = true := fun c hc =>
      Bool.ne_false_iff.mp (hblank c hc)
    -- nothing should be left, and all of it is
    have hnil := htrimmed.eq (trimmed_nil_iff.mpr hblank)
    rw [trim_of_blank hblank] at hnil
    exact hne (String.toList_eq_nil_iff.mp hnil)
  · intro h
    have htrimmed : Trimmed isTrimmed str.toList (trim str).toList := by
      rcases trim_cases str with ⟨hblank, heq⟩ | ⟨htrimmed, -⟩
      · rcases h with rfl | ⟨c, hc, hnot⟩
        · rw [heq]
          exact trimmed_nil_iff.mpr hblank
        · rw [hblank c hc] at hnot
          cases hnot
      · exact htrimmed
    exact ⟨htrimmed, fun t ht => ht.eq htrimmed, trim_trim str⟩

/-- A single space should leave nothing, and stays. -/
theorem trim_space :
    Trimmed isTrimmed " ".toList [] ∧ (trim " ").toList ≠ [] ∧
      ¬ Trimmed isTrimmed " ".toList (trim " ").toList := by
  have hblank : ∀ c ∈ " ".toList, isTrimmed c = true := fun c hc => by
    rw [List.mem_singleton.mp hc]
    rfl
  have heq := trim_of_blank hblank
  refine ⟨trimmed_nil_iff.mpr hblank, by rw [heq]; decide, fun h => ?_⟩
  rw [heq] at h
  have := h.first ' ' rfl
  exact absurd this (by decide)

end GdtCache
