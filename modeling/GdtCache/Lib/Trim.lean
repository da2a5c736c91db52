import Mathlib.Data.List.DropRight

/-!
# Trimming a list

`Trimmed p s t` says that `t` is `s` without the elements at both ends that `p` takes away.  There
is exactly one such list, `dropWhile` followed by `rdropWhile` (`trimmed_iff`).
-/

namespace GdtCache.Lib

variable {α : Type*} {p : α → Bool} {s t : List α}

/-- `s` is `t` with elements of `p` around it, and none of these at the ends of `t`. -/
structure Trimmed (p : α → Bool) (s t : List α) : Prop where
  split : ∃ a b, s = a ++ t ++ b ∧ (∀ c ∈ a, p c = true) ∧ ∀ c ∈ b, p c = true
  first : ∀ c, t.head? = some c → p c = false
  last : ∀ c, t.getLast? = some c → p c = false

/-- What is at the end goes. -/
theorem rdropWhile_append_of_pos {b : List α} (h : ∀ c ∈ b, p c = true) (l : List α) :
    (l ++ b).rdropWhile p = l.rdropWhile p := by
  have hreverse : ∀ c ∈ b.reverse, p c = true := fun c hc => h c (List.mem_reverse.mp hc)
  unfold List.rdropWhile
  rw [List.reverse_append, List.dropWhile_append_of_pos hreverse]

theorem rdropWhile_eq_self_of_getLast? (h : ∀ c, t.getLast? = some c → p c = false) :
    t.rdropWhile p = t := by
  rw [List.rdropWhile_eq_self_iff]
  intro hne
  rw [h _ (List.getLast?_eq_some_getLast hne)]
  nofun

theorem trimmed_dropWhile (p : α → Bool) (s : List α) :
    Trimmed p s ((s.dropWhile p).rdropWhile p) where
  split := by
    refine ⟨s.takeWhile p, (s.dropWhile p).rtakeWhile p, ?_, fun c => List.mem_takeWhile_imp,
      fun c => List.mem_rtakeWhile_imp⟩
    rw [List.append_assoc, List.rdropWhile_append_rtakeWhile, List.takeWhile_append_dropWhile]
  first c hc := by
    -- the first element that is left is the first one behind what is dropped in front
    obtain ⟨rest, hrest⟩ := List.rdropWhile_prefix p (l := s.dropWhile p)
    have hhead : (s.dropWhile p).head? = some c := by
      rw [← hrest, List.head?_append, hc, Option.some_or]
    exact Bool.eq_false_iff.mpr fun hpc => by
      have hnot := List.head?_dropWhile_not p s
      rw [hhead] at hnot
      simp [hpc] at hnot
  last c hc := by
    have hne : (s.dropWhile p).rdropWhile p ≠ [] := by
      rintro hnil
      rw [hnil] at hc
      cases hc
    rw [List.getLast?_eq_some_getLast hne] at hc
    obtain rfl := Option.some.inj hc
    exact Bool.eq_false_iff.mpr (List.rdropWhile_last_not p _ hne)

/-- **Trimming is unique.** -/
theorem trimmed_iff : Trimmed p s t ↔ (s.dropWhile p).rdropWhile p = t := by
  constructor
  · rintro ⟨⟨a, b, rfl, ha, hb⟩, hfirst, hlast⟩
    rw [List.append_assoc, List.dropWhile_append_of_pos ha]
    cases t with
    | nil =>
      rw [List.nil_append, List.dropWhile_eq_nil_iff.mpr hb, List.rdropWhile_nil]
    | cons c t =>
      have hdrop : (c :: t ++ b).dropWhile p = c :: t ++ b :=
        List.dropWhile_cons_of_neg (by rw [hfirst c rfl]; nofun)
      rw [hdrop, rdropWhile_append_of_pos hb, rdropWhile_eq_self_of_getLast? hlast]
  · rintro rfl
    exact trimmed_dropWhile p s

theorem Trimmed.eq {t' : List α} (h : Trimmed p s t) (h' : Trimmed p s t') : t = t' :=
  (trimmed_iff.mp h).symm.trans (trimmed_iff.mp h')

/-- Nothing is left exactly if there is nothing but elements of `p`. -/
theorem trimmed_nil_iff : Trimmed p s [] ↔ ∀ c ∈ s, p c = true := by
  constructor
  · rintro ⟨⟨a, b, rfl, ha, hb⟩, -, -⟩ c hc
    rw [List.append_nil, List.mem_append] at hc
    exact hc.elim (ha c) (hb c)
  · intro h
    exact ⟨⟨s, [], by rw [List.append_nil, List.append_nil], h, nofun⟩, nofun, nofun⟩

/-- A list is trimmed already if neither end is an element of `p`. -/
theorem trimmed_self_iff :
    Trimmed p s s ↔ (∀ c, s.head? = some c → p c = false) ∧
      ∀ c, s.getLast? = some c → p c = false :=
  ⟨fun h => ⟨h.first, h.last⟩, fun h => ⟨⟨[], [], by simp, nofun, nofun⟩, h.1, h.2⟩⟩

/-! ### From one trimming to another -/

/-- The other way round. -/
theorem Trimmed.reverse (h : Trimmed p s t) : Trimmed p s.reverse t.reverse where
  split := by
    obtain ⟨a, b, rfl, ha, hb⟩ := h.split
    refine ⟨b.reverse, a.reverse, by simp, ?_, ?_⟩
    · exact fun c hc => hb c (List.mem_reverse.mp hc)
    · exact fun c hc => ha c (List.mem_reverse.mp hc)
  first c hc := h.last c (by rwa [List.head?_reverse] at hc)
  last c hc := h.first c (by rwa [List.getLast?_reverse] at hc)

/-- A map that keeps `p` trims alike. -/
theorem Trimmed.map {f : α → α} (hf : ∀ c, p (f c) = p c) (h : Trimmed p s t) :
    Trimmed p (s.map f) (t.map f) where
  split := by
    obtain ⟨a, b, rfl, ha, hb⟩ := h.split
    have hmap : ∀ l : List α, (∀ c ∈ l, p c = true) → ∀ c ∈ l.map f, p c = true := by
      intro l hl c hc
      obtain ⟨d, hd, rfl⟩ := List.mem_map.mp hc
      rw [hf, hl d hd]
    exact ⟨a.map f, b.map f, by rw [List.map_append, List.map_append], hmap a ha, hmap b hb⟩
  first c hc := by
    rw [List.head?_map] at hc
    obtain ⟨d, hd, rfl⟩ := Option.map_eq_some_iff.mp hc
    rw [hf, h.first d hd]
  last c hc := by
    rw [List.getLast?_map] at hc
    obtain ⟨d, hd, rfl⟩ := Option.map_eq_some_iff.mp hc
    rw [hf, h.last d hd]

/-- What is trimmed of less is trimmed to the same. -/
theorem Trimmed.of_trimmed {q : α → Bool} (hqp : ∀ c, q c = true → p c = true) {u : List α}
    (hu : Trimmed q s u) (ht : Trimmed p s t) : Trimmed p u t := by
  have htrimmed := trimmed_dropWhile p u
  obtain ⟨⟨a, b, hsplit, ha, hb⟩, hfirst, hlast⟩ := htrimmed
  obtain ⟨⟨a', b', hsplit', ha', hb'⟩, -, -⟩ := hu
  have hall : Trimmed p s ((u.dropWhile p).rdropWhile p) := by
    refine ⟨⟨a' ++ a, b ++ b', ?_, ?_, ?_⟩, hfirst, hlast⟩
    · rw [hsplit']
      conv_lhs => rw [hsplit]
      simp only [List.append_assoc]
    · exact fun c hc => (List.mem_append.mp hc).elim (fun h => hqp c (ha' c h)) (ha c)
    · exact fun c hc => (List.mem_append.mp hc).elim (hb c) fun h => hqp c (hb' c h)
  exact trimmed_iff.mpr (hall.eq ht)

/-- Nothing goes if the length stays. -/
theorem Trimmed.eq_of_length (h : Trimmed p s t) (hlength : s.length = t.length) : s = t := by
  obtain ⟨⟨a, b, rfl, -, -⟩, -, -⟩ := h
  rw [List.length_append, List.length_append] at hlength
  have ha : a = [] := List.length_eq_zero_iff.mp (by omega)
  have hb : b = [] := List.length_eq_zero_iff.mp (by omega)
  rw [ha, hb, List.nil_append, List.append_nil]

/-- What is left begins with the first element that is not of `p`. -/
theorem Trimmed.head? (h : Trimmed p s t) : t.head? = s.find? fun c => !p c := by
  obtain ⟨⟨a, b, rfl, ha, hb⟩, hfirst, -⟩ := h
  have hnone : ∀ l : List α, (∀ c ∈ l, p c = true) → l.find? (fun c => !p c) = none := by
    intro l hl
    rw [List.find?_eq_none]
    intro c hc
    rw [hl c hc]
    nofun
  rw [List.find?_append, List.find?_append, hnone a ha, hnone b hb, Option.none_or, Option.or_none]
  cases t with
  | nil => rfl
  | cons c t => rw [List.head?_cons, List.find?_cons, hfirst c rfl, Bool.not_false]

/-- And ends with the last one. -/
theorem Trimmed.getLast? (h : Trimmed p s t) : t.getLast? = s.reverse.find? fun c => !p c := by
  rw [← List.head?_reverse, h.reverse.head?]

end GdtCache.Lib
