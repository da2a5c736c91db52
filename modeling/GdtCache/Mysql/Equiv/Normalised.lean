import GdtCache.Mysql.Equiv.Customer
import GdtCache.Utils.Equiv.StringUtils

/-!
# The two normalisations of an email

`getAll` files a contact under `LOWER(TRIM(email))`, which the database computes, and a request
looks for `trim(toLowercase(email))`, which the program computes.  Both take blanks off the ends and
both go to lower case, but the database takes spaces only, the program leaves a text of blanks
alone, and only the database knows letters beyond ASCII.

`normalised_eq_iff` says for which emails the two agree all the same, which is what it takes for a
contact to be found by its own email whatever else is stored.  A tab in front is enough to lose one
(`normalised_ne`).
-/

namespace GdtCache.Mysql.Customer

open GdtCache.Lib

/-! ### Blanks and letters -/

theorem isTrimmed_iff (c : Char) :
    isTrimmed c = true ↔ c.toNat = 32 ∨ c.toNat = 9 ∨ c.toNat = 10 ∨ c.toNat = 13 := by
  simp only [isTrimmed, Bool.or_eq_true, decide_eq_true_eq, ← Char.toNat_inj, or_assoc]
  rfl

/-- No letter becomes a blank, or a blank a letter. -/
theorem isTrimmed_toLower (c : Char) : isTrimmed c.toLower = isTrimmed c := by
  rw [Bool.eq_iff_iff, isTrimmed_iff, isTrimmed_iff]
  unfold Char.toLower
  split
  · rename_i h
    obtain ⟨hlo, hhi⟩ := h
    have hlo : 65 ≤ c.toNat := UInt32.le_iff_toNat_le.mp hlo
    have hhi : c.toNat ≤ 90 := UInt32.le_iff_toNat_le.mp hhi
    have hoffset : ('a'.val - 'A'.val).toNat = 32 := by decide
    rw [Char.toNat_mk, UInt32.toNat_add, Char.toNat_val, hoffset]
    omega
  · rfl

/-- What the database takes away, the program takes away. -/
theorem isTrimmed_of_space (c : Char) (h : decide (c = ' ') = true) : isTrimmed c = true := by
  rw [of_decide_eq_true h]
  rfl

/-- The blanks are the same in lower case, also for the database. -/
theorem lower_of_isTrimmed (collation : Sql.Collation) {c : Char} (h : isTrimmed c = true) :
    collation.lower c = c.toLower := by
  rw [isTrimmed_iff] at h
  exact collation.lower_ascii c (by omega)

/-! ### Which emails have one key -/

variable (collation : Sql.Collation) (email : String)

/-- What the program looks for, by the letters. -/
theorem toList_trim_toLowercase :
    (trim (toLowercase email)).toList = (trim email).toList.map Char.toLower := by
  have hlower : (toLowercase email).toList = email.toList.map Char.toLower :=
    String.toList_ofList
  rcases trim_cases email with ⟨hblank, heq⟩ | ⟨htrimmed, hne⟩
  · rw [trim_of_blank, heq, hlower]
    intro c hc
    rw [hlower, List.mem_map] at hc
    obtain ⟨d, hd, rfl⟩ := hc
    rw [isTrimmed_toLower, hblank d hd]
  · have h := htrimmed.map isTrimmed_toLower
    rw [← hlower] at h
    have hne : (trim email).toList.map Char.toLower ≠ [] := fun hnil =>
      hne (List.map_eq_nil_iff.mp hnil)
    rw [trim_eq_of_trimmed h hne, String.toList_ofList]

/-- What the database files the email under, by the letters. -/
theorem toList_normalised :
    (normalised collation email).toList = (Sql.trim email).toList.map collation.lower :=
  String.toList_ofList

theorem trimmed_trim :
    Trimmed (fun c => decide (c = ' ')) email.toList (Sql.trim email).toList := by
  unfold Sql.trim
  rw [String.toList_ofList]
  exact trimmed_dropWhile _ _

/-- Where the blanks at the ends of an email mean the same to both sides: a text of blanks has no
space at its ends, and in any other the first and the last character besides spaces is no blank. -/
structure SameEnds (email : String) : Prop where
  blank : (∀ c ∈ email.toList, isTrimmed c = true) →
    email.toList.head? ≠ some ' ' ∧ email.toList.getLast? ≠ some ' '
  first : (∃ c ∈ email.toList, isTrimmed c = false) →
    ∀ c, (email.toList.find? fun c => !decide (c = ' ')) = some c → isTrimmed c = false
  last : (∃ c ∈ email.toList, isTrimmed c = false) →
    ∀ c, (email.toList.reverse.find? fun c => !decide (c = ' ')) = some c → isTrimmed c = false

/-- Without the letters: both sides take the same away. -/
theorem trim_eq_iff : (Sql.trim email).toList = (trim email).toList ↔ SameEnds email := by
  have hspaces := trimmed_trim email
  rcases trim_cases email with ⟨hblank, heq⟩ | ⟨htrimmed, hne⟩
  · -- the program takes nothing away
    have hnot : ¬ ∃ c ∈ email.toList, isTrimmed c = false := by
      rintro ⟨c, hc, hfalse⟩
      rw [hblank c hc] at hfalse
      cases hfalse
    have hself : (Sql.trim email).toList = email.toList ↔
        email.toList.head? ≠ some ' ' ∧ email.toList.getLast? ≠ some ' ' := by
      constructor
      · intro h
        rw [h] at hspaces
        exact ⟨fun hc => absurd (hspaces.first _ hc) (by decide),
          fun hc => absurd (hspaces.last _ hc) (by decide)⟩
      · rintro ⟨hfirst, hlast⟩
        rw [Sql.trim_eq_self hfirst hlast]
    rw [heq, hself]
    exact ⟨fun h => ⟨fun _ => h, fun h => absurd h hnot, fun h => absurd h hnot⟩,
      fun h => h.blank hblank⟩
  · have hmem : ∃ c ∈ email.toList, isTrimmed c = false := by
      by_contra hnot
      push Not at hnot
      have hnil := trimmed_nil_iff.mpr fun c hc => Bool.ne_false_iff.mp (hnot c hc)
      exact hne (htrimmed.eq hnil)
    have hall : ¬ ∀ c ∈ email.toList, isTrimmed c = true := by
      obtain ⟨c, hc, hfalse⟩ := hmem
      intro h
      rw [h c hc] at hfalse
      cases hfalse
    -- the program takes away what the database does, and then the other blanks
    have hrest := hspaces.of_trimmed isTrimmed_of_space htrimmed
    have hself : (Sql.trim email).toList = (trim email).toList ↔
        Trimmed isTrimmed (Sql.trim email).toList (Sql.trim email).toList :=
      ⟨fun h => by rwa [← h] at hrest, fun h => h.eq hrest⟩
    rw [hself, trimmed_self_iff, hspaces.head?, hspaces.getLast?]
    exact ⟨fun h => ⟨fun h' => absurd h' hall, fun _ => h.1, fun _ => h.2⟩,
      fun h => ⟨h.first hmem, h.last hmem⟩⟩

/-- The letters that the program makes lower case, and no others. -/
theorem normalised_eq_iff_trim_eq :
    normalised collation email = trim (toLowercase email) ↔
      (∀ c ∈ email.toList, collation.lower c = c.toLower) ∧
        (Sql.trim email).toList = (trim email).toList := by
  rw [← String.toList_inj, toList_normalised, toList_trim_toLowercase]
  constructor
  · intro h
    -- what one side takes away it also takes away of what the other leaves
    have hsame : (Sql.trim email).toList = (trim email).toList := by
      have hlength := congrArg List.length h
      rw [List.length_map, List.length_map] at hlength
      have hspaces := trimmed_trim email
      rcases trim_cases email with ⟨hblank, heq⟩ | ⟨htrimmed, -⟩
      · rw [heq] at hlength ⊢
        exact (hspaces.eq_of_length hlength.symm).symm
      · exact (hspaces.of_trimmed isTrimmed_of_space htrimmed).eq_of_length hlength
    rw [hsame, List.map_inj_left] at h
    exact ⟨(forall_mem_trim_iff (fun _ => lower_of_isTrimmed collation) email).mp h, hsame⟩
  · rintro ⟨hletters, hsame⟩
    rw [hsame, List.map_inj_left]
    exact (forall_mem_trim_iff (fun _ => lower_of_isTrimmed collation) email).mpr hletters

/-! ### Finding a contact by its email -/

/-- There is something under a key if a contact is filed under it. -/
theorem exists_lookup_getAll_iff (tables : Tables) (key : String) :
    (∃ ids customerId, getAll (tables.answer collation) = .ok ids ∧
        ids.lookup key = some customerId) ↔
      ∃ row ∈ tables.contacts, normalised collation row.email = key := by
  have hlookup : (∃ ids customerId, getAll (tables.answer collation) = .ok ids ∧
      ids.lookup key = some customerId) ↔
      (tables.contacts.find? fun row => isFiledUnder collation key row.email).isSome := by
    rw [getAll_answer]
    simp only [Except.ok.injEq, exists_and_left, exists_eq_left', lookup_getAll_answer,
      Option.map_eq_some_iff, Option.isSome_iff_exists]
    exact ⟨fun ⟨_, row, h, _⟩ => ⟨row, h⟩, fun ⟨row, h⟩ => ⟨_, row, h, rfl⟩⟩
  rw [hlookup, List.find?_isSome]
  simp only [isFiledUnder, decide_eq_true_eq]

/-- **One key.**  The database files an email where a request looks for it exactly if both sides
take the same blanks off its ends and the database makes no letter lower case that the program
leaves.  Then, and only then, a contact is found by its own email. -/
theorem normalised_eq_iff :
    (normalised collation email = trim (toLowercase email) ∧
        ∀ tables : Tables, ∀ row ∈ tables.contacts, row.email = email →
          ∃ ids customerId, getAll (tables.answer collation) = .ok ids ∧
            ids.lookup (trim (toLowercase email)) = some customerId) ↔
      (∀ c ∈ email.toList, collation.lower c = c.toLower) ∧ SameEnds email := by
  rw [← trim_eq_iff, ← normalised_eq_iff_trim_eq]
  refine ⟨fun h => h.1, fun h => ⟨h, ?_⟩⟩
  rintro tables row hrow rfl
  rw [exists_lookup_getAll_iff]
  exact ⟨row, hrow, h⟩

/-- The database leaves a tab in front of an email, the program does not ask for it, and the only
contact there is goes unfound by its own email. -/
theorem normalised_ne :
    normalised Sql.Collation.ascii "\tbob@example.org"
        ≠ trim (toLowercase "\tbob@example.org") ∧
      ¬ ∃ ids customerId,
        getAll (Tables.answer Sql.Collation.ascii ⟨[⟨"\tbob@example.org", 1⟩], []⟩) = .ok ids ∧
          ids.lookup (trim (toLowercase "\tbob@example.org")) = some customerId := by
  have hne : normalised Sql.Collation.ascii "\tbob@example.org"
      ≠ trim (toLowercase "\tbob@example.org") := by decide
  refine ⟨hne, ?_⟩
  rw [exists_lookup_getAll_iff]
  rintro ⟨row, hrow, hkey⟩
  rw [List.mem_singleton] at hrow
  rw [hrow] at hkey
  exact hne hkey

end GdtCache.Mysql.Customer
