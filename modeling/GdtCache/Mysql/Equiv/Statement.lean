import GdtCache.Lithium.Equiv.Statement
import GdtCache.Mysql.Connection
import Mathlib.Data.List.Chain
import Mathlib.Logic.Function.Basic

/-!
# Which rows of a prepared statement are right

A prepared statement hands on every row in its place, with all columns but the texts as they were
sent (`map_fetchRows`).  The texts are right, too, if none of them is long and comes behind one that
is as long in the same column of the row before (`Intact`); otherwise that depends on what lies
behind the buffers (`exists_memory`).
-/

namespace GdtCache.Mysql

open GdtCache.Lithium

namespace GdtEntryRow

@[simp] theorem withTexts_text (row : GdtEntryRow) : row.withTexts row.text = row := rfl

/-- A text of the row is copied from behind its buffer. -/
def Overruns (previous row : GdtEntryRow) : Prop :=
  ∃ column, Lithium.Overruns (previous.text column) (row.text column)

theorem not_overruns_empty (row : GdtEntryRow) : ¬ Overruns .empty row := by
  rintro ⟨column, hlong, hsize⟩
  have hempty : (GdtEntryRow.empty.text column).utf8ByteSize = 0 := by
    cases column <;> rfl
  rw [hempty] at hsize
  exact absurd (Nat.lt_of_lt_of_le hlong hsize) (Nat.not_lt_zero _)

end GdtEntryRow

/-- No text of more than 100 bytes comes behind one that is as long, in the same column of the row
before. -/
def Intact (rows : List GdtEntryRow) : Prop :=
  rows.IsChain fun previous row => ¬ GdtEntryRow.Overruns previous row

/-- The rows are handed on in their order, with all that is no text. -/
theorem map_fetchRows {β : Type} {f : GdtEntryRow → β}
    (hf : ∀ row text, f (row.withTexts text) = f row) :
    ∀ (rows : List GdtEntryRow) (behind : Memory) (rowObject : GdtEntryRow),
      (fetchRows behind rowObject rows).map f = rows.map f := by
  intro rows
  induction rows with
  | nil => exact fun _ _ => rfl
  | cons row rows ih =>
    intro behind rowObject
    rw [fetchRows, List.map_cons, List.map_cons, hf, ih]

theorem withTexts_fetchText_of_not_overruns {previous row : GdtEntryRow}
    (h : ¬ GdtEntryRow.Overruns previous row) (behind : TextColumn → ℕ → UInt8) :
    row.withTexts (fun column =>
      fetchText (previous.text column) (row.text column) (behind column)) = row := by
  have htexts : (fun column => fetchText (previous.text column) (row.text column) (behind column))
      = row.text :=
    funext fun column => fetchText_of_not_overruns (fun hcolumn => h ⟨column, hcolumn⟩) _
  rw [htexts, GdtEntryRow.withTexts_text]

theorem fetchRows_of_isChain :
    ∀ (rows : List GdtEntryRow) (behind : Memory) (rowObject : GdtEntryRow),
      Intact (rowObject :: rows) → fetchRows behind rowObject rows = rows := by
  intro rows
  induction rows with
  | nil => exact fun _ _ _ => rfl
  | cons row rows ih =>
    intro behind rowObject h
    obtain ⟨hrow, hrows⟩ := List.isChain_cons_cons.mp h
    rw [fetchRows, withTexts_fetchText_of_not_overruns hrow, ih _ _ hrows]

theorem intact_empty_cons_iff (rows : List GdtEntryRow) :
    Intact (.empty :: rows) ↔ Intact rows := by
  cases rows with
  | nil => exact iff_of_true (.singleton _) .nil
  | cons row rows =>
    exact List.isChain_cons_cons.trans (and_iff_right (GdtEntryRow.not_overruns_empty row))

/-- **Intact rows arrive as they were sent.** -/
theorem StatementResult.received_of_intact {result : StatementResult}
    (h : Intact result.sent.rows) : result.received = result.sent := by
  rw [received, fetchRows_of_isChain _ _ _ ((intact_empty_cons_iff _).mpr h)]

/-! ### Rows that are not intact -/

/-- The rest of each text lies behind its buffer. -/
def restsOf (rows : List GdtEntryRow) : Memory :=
  fun n column => restOf ((rows[n]?.getD .empty).text column)

theorem fetchRows_restsOf :
    ∀ (rows : List GdtEntryRow) (rowObject : GdtEntryRow),
      fetchRows (restsOf rows) rowObject rows = rows := by
  intro rows
  induction rows with
  | nil => exact fun _ => rfl
  | cons row rows ih =>
    intro rowObject
    have htexts : (fun column => fetchText (rowObject.text column) (row.text column)
        (restsOf (row :: rows) 0 column)) = row.text :=
      funext fun column => fetchText_restOf _ _
    have hnext : (fun n => restsOf (row :: rows) (n + 1)) = restsOf rows := rfl
    rw [fetchRows, htexts, GdtEntryRow.withTexts_text, hnext, ih]

/-- One text of a row is another one. -/
structure Garbled (row row' : GdtEntryRow) (column : TextColumn) : Prop where
  eq_withTexts : row' = row.withTexts (Function.update row.text column (row'.text column))
  text_ne : row'.text column ≠ row.text column
  long : bufferLength < (row.text column).utf8ByteSize
  ne_empty : row'.text column ≠ ""

theorem garbled_withTexts {row : GdtEntryRow} {column : TextColumn} {text : String}
    (hne : text ≠ row.text column) (hlong : bufferLength < (row.text column).utf8ByteSize)
    (hempty : text ≠ "") :
    Garbled row (row.withTexts (Function.update row.text column text)) column := by
  have htext : (row.withTexts (Function.update row.text column text)).text column = text := by
    cases column <;> rfl
  refine ⟨?_, ?_, hlong, ?_⟩
  · rw [htext]
  · rwa [htext]
  · rwa [htext]

/-- **Anything may arrive otherwise**: there is a memory that garbles one text and no other. -/
theorem exists_memory :
    ∀ (rows : List GdtEntryRow) (rowObject : GdtEntryRow), ¬ Intact (rowObject :: rows) →
      ∃ behind before row row' after column, rows = before ++ row :: after ∧
        fetchRows behind rowObject rows = before ++ row' :: after ∧ Garbled row row' column := by
  intro rows
  induction rows with
  | nil => exact fun rowObject h => absurd (.singleton _) h
  | cons row rows ih =>
    intro rowObject h
    by_cases hrow : GdtEntryRow.Overruns rowObject row
    · obtain ⟨column, hcolumn⟩ := hrow
      -- the rest of every text lies behind its buffer, but for the first byte of this one
      let behind : Memory := fun n =>
        if n = 0 then Function.update (restsOf (row :: rows) 0) column
          (fun k => restOf (row.text column) k + 1)
        else restsOf (row :: rows) n
      have htexts : (fun column' => fetchText (rowObject.text column') (row.text column')
          (behind 0 column')) = Function.update row.text column
            (fetchText (rowObject.text column) (row.text column)
              (fun k => restOf (row.text column) k + 1)) := by
        funext column'
        by_cases hcolumn' : column' = column
        · subst hcolumn'
          simp only [behind, if_true, Function.update_self]
        · simp only [behind, if_true, Function.update_of_ne hcolumn']
          exact fetchText_restOf _ _
      have hnext : (fun n => behind (n + 1)) = restsOf rows := rfl
      have hgarbled := garbled_withTexts (fetchText_ne hcolumn) hcolumn.1
        (fetchText_ne_empty hcolumn _)
      refine ⟨behind, [], row, _, rows, column, rfl, ?_, hgarbled⟩
      rw [fetchRows, htexts, hnext, fetchRows_restsOf]
      rfl
    · have hrows : ¬ Intact (row :: rows) := fun hrows =>
        h (List.isChain_cons_cons.mpr ⟨hrow, hrows⟩)
      obtain ⟨behind, before, row₁, row₁', after, column, hsplit, hfetch, hgarbled⟩ :=
        ih row hrows
      refine ⟨fun n => behind (n - 1), row :: before, row₁, row₁', after, column,
        by rw [hsplit]; rfl, ?_, hgarbled⟩
      rw [fetchRows, withTexts_fetchText_of_not_overruns hrow]
      exact congrArg (row :: ·) hfetch

end GdtCache.Mysql
