import GdtCache.Lithium.Statement
import Mathlib.Data.List.Basic
import Mathlib.Tactic.SplitIfs

/-!
# Which texts of a prepared statement are right

A text that fits into its buffer, or that is longer than the one of the row before, is right
whatever lies behind the buffer (`fetchText_of_not_overruns`).  Any other is right only if the rest
of it happens to lie there (`fetchText_restOf`, `fetchText_ne`).
-/

namespace GdtCache.Lithium

@[simp] theorem length_textBytes (text : String) : (textBytes text).length = text.utf8ByteSize :=
  rfl

theorem textOf_textBytes (text : String) : textOf (textBytes text) = text := by
  have hvalid : ByteArray.IsValidUTF8 ⟨(textBytes text).toArray⟩ := text.isValidUTF8
  rw [textOf, String.fromUTF8?, dif_pos hvalid]
  rfl

/-- A text that is right has the right bytes. -/
theorem eq_textBytes_of_textOf {bytes : List UInt8} {text : String} (h : textOf bytes = text)
    (hsize : 3 < text.utf8ByteSize) : bytes = textBytes text := by
  rw [textOf, String.fromUTF8?] at h
  split_ifs at h with hvalid
  · rw [← h]
    rfl
  · rw [← h] at hsize
    exact absurd hsize (by decide)

/-- The string takes the size of the text in any case. -/
theorem length_fetchColumn (v sent : List UInt8) (behind : ℕ → UInt8) :
    (fetchColumn v sent behind).length = sent.length := by
  rw [fetchColumn]
  split_ifs with hlong
  · rw [List.length_append, List.length_take, List.length_map, List.length_range]
    omega
  · rfl

theorem fetchText_of_not_overruns {v sent : String} (h : ¬ Overruns v sent) (behind : ℕ → UInt8) :
    fetchText v sent behind = sent := by
  have hcolumn : fetchColumn (textBytes v) (textBytes sent) behind = textBytes sent := by
    rw [fetchColumn]
    split_ifs with hlong
    · have hshort : (textBytes sent).length ≤ bufferLength := by
        rw [length_textBytes]
        exact Nat.le_of_not_lt fun hlt => h ⟨hlt, hlong⟩
      rw [List.take_of_length_le hshort, Nat.sub_eq_zero_of_le hshort]
      exact List.append_nil _
    · rfl
  rw [fetchText, hcolumn, textOf_textBytes]

/-- What lies behind the buffer if it is the rest of the text. -/
def restOf (sent : String) (k : ℕ) : UInt8 :=
  (textBytes sent)[bufferLength + k]?.getD 0

theorem fetchText_restOf (v sent : String) : fetchText v sent (restOf sent) = sent := by
  have hcolumn : fetchColumn (textBytes v) (textBytes sent) (restOf sent) = textBytes sent := by
    rw [fetchColumn]
    split_ifs with hlong
    · have hrest : (List.range ((textBytes sent).length - bufferLength)).map (restOf sent)
          = (textBytes sent).drop bufferLength := by
        refine List.ext_getElem (by simp) fun k hk hk' => ?_
        rw [List.length_drop] at hk'
        rw [List.getElem_map, List.getElem_range, List.getElem_drop, restOf,
          List.getElem?_eq_getElem (by omega), Option.getD_some]
      rw [hrest, List.take_append_drop]
    · rfl
  rw [fetchText, hcolumn, textOf_textBytes]

/-- Any other byte makes it another text. -/
theorem fetchText_ne {v sent : String} (h : Overruns v sent) :
    fetchText v sent (fun k => restOf sent k + 1) ≠ sent := by
  obtain ⟨hlong, hsize⟩ := h
  intro heq
  have hbytes := eq_textBytes_of_textOf heq (Nat.lt_trans (by decide) hlong)
  have hbyte := congrArg (fun bytes => bytes[bufferLength]?) hbytes
  have hlength : (textBytes sent).length ≤ (textBytes v).length := hsize
  have hlt : bufferLength < (textBytes sent).length := hlong
  have htake : ((textBytes sent).take bufferLength).length = bufferLength := by
    rw [List.length_take]
    omega
  simp only [fetchColumn, if_pos hlength] at hbyte
  rw [List.getElem?_append_right (by omega), htake, Nat.sub_self, List.getElem?_map,
    List.getElem?_range (by omega), Option.map_some, restOf, Nat.add_zero,
    List.getElem?_eq_getElem hlt, Option.getD_some, Option.some.injEq] at hbyte
  exact absurd hbyte (by simp)

theorem fetchText_ne_empty {v sent : String} (h : Overruns v sent) (behind : ℕ → UInt8) :
    fetchText v sent behind ≠ "" := by
  intro hempty
  have hlength := length_fetchColumn (textBytes v) (textBytes sent) behind
  rw [fetchText, textOf, String.fromUTF8?] at hempty
  split_ifs at hempty with hvalid
  · have hsize := congrArg String.utf8ByteSize hempty
    have hbytes : (fetchColumn (textBytes v) (textBytes sent) behind).length = 0 := hsize
    rw [hlength, length_textBytes] at hbytes
    have hlong := h.1
    omega
  · exact absurd hempty (by decide)

end GdtCache.Lithium
