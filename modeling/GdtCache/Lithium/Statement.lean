import Mathlib.Data.Nat.Notation

/-!
# Texts of a prepared statement

`mysql_statement_result::fetch_column` for a `std::string`.  A fetch leaves the text in a buffer of
`bufferLength` bytes, as far as it fits in, and tells its length.  The string still has the size of
the row before: if the text is longer, it is fetched again into the string; if not, it is copied
from the buffer in its whole length, also from behind the end of the buffer.

What lies behind the buffer is a parameter, byte by byte.
-/

namespace GdtCache.Lithium

/-- The length of the `prealocated_strings` of `mysql_bind_data`. -/
def bufferLength : ℕ := 100

/-- `fetch_column` for a string, which is `v` before. -/
def fetchColumn (v sent : List UInt8) (behind : ℕ → UInt8) : List UInt8 :=
  if sent.length ≤ v.length then
    sent.take bufferLength ++ (List.range (sent.length - bufferLength)).map behind
  else sent

/-- The bytes of a text. -/
def textBytes (text : String) : List UInt8 :=
  text.toUTF8.data.toList

/-- The text of some bytes; of bytes that are no text, only that they are none. -/
def textOf (bytes : List UInt8) : String :=
  (String.fromUTF8? ⟨bytes.toArray⟩).getD "\ufffd"

/-- `fetch_column` for texts. -/
def fetchText (v sent : String) (behind : ℕ → UInt8) : String :=
  textOf (fetchColumn (textBytes v) (textBytes sent) behind)

/-- The text is copied from behind the buffer, too. -/
def Overruns (v sent : String) : Prop :=
  bufferLength < sent.utf8ByteSize ∧ sent.utf8ByteSize ≤ v.utf8ByteSize

instance (v sent : String) : Decidable (Overruns v sent) :=
  inferInstanceAs (Decidable (_ ∧ _))

end GdtCache.Lithium
