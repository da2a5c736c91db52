import Mathlib.Data.Nat.Notation

/-!
# Lithium's output buffer

`output_buffer`, and the bytes `generic_http_ctx::respond` writes into it for a response.

The buffer has a fixed size.  What does not fit behind what it holds goes in after a flush; what
does not fit into the empty buffer fails an assertion, and without assertions is copied past its
end.
-/

namespace GdtCache.Lithium

/-- `output_buffer` -/
structure OutputBuffer where
  capacity : ℕ
  /-- What lies between `buffer_` and `cursor_`. -/
  written : List UInt8
  /-- What `flush_` was called with, one call after another. -/
  flushed : List (List UInt8)

namespace OutputBuffer

/-- The constructor. -/
def new (capacity : ℕ) : OutputBuffer :=
  ⟨capacity, [], []⟩

/-- `flush` -/
def flush (b : OutputBuffer) : OutputBuffer :=
  { b with written := [], flushed := b.flushed ++ [b.written] }

/-- `operator<<(std::string_view)`; `none` for what does not fit. -/
def write (b : OutputBuffer) (s : List UInt8) : Option OutputBuffer :=
  let b := if b.capacity ≤ b.written.length + s.length then b.flush else b
  if b.written.length + s.length < b.capacity then some { b with written := b.written ++ s }
  else none

/-- `operator<<(char)`, which never flushes; `none` for a character behind the buffer. -/
def put (b : OutputBuffer) (v : UInt8) : Option OutputBuffer :=
  if b.written.length < b.capacity then some { b with written := b.written ++ [v] } else none

/-! ### Numbers -/

/-- The loop of `operator<<(std::size_t)`. -/
structure SizeLoop where
  v : ℕ
  /-- The digits so far, those of `buffer[9 - i]` and behind it. -/
  digits : List UInt8
  /-- How many characters lie behind `str_start`. -/
  taken : ℕ

/-- A digit. -/
def digit (d : ℕ) : UInt8 :=
  (Nat.digitChar d).toUInt8

/-- One round. -/
def SizeLoop.round (s : SizeLoop) : SizeLoop where
  v := s.v / 10
  digits := digit (s.v % 10) :: s.digits
  taken := if 0 < s.v then s.digits.length + 1 else s.taken

/-- Some rounds. -/
def SizeLoop.rounds : ℕ → SizeLoop → SizeLoop
  | 0, s => s
  | n + 1, s => rounds n s.round

/-- The text that is written: the last ten digits, without the zeros before them unless the number
is zero. -/
def sizeText (v : ℕ) : List UInt8 :=
  -- `str_start` begins at the begin of the buffer
  let s := SizeLoop.rounds 10 ⟨v, [], 10⟩
  s.digits.drop (10 - s.taken)

/-- `operator<<(std::size_t)`; of zero, a digit more is written. -/
def writeSize (b : OutputBuffer) (v : ℕ) : Option OutputBuffer := do
  let b ← if v = 0 then b.put (digit 0) else some b
  b.write (sizeText v)

end OutputBuffer

/-! ### Responses -/

/-- The bytes of a text. -/
def bytes (text : String) : List UInt8 :=
  text.toUTF8.toList

/-- What `respond` reads of the context, in bytes. -/
structure ResponseParts where
  status_code_ : ℕ
  status_ : List UInt8
  /-- `top_header()` and `top_header_200()`. -/
  top_header : List UInt8
  top_header_200 : List UInt8
  /-- What `headers_stream` holds. -/
  headers : List UInt8
  body : List UInt8

namespace ResponseParts

/-- What is written before the length of the body. -/
def head (r : ResponseParts) : List (List UInt8) :=
  -- `format_top_headers`
  (if r.status_code_ = 200 then [r.top_header_200]
    else [bytes "HTTP/1.1 ", r.status_, r.top_header]) ++ [r.headers, bytes "Content-Length: "]

/-- `respond` -/
def respond (r : ResponseParts) (b : OutputBuffer) : Option OutputBuffer := do
  let b ← r.head.foldlM OutputBuffer.write b
  let b ← b.writeSize r.body.length
  let b ← b.write (bytes "\r\n\r\n")
  b.write r.body

/-- The bytes of a response. -/
def text (r : ResponseParts) : List UInt8 :=
  r.head.flatten ++ (if r.body.length = 0 then [OutputBuffer.digit 0] else []) ++
    OutputBuffer.sizeText r.body.length ++ bytes "\r\n\r\n" ++ r.body

end ResponseParts

/-- What a connection does with its output: responses, and flushes whenever no request is left in
the read buffer. -/
inductive OutputAction
  | respond (r : ResponseParts)
  | flushResponses

namespace OutputAction

/-- One action. -/
def apply (b : OutputBuffer) : OutputAction → Option OutputBuffer
  | respond r => r.respond b
  | flushResponses => some b.flush

/-- The bytes of an action. -/
def text : OutputAction → List UInt8
  | respond r => r.text
  | flushResponses => []

end OutputAction

end GdtCache.Lithium
