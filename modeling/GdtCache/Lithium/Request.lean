import GdtCache.Lib.UnorderedMap
import GdtCache.Utils.Exception
import Mathlib.Data.Int.Notation

/-!
# Reading a request

What `generic_http_ctx` reads of the head of a request, and the parameters `http_request` takes from
its url.

The source works with pointers into the read buffer, and some of its loops look behind the text they
are given.  So a `string_view` comes with everything that lies behind its end.
-/

namespace GdtCache.Lithium

open GdtCache.Lib

/-! ### Views -/

/-- `std::string_view` -/
structure StringView where
  /-- What lies at `data()` and behind it. -/
  data : List Char
  size : ℕ

namespace StringView

/-- The characters of a view. -/
def chars (v : StringView) : List Char :=
  v.data.take v.size

/-- `std::string(v)` -/
def toString (v : StringView) : String :=
  String.ofList v.chars

end StringView

/-! ### Splitting -/

/-- `start` of `split` after its loop, up to the end of the line. -/
def splitStart (splitChar : Char) : List Char → ℕ → StringView
  | c :: data, size + 2 =>
    if c = splitChar then splitStart splitChar data (size + 1) else ⟨c :: data, size + 2⟩
  | data, size => ⟨data, size⟩

/-- How far the second loop of `split` goes. -/
def splitEnd (splitChar : Char) : List Char → ℕ → ℕ
  | c :: data, size + 2 => if c = splitChar then 0 else splitEnd splitChar data (size + 1) + 1
  | _, _ => 0

/-- `split` for a line that is left from `cur` to `line_end`: the part, and the line left behind
it.  The character the second loop stops at belongs to the part unless it is the separator, and it
may lie behind the line. -/
def split (line : StringView) (splitChar : Char) : StringView × StringView :=
  let start := splitStart splitChar line.data line.size
  let n := splitEnd splitChar start.data.tail (start.size - 1) + 1
  (⟨start.data, if start.data[n]? = some splitChar then n else n + 1⟩,
    ⟨start.data.drop (n + 1), start.size - (n + 1)⟩)

/-! ### The head -/

/-- The head of a request: its lines with their ends, and what lies behind the last of them, from
the empty line on. -/
structure Head where
  firstLine : List Char
  headerLines : List (List Char)
  behind : List Char

namespace Head

/-- What `parse_first_line` finds. -/
structure FirstLine where
  method_ : String
  url_ : String
  http_version_ : String

/-- `parse_first_line`, without the parameters behind a question mark: nobody asks for them. -/
def parseFirstLine (head : Head) : FirstLine :=
  let line := ⟨head.firstLine ++ head.headerLines.flatten ++ head.behind, head.firstLine.length⟩
  let (method_, line) := split line ' '
  let (url_, line) := split line ' '
  let (http_version_, _) := split line '\r'
  ⟨method_.toString, (split url_ '?').1.toString, http_version_.toString⟩

/-- `while (value[0] == ' ')`; behind the end of the value, the size wraps around. -/
def skipSpaces : List Char → ℕ → Option StringView
  | ' ' :: data, size + 1 => skipSpaces data size
  | ' ' :: _, 0 => none
  | data, size => some ⟨data, size⟩

/-- Key and value of a header line. -/
def headerField (line : StringView) : Option (String × String) :=
  let (key, line) := split line ':'
  let (value, _) := split line '\r'
  (skipSpaces value.data value.size).map fun value => (key.toString, value.toString)

/-- The header lines from some line on. -/
def indexLines (behind : List Char) (header_map : UnorderedMap String String) :
    List (List Char) → Option (UnorderedMap String String)
  | [] => some header_map
  | line :: lines => do
    let (key, value) ← headerField ⟨line ++ lines.flatten ++ behind, line.length⟩
    indexLines behind (header_map.assign key value) lines

/-- `index_headers`; `none` if it reads past a value. -/
def indexHeaders (head : Head) : Option (UnorderedMap String String) :=
  indexLines head.behind ∅ head.headerLines

end Head

/-! ### The parameters in a url -/

/-- What a handler may throw. -/
inductive Thrown
  | httpError (e : HttpError)
  /-- `std::runtime_error` -/
  | runtimeError (what : String)
  deriving DecidableEq

/-- `url_parser_info_node`; the position is negative if no slash stands before the parameter, and
`parse_url_parameters` would then read outside of the positions it has. -/
structure UrlParserInfoNode where
  slash_pos : ℤ
  is_path : Bool
  deriving DecidableEq

/-- The name of a parameter, up to the two closing braces; `none` if there are none, where the
source reads on. -/
def paramName : List Char → Option (List Char)
  | '}' :: '}' :: _ => some []
  | c :: s => (paramName s).map (c :: ·)
  | [] => none

/-- The entry for a parameter; no entry if the name is empty. -/
def paramInfo (slash_pos : ℤ) (name : List Char) : List (List Char × UrlParserInfoNode) :=
  if name = [] then []
  else if 3 < name.length ∧ name.drop (name.length - 3) = ['.', '.', '.'] then
    [(name.take (name.length - 3), ⟨slash_pos, true⟩)]
  else [(name, ⟨slash_pos, false⟩)]

/-- The loop of `make_url_parser_info`.  The first entry for a name is the one that counts. -/
def urlParserInfoFrom : ℤ → List Char → Option (List (List Char × UrlParserInfoNode))
  | _, [] => some []
  | slash_pos, c :: url => do
    let slash_pos := if c = '/' then slash_pos + 1 else slash_pos
    let info ←
      if c = '{' ∧ url.head? = some '{' then (paramName url.tail).map (paramInfo slash_pos)
      else some []
    let infos ← urlParserInfoFrom slash_pos url
    return info ++ infos

/-- `make_url_parser_info` -/
def makeUrlParserInfo (url : String) : Option (List (List Char × UrlParserInfoNode)) :=
  urlParserInfoFrom (-1) url.toList

/-- The positions of the slashes. -/
def slashes (url : List Char) : List ℕ :=
  (List.range url.length).filter fun i => url[i]? = some '/'

/-- The text of a parameter in `parse_url_parameters`: from the slash before it, or up to the next
slash. -/
def parseUrlParameter (fmt : List (List Char × UrlParserInfoNode)) (url symbol : String) :
    Except Thrown (String × Bool) :=
  match fmt.find? fun entry => entry.1 = symbol.toList with
  | none => .error (.runtimeError ("Parameter " ++ symbol ++ " not found in url " ++ url))
  | some (_, info) =>
    match (slashes url.toList)[info.slash_pos.toNat]? with
    | none => .error (.httpError (.badRequest ("Missing url parameter " ++ symbol)))
    | some slash =>
      if info.is_path then .ok (String.ofList (url.toList.drop slash), true)
      else .ok (String.ofList ((url.toList.drop (slash + 1)).takeWhile (· ≠ '/')), false)

/-- A parameter of type `std::string`. -/
def urlString (fmt : List (List Char × UrlParserInfoNode)) (url symbol : String) :
    Except Thrown String :=
  (parseUrlParameter fmt url symbol).map (·.1)

/-- `boost::lexical_cast<int>` -/
structure LexicalCast where
  toInt : String → Option Int32
  /-- The text of `boost::bad_lexical_cast`. -/
  what : String
  /-- What is printed is read back. -/
  toInt_toString : ∀ n : Int32, toInt (toString n.toInt) = some n

/-- A parameter of type `int`. -/
def urlInt (cast : LexicalCast) (fmt : List (List Char × UrlParserInfoNode)) (url symbol : String) :
    Except Thrown Int32 :=
  match parseUrlParameter fmt url symbol with
  | .error e => .error e
  | .ok (_, true) =>
    .error (.runtimeError
      "\x7b\x7bpath...\x7d\x7d parameters only accept std::string or std::string_view types.")
  | .ok (content, false) =>
    match cast.toInt content with
    | some n => .ok n
    | none =>
      .error (.httpError (.badRequest
        ("Cannot decode url parameter " ++ symbol ++ " : " ++ cast.what)))

end GdtCache.Lithium
