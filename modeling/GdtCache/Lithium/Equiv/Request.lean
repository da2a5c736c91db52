import GdtCache.Lithium.Equiv.RoutingTable
import GdtCache.Lithium.Request

/-!
# What is read of a request

`split` finds a part that is not empty and has its separator behind it on the line (`split_of`).
So the first line and the header fields of a request are read as they were written
(`parseFirstLine_write`, `lookup_indexHeaders`), with two exceptions, where the source looks behind
the text it is given: the url `/`, and a header field without a value.

A parameter of a url is one of the parts between its slashes (`parseUrlParameter_eq`).
-/

namespace GdtCache.Lithium

open GdtCache.Lib

/-! ### Splitting -/

theorem splitEnd_append {splitChar : Char} {text : List Char} (h : splitChar ∉ text)
    (rest : List Char) {size : ℕ} (hsize : text.length < size) :
    splitEnd splitChar (text ++ splitChar :: rest) size = text.length := by
  induction text generalizing size with
  | nil =>
    rcases size with _ | _ | size
    · rfl
    · rfl
    · exact if_pos rfl
  | cons c text ih =>
    rw [List.length_cons] at hsize
    obtain ⟨size, rfl⟩ := Nat.exists_eq_add_of_le' (show 2 ≤ size by omega)
    have hc : c ≠ splitChar := fun hc => h (by simp [hc])
    rw [List.cons_append, splitEnd, if_neg hc, ih (fun hmem => h (by simp [hmem])) (by omega),
      List.length_cons]

theorem splitStart_of_ne {splitChar c : Char} (h : c ≠ splitChar) (data : List Char) (size : ℕ) :
    splitStart splitChar (c :: data) size = ⟨c :: data, size⟩ := by
  rcases size with _ | _ | size
  · rfl
  · rfl
  · exact if_neg h

/-- A part that is not empty and whose separator is on the line. -/
theorem split_of {splitChar : Char} {text : List Char} (hne : text ≠ []) (h : splitChar ∉ text)
    (rest : List Char) {size : ℕ} (hsize : text.length < size) :
    split ⟨text ++ splitChar :: rest, size⟩ splitChar =
      (⟨text ++ splitChar :: rest, text.length⟩, ⟨rest, size - (text.length + 1)⟩) := by
  obtain ⟨c, text, rfl⟩ := List.exists_cons_of_ne_nil hne
  have hc : c ≠ splitChar := fun hc => h (by simp [hc])
  have htext : splitChar ∉ text := fun hmem => h (by simp [hmem])
  rw [List.length_cons] at hsize
  rw [split, List.cons_append, splitStart_of_ne hc]
  dsimp only
  rw [List.tail_cons, splitEnd_append htext rest (by omega), List.length_cons]
  simp

theorem toString_append (text rest : List Char) :
    StringView.toString ⟨text ++ rest, text.length⟩ = String.ofList text := by
  simp [StringView.toString, StringView.chars]

/-! ### The first line -/

/-- The first line of a request. -/
def writeFirstLine (method url version : List Char) : List Char :=
  method ++ ' ' :: (url ++ ' ' :: (version ++ ['\r', '\n']))

theorem splitEnd_of_notMem {splitChar : Char} {text : List Char} (h : splitChar ∉ text)
    (rest : List Char) : splitEnd splitChar (text ++ rest) text.length = text.length - 1 := by
  induction text with
  | nil => cases rest <;> rfl
  | cons c text ih =>
    have hc : c ≠ splitChar := fun hc => h (by simp [hc])
    cases text with
    | nil => rfl
    | cons d text =>
      rw [List.cons_append, List.length_cons, List.length_cons, splitEnd, if_neg hc]
      rw [List.length_cons] at ih
      rw [ih fun hmem => h (List.mem_cons_of_mem c hmem)]
      rfl

/-- A url without a question mark is one part, unless it is a single character: then the blank
behind it is taken with it. -/
theorem split_url {url : List Char} (hne : url ≠ []) (h : '?' ∉ url) (rest : List Char) :
    (split ⟨url ++ ' ' :: rest, url.length⟩ '?').1.toString =
      String.ofList (if url.length = 1 then url ++ [' '] else url) := by
  obtain ⟨c, url, rfl⟩ := List.exists_cons_of_ne_nil hne
  have hc : c ≠ '?' := fun hc => h (by simp [hc])
  have hurl : '?' ∉ url := fun hmem => h (by simp [hmem])
  rw [split, List.cons_append, splitStart_of_ne hc]
  dsimp only
  rw [List.tail_cons, List.length_cons, Nat.add_sub_cancel, splitEnd_of_notMem hurl]
  rcases url.eq_nil_or_concat with rfl | ⟨init, d, rfl⟩
  · simp [StringView.toString, StringView.chars]
  · have hd : d ≠ '?' := fun hd => hurl (by simp [hd])
    have hget : (c :: (init ++ [d] ++ ' ' :: rest))[init.length + 1]? = some d := by simp
    rw [List.concat_eq_append, List.length_append, List.length_singleton, Nat.add_sub_cancel, hget,
      if_neg (by simpa using hd), if_neg (by omega)]
    have htake : (c :: (init ++ [d] ++ ' ' :: rest)).take (init.length + 1 + 1) =
        c :: (init ++ [d]) := by
      rw [List.take_succ_cons, List.append_assoc, List.take_append]
      simp
    exact congrArg String.ofList htake

/-- **The first line is read as it was written**: the method, and the url up to its question
mark.  A url of one character is read together with the blank behind it. -/
theorem parseFirstLine_write {method path query version : List Char} (hmethod : method ≠ [])
    (hmethod' : ' ' ∉ method) (hpath : path ≠ []) (hpath' : ' ' ∉ path) (hpath'' : '?' ∉ path)
    (hquery : query = [] ∨ query.head? = some '?') (hquery' : ' ' ∉ query) (hversion : version ≠ [])
    (hversion' : '\r' ∉ version) (headerLines : List (List Char)) (behind : List Char) :
    (Head.mk (writeFirstLine method (path ++ query) version) headerLines behind).parseFirstLine =
      ⟨String.ofList method,
        String.ofList (if query = [] ∧ path.length = 1 then path ++ [' '] else path),
        String.ofList version⟩ := by
  have hurl : path ++ query ≠ [] := List.append_ne_nil_of_left_ne_nil hpath query
  have hurl' : ' ' ∉ path ++ query := by simp [hpath', hquery']
  -- what lies behind the three separators
  obtain ⟨rest, hrest⟩ : ∃ rest, rest = '\n' :: (headerLines.flatten ++ behind) := ⟨_, rfl⟩
  have hline : writeFirstLine method (path ++ query) version ++ headerLines.flatten ++ behind =
      method ++ ' ' :: (path ++ query ++ ' ' :: (version ++ '\r' :: rest)) := by
    simp [writeFirstLine, hrest]
  have hlength : (writeFirstLine method (path ++ query) version).length =
      method.length + (path ++ query).length + version.length + 4 := by
    simp [writeFirstLine]
    omega
  rw [Head.parseFirstLine]
  dsimp only
  rw [hline, hlength, split_of hmethod hmethod' _ (by omega)]
  dsimp only
  rw [split_of hurl hurl' _ (by omega)]
  dsimp only
  rw [split_of hversion hversion' _ (by omega), toString_append, toString_append]
  refine congrArg (fun url_ => Head.FirstLine.mk _ url_ _) ?_
  rcases hquery with rfl | hquery
  · rw [List.append_nil, split_url hpath hpath'']
    simp
  · obtain ⟨query, rfl⟩ := List.head?_eq_some_iff.mp hquery
    rw [List.append_assoc, List.cons_append, split_of hpath hpath'' _ (by simp), toString_append,
      if_neg (by simp)]

theorem parseFirstLine_write_query :
    (Head.mk (writeFirstLine "GET".toList ("/status".toList ++ "?page=1".toList)
        "HTTP/1.1".toList) [] ['\r', '\n']).parseFirstLine = ⟨"GET", "/status", "HTTP/1.1"⟩ :=
  parseFirstLine_write (by decide) (by decide) (by decide) (by decide) (by decide) (.inr rfl)
    (by decide) (by decide) (by decide) [] ['\r', '\n']

/-! ### Header fields -/

/-- A header field as it is sent: with some blanks behind the colon. -/
structure Field where
  key : List Char
  value : List Char
  blanks : ℕ

namespace Field

/-- The line of a field. -/
def line (f : Field) : List Char :=
  f.key ++ ':' :: (List.replicate f.blanks ' ' ++ f.value ++ ['\r', '\n'])

/-- A field that can be told apart from its line; something stands behind the colon. -/
structure WellFormed (f : Field) : Prop where
  key_ne : f.key ≠ []
  colon_notMem : ':' ∉ f.key
  cr_notMem : '\r' ∉ f.value
  value_head : f.value.head? ≠ some ' '
  behind_ne : f.blanks ≠ 0 ∨ f.value ≠ []

/-- Key and value of a field. -/
def pair (f : Field) : String × String :=
  (String.ofList f.key, String.ofList f.value)

end Field

theorem skipSpaces_blanks (n : ℕ) {value : List Char} (h : value.head? ≠ some ' ')
    (rest : List Char) :
    Head.skipSpaces (List.replicate n ' ' ++ (value ++ '\r' :: rest)) (n + value.length) =
      some ⟨value ++ '\r' :: rest, value.length⟩ := by
  induction n with
  | zero =>
    rw [List.replicate_zero, List.nil_append, Nat.zero_add]
    cases value with
    | nil => simp [Head.skipSpaces]
    | cons c value =>
      have hc : c ≠ ' ' := by simpa using h
      simp [Head.skipSpaces, hc]
  | succ n ih =>
    rw [List.replicate_succ, List.cons_append, Nat.succ_add]
    exact ih

theorem headerField_line {f : Field} (h : f.WellFormed) (rest : List Char) :
    Head.headerField ⟨f.line ++ rest, f.line.length⟩ = some f.pair := by
  have hvalue : List.replicate f.blanks ' ' ++ f.value ≠ [] := by
    rcases h.behind_ne with hblanks | hvalue
    · exact List.append_ne_nil_of_left_ne_nil (by simpa using hblanks) _
    · exact List.append_ne_nil_of_right_ne_nil _ hvalue
  have hcr : '\r' ∉ List.replicate f.blanks ' ' ++ f.value := by
    simp [List.mem_append, List.mem_replicate, h.cr_notMem]
  have hline : f.line ++ rest =
      f.key ++ ':' :: (List.replicate f.blanks ' ' ++ f.value ++ '\r' :: '\n' :: rest) := by
    simp [Field.line]
  have hlength : f.line.length = f.key.length + f.blanks + f.value.length + 3 := by
    simp [Field.line]
    omega
  rw [Head.headerField, hline, hlength, split_of h.key_ne h.colon_notMem _ (by omega)]
  dsimp only
  rw [split_of hvalue hcr _ (by rw [List.length_append, List.length_replicate]; omega)]
  dsimp only
  rw [List.append_assoc, List.length_append, List.length_replicate,
    skipSpaces_blanks f.blanks h.value_head, Option.map_some, toString_append, toString_append]
  rfl

theorem indexLines_map {fields : List Field} (h : ∀ f ∈ fields, f.WellFormed)
    (behind : List Char) (m : UnorderedMap String String) :
    Head.indexLines behind m (fields.map Field.line) =
      some (m.assignAll (fields.map Field.pair)) := by
  induction fields generalizing m with
  | nil => rfl
  | cons f fields ih =>
    rw [List.map_cons, Head.indexLines, List.append_assoc,
      headerField_line (h f List.mem_cons_self)]
    exact ih (fun g hg => h g (List.mem_cons_of_mem f hg)) _

/-- **Header fields are found by their keys**, the last one of a key. -/
theorem lookup_indexHeaders {fields : List Field} (h : ∀ f ∈ fields, f.WellFormed)
    (firstLine behind : List Char) (key : String) :
    (Head.indexHeaders ⟨firstLine, fields.map Field.line, behind⟩).map (·.lookup key) =
      some (((fields.map Field.pair).reverse.find? fun field => field.1 = key).map Prod.snd) := by
  rw [Head.indexHeaders, indexLines_map h, Option.map_some, UnorderedMap.lookup_assignAll,
    Finmap.lookup_empty, Option.or_none]

/-- The fields of a request that came through two proxies. -/
def proxyFields : List Field :=
  [⟨"Host".toList, "localhost".toList, 1⟩, ⟨"X-Forwarded-For".toList, "192.0.2.7".toList, 1⟩,
    ⟨"X-Forwarded-For".toList, "192.0.2.8".toList, 0⟩]

theorem lookup_indexHeaders_proxy :
    (Head.indexHeaders ⟨[], proxyFields.map Field.line, ['\r', '\n']⟩).map
      (·.lookup "X-Forwarded-For") = some (some "192.0.2.8") := by
  have hfields : ∀ f ∈ proxyFields, f.WellFormed := by
    intro f hf
    simp only [proxyFields, List.mem_cons, List.not_mem_nil, or_false] at hf
    rcases hf with rfl | rfl | rfl
    · exact ⟨by decide, by decide, by decide, by decide, by decide⟩
    · exact ⟨by decide, by decide, by decide, by decide, by decide⟩
    · exact ⟨by decide, by decide, by decide, by decide, by decide⟩
  rw [lookup_indexHeaders hfields [] ['\r', '\n'] "X-Forwarded-For"]
  decide

/-- Of a field without a value, and without a blank for it, the value is the end of its line,
together with the first character of the next line if that is not the end of the head. -/
theorem headerField_empty {key : List Char} (hkey : key ≠ []) (hkey' : ':' ∉ key) {c : Char}
    (rest : List Char) :
    Head.headerField ⟨key ++ ':' :: '\r' :: '\n' :: c :: rest, key.length + 3⟩ =
      some (String.ofList key, if c = '\r' then "\n" else String.ofList ['\n', c]) := by
  rw [Head.headerField, split_of hkey hkey' _ (by omega)]
  dsimp only
  rw [show key.length + 3 - (key.length + 1) = 2 by omega, toString_append, split]
  by_cases hc : c = '\r'
  · subst hc
    simp [splitStart, splitEnd, Head.skipSpaces, StringView.toString, StringView.chars]
  · simp [splitStart, splitEnd, Head.skipSpaces, StringView.toString, StringView.chars, hc]

/-! ### Parameters of a url -/

theorem slashes_cons (c : Char) (url : List Char) :
    slashes (c :: url) = (if c = '/' then [0] else []) ++ (slashes url).map (· + 1) := by
  rw [slashes, List.length_cons, List.range_succ_eq_map, List.filter_cons, List.filter_map, slashes]
  by_cases hc : c = '/' <;> simp [hc, Function.comp_def]

/-- The text behind a slash is the part with the next index. -/
theorem slashes_getElem? (url : List Char) (i : ℕ) :
    ((slashes url)[i]?.map fun slash => (url.drop (slash + 1)).takeWhile (· ≠ '/')) =
      (url.splitOn '/')[i + 1]? := by
  induction url generalizing i with
  | nil => simp [slashes]
  | cons c url ih =>
    rw [slashes_cons, List.splitOn_cons_eq_if_modifyHead]
    by_cases hc : c = '/'
    · subst hc
      rw [if_pos rfl, if_pos (beq_self_eq_true '/')]
      cases i with
      | zero =>
        rw [splitOn_slash url]
        rfl
      | succ i => simpa [Function.comp_def] using ih i
    · rw [if_neg hc, if_neg (by simpa using hc), List.nil_append, List.getElem?_map, Option.map_map]
      rw [List.getElem?_modifyHead, if_neg (Nat.succ_ne_zero i)]
      exact ih i

/-- A parameter is the part of the url behind its slash. -/
theorem parseUrlParameter_eq {fmt : List (List Char × UrlParserInfoNode)} {url symbol : String}
    (pos : ℕ) {part : List Char}
    (hfmt : (fmt.find? fun entry => entry.1 = symbol.toList) = some (symbol.toList, ⟨pos, false⟩))
    (hpart : (url.toList.splitOn '/')[pos + 1]? = some part) :
    parseUrlParameter fmt url symbol = .ok (String.ofList part, false) := by
  rw [← slashes_getElem?] at hpart
  obtain ⟨slash, hslash, rfl⟩ := Option.map_eq_some_iff.mp hpart
  rw [parseUrlParameter, hfmt]
  dsimp only
  rw [Int.toNat_natCast, hslash]
  rfl

theorem urlString_eq {fmt : List (List Char × UrlParserInfoNode)} {url symbol text : String}
    (pos : ℕ)
    (hfmt : (fmt.find? fun entry => entry.1 = symbol.toList) = some (symbol.toList, ⟨pos, false⟩))
    (hpart : (url.toList.splitOn '/')[pos + 1]? = some text.toList) :
    urlString fmt url symbol = .ok text := by
  rw [urlString, parseUrlParameter_eq pos hfmt hpart, String.ofList_toList]
  rfl

theorem urlInt_eq (cast : LexicalCast) {fmt : List (List Char × UrlParserInfoNode)}
    {url symbol : String} {n : Int32} (pos : ℕ)
    (hfmt : (fmt.find? fun entry => entry.1 = symbol.toList) = some (symbol.toList, ⟨pos, false⟩))
    (hpart : (url.toList.splitOn '/')[pos + 1]? = some (toString n.toInt).toList) :
    urlInt cast fmt url symbol = .ok n := by
  rw [urlInt, parseUrlParameter_eq pos hfmt hpart, String.ofList_toList]
  dsimp only
  rw [cast.toInt_toString]

end GdtCache.Lithium
