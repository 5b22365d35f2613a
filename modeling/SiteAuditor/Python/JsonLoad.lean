/-
# SiteAuditor.Python.JsonLoad — `json.loads`, the reader of the reports

The reports are meant to be read back with `json.load(f)`, which is `json.loads` of the
file's text. This module follows CPython's decoder as written in Python (`json.decoder`
and `json.scanner`: `py_scanstring`, `JSONObject`, `JSONArray`, `py_make_scanner`) over
the document's characters: each function takes the characters from its index on and
returns those after what it read, fewer than it was given (`Scanned`), which is also why
the mutual recursion ends. CPython runs the same decoder in C by default; that one reports
a control character and a bad escape inside a string with other texts and positions.

A `JSONDecodeError(msg, doc, pos)` is kept as its message and the characters from `pos`
on, and `loads` turns it into the message CPython formats, with the line and column. The
scanner's `StopIteration(idx)`, which each caller turns into `"Expecting value"` at `idx`,
is that error at once. An object's pairs become a `dict` (`dictOf`): a repeated key keeps
its first place and takes its last value.

A number's `integer` group is read with `int()` (`pyInt`), so an integer of more than 4300
digits raises the `ValueError` of CPython's limit.

A `\u` escape of a lone surrogate is where the model stops short of CPython: CPython puts
the surrogate in the `str` and reads on, but a `String` cannot hold it, so the decoder
ends with `loneSurrogate` there (`reachesLoneSurrogate`). `audit_page` would keep such a
`str` in its `structured_data`, and `json.dump` cannot write it to the UTF-8 report, so the
report of a page whose script reaches one raises (`Report`).

Not modelled: `\d` in `NUMBER_RE` matches only ASCII digits here, as in CPython's scanner
written in C (the one written in Python matches every Unicode decimal digit);
`int(esc, 16)` in `_decode_uXXXX` reads four hex digits (Python's `int` also takes
surrounding spaces, a sign and underscores there); `{0!r}` of a character beyond ASCII is
the character in quotes.
-/
import SiteAuditor.Python.JsonDump
import SiteAuditor.Python.Grouping

namespace SiteAuditor

namespace Py

set_option autoImplicit false

/-- What `json.loads` raises: a `JSONDecodeError(msg, doc, pos)`, with the document's
characters from `pos` on; the exception `int()` or `float()` raised on a number's text.
`loneSurrogate` is no exception of CPython's: the decoder reached a `\u` escape of a lone
surrogate, which CPython keeps in the `str` and the model cannot hold. -/
inductive LoadError
  | decode (msg : String) (rest : List Char)
  | raised (e : Exn)
  | loneSurrogate (rest : List Char)
deriving DecidableEq, Repr

/-- The characters of `WHITESPACE_STR`. -/
def isJsonSpace (c : Char) : Bool :=
  c = ' ' || c = '\t' || c = '\n' || c = '\r'

/-- `WHITESPACE.match(s, end).end()`, on the characters from `end`. -/
def skipWs (s : List Char) : List Char :=
  s.dropWhile isJsonSpace

theorem skipWs_length_le (s : List Char) : (skipWs s).length ≤ s.length :=
  (List.dropWhile_suffix _).length_le

/-! ## Strings -/

/-- The value of a hex digit. -/
def hexValue (c : Char) : Option Nat :=
  if '0' ≤ c ∧ c ≤ '9' then some (c.toNat - '0'.toNat)
  else if 'a' ≤ c ∧ c ≤ 'f' then some (c.toNat - 'a'.toNat + 10)
  else if 'A' ≤ c ∧ c ≤ 'F' then some (c.toNat - 'A'.toNat + 10)
  else none

/-- `int(esc, 16)` on the four characters of a `\u` escape. -/
def hex4 (a b c d : Char) : Option Nat := do
  return (((← hexValue a) * 16 + (← hexValue b)) * 16 + (← hexValue c)) * 16 + (← hexValue d)

/-- `BACKSLASH[esc]`. -/
def backslash (esc : Char) : Option Char :=
  if esc = '"' then some '"'
  else if esc = '\\' then some '\\'
  else if esc = '/' then some '/'
  else if esc = 'b' then some '\x08'
  else if esc = 'f' then some '\x0c'
  else if esc = 'n' then some '\n'
  else if esc = 'r' then some '\r'
  else if esc = 't' then some '\t'
  else none

/-- `repr` of a one-character `str`, as `{0!r}` writes it. -/
def reprChar (c : Char) : String :=
  reprStr (String.singleton c)

/-- `chr(n)` in a decoded string; a lone surrogate has no `Char`. -/
def charOf (n : Nat) (rest : List Char) : Except LoadError Char :=
  if n < 0xd800 ∨ (0xdfff < n ∧ n < 0x110000) then .ok (Char.ofNat n) else .error (.loneSurrogate rest)

/-- `uni = _decode_uXXXX(s, end)` has been read: a high surrogate followed by the `\uXXXX`
of a low one is joined with it; otherwise `chr(uni)`. -/
def joinSurrogate (uni : Nat) (rest : List Char) : Except LoadError (Char × List Char) :=
  if 0xd800 ≤ uni ∧ uni ≤ 0xdbff then
    match rest with
    | '\\' :: 'u' :: a :: b :: c :: d :: rest' =>
      match hex4 a b c d with
      | none => .error (.decode "Invalid \\uXXXX escape" ('u' :: a :: b :: c :: d :: rest'))
      | some uni2 =>
        if 0xdc00 ≤ uni2 ∧ uni2 ≤ 0xdfff then
          .ok (Char.ofNat (0x10000 + (uni - 0xd800) * 1024 + (uni2 - 0xdc00)), rest')
        else (charOf uni rest).map (·, rest)
    | '\\' :: 'u' :: rest' => .error (.decode "Invalid \\uXXXX escape" ('u' :: rest'))
    | _ => (charOf uni rest).map (·, rest)
  else (charOf uni rest).map (·, rest)

/-- The escape after a backslash in `py_scanstring`: the character it stands for, and what
follows it. `quote` is the document from the string's opening quote. -/
def readEscape (quote : List Char) : List Char → Except LoadError (Char × List Char)
  | [] => .error (.decode "Unterminated string starting at" quote)
  | 'u' :: a :: b :: c :: d :: rest =>
    match hex4 a b c d with
    | none => .error (.decode "Invalid \\uXXXX escape" ('u' :: a :: b :: c :: d :: rest))
    | some uni => joinSurrogate uni rest
  | 'u' :: rest => .error (.decode "Invalid \\uXXXX escape" ('u' :: rest))
  | esc :: rest =>
    match backslash esc with
    | some ch => .ok (ch, rest)
    | none => .error (.decode ("Invalid \\escape: " ++ reprChar esc) (esc :: rest))

theorem map_pair_snd {ε α β : Type} {x : Except ε α} {r r' : β} {a : α} (h : x.map (·, r) = .ok (a, r')) :
    r' = r := by
  cases x with
  | error e => cases h
  | ok v => cases h; rfl

theorem joinSurrogate_length {uni : Nat} {rest rest' : List Char} {ch : Char}
    (h : joinSurrogate uni rest = .ok (ch, rest')) : rest'.length ≤ rest.length := by
  unfold joinSurrogate at h
  split at h
  · split at h
    · split at h
      · cases h
      · split at h
        · simp only [Except.ok.injEq, Prod.mk.injEq] at h
          rw [← h.2]
          simp only [List.length_cons]
          omega
        · rw [map_pair_snd h]
    · cases h
    · rw [map_pair_snd h]
  · rw [map_pair_snd h]

theorem readEscape_length {quote s rest : List Char} {ch : Char}
    (h : readEscape quote s = .ok (ch, rest)) : rest.length < s.length := by
  unfold readEscape at h
  split at h
  · cases h
  · split at h
    · cases h
    · have := joinSurrogate_length h; simp; omega
  · cases h
  · split at h
    · cases h; simp
    · cases h

/-- `py_scanstring(s, end)`, from `end`: one character at a time, up to the closing quote.
`quote` is the document from the opening quote (`begin`), `acc` the characters decoded so
far. -/
def scanString (quote : List Char) (acc : List Char) : List Char → Except LoadError (String × List Char)
  | [] => .error (.decode "Unterminated string starting at" quote)
  | c :: rest =>
    if c = '"' then .ok (⟨acc⟩, rest)
    else if c = '\\' then
      match h : readEscape quote rest with
      | .ok (ch, rest') =>
        have : rest'.length < rest.length + 1 := Nat.lt_succ_of_lt (readEscape_length h)
        scanString quote (acc ++ [ch]) rest'
      | .error e => .error e
    else if c.toNat < 0x20 then .error (.decode ("Invalid control character " ++ reprChar c ++ " at") rest)
    else scanString quote (acc ++ [c]) rest
termination_by s => s.length

/-- The closing quote is read: what is left is shorter. -/
theorem scanString_length {quote acc s rest : List Char} {str : String}
    (h : scanString quote acc s = .ok (str, rest)) : rest.length < s.length := by
  induction acc, s using scanString.induct quote generalizing rest str with
  | case1 => rw [scanString] at h; cases h
  | case2 => rw [scanString, if_pos rfl] at h; cases h; simp
  | case3 acc rest ch rest' hesc _ hq ih =>
    rw [scanString, if_neg hq, if_pos rfl] at h
    split at h
    · rename_i heq
      rw [hesc] at heq
      cases heq
      have := ih h
      simp only [List.length_cons]
      omega
    · cases h
  | case4 acc rest e hesc hq =>
    rw [scanString, if_neg hq, if_pos rfl] at h
    split at h
    · rename_i heq; rw [hesc] at heq; cases heq
    · cases h
  | case5 acc c rest h1 h2 h3 => rw [scanString, if_neg h1, if_neg h2, if_pos h3] at h; cases h
  | case6 acc c rest h1 h2 h3 ih =>
    rw [scanString, if_neg h1, if_neg h2, if_neg h3] at h
    have := ih h
    simp only [List.length_cons]
    omega

/-! ## Numbers and constants -/

/-- `\d+` and what follows it, when it matches. -/
def digitRun : List Char → Option (List Char × List Char)
  | d :: r => if d.isDigit then some (d :: r.takeWhile Char.isDigit, r.dropWhile Char.isDigit) else none
  | [] => none

/-- `(\.\d+)?`: the fraction, or nothing, and what follows. -/
def matchFrac : List Char → List Char × List Char
  | '.' :: r =>
    match digitRun r with
    | some (ds, r') => ('.' :: ds, r')
    | none => ([], '.' :: r)
  | r => ([], r)

/-- `[-+]?`: the sign taken, and what follows. -/
def matchSign : List Char → List Char × List Char
  | '+' :: q => (['+'], q)
  | '-' :: q => (['-'], q)
  | q => ([], q)

/-- `([eE][-+]?\d+)?`: the exponent, or nothing, and what follows. -/
def matchExp : List Char → List Char × List Char
  | e :: r =>
    if e = 'e' ∨ e = 'E' then
      match digitRun (matchSign r).2 with
      | some (ds, q) => (e :: (matchSign r).1 ++ ds, q)
      | none => ([], e :: r)
    else ([], e :: r)
  | [] => ([], [])

/-- `-?`: the minus sign taken, and what follows. -/
def matchMinus : List Char → List Char × List Char
  | '-' :: t => (['-'], t)
  | t => ([], t)

/-- `-?(?:0|[1-9]\d*)`: the integer part, and what follows. -/
def matchInteger (s : List Char) : Option (List Char × List Char) :=
  match (matchMinus s).2 with
  | '0' :: r => some ((matchMinus s).1 ++ ['0'], r)
  | c :: r =>
    if '1' ≤ c ∧ c ≤ '9' then some ((matchMinus s).1 ++ c :: r.takeWhile Char.isDigit, r.dropWhile Char.isDigit)
    else none
  | [] => none

/-- `NUMBER_RE.match(s, idx)`: the groups `integer`, `frac` and `exp` (empty when a group
took no part), and the characters after the match. -/
def matchNumber (s : List Char) : Option (List Char × List Char × List Char × List Char) :=
  (matchInteger s).map fun (integer, r) =>
    let (frac, r) := matchFrac r
    let (exp, r) := matchExp r
    (integer, frac, exp, r)

/-- The value `_scan_once` returns for a matched number: `parse_float(integer + frac + exp)`
when there is a fraction or an exponent, else `parse_int(integer)`. -/
def numberValue (integer frac exp : List Char) : Except LoadError Json :=
  if frac ≠ [] ∨ exp ≠ [] then
    let text : String := ⟨integer ++ frac ++ exp⟩
    match floatOfString text with
    | some f => .ok (.float f)
    | none => .error (.raised (.valueError ("could not convert string to float: " ++ reprStr text)))
  else
    match pyInt ⟨integer⟩ with
    | .ok i => .ok (.int i)
    | .error e => .error (.raised e)

theorem length_lt_of_skipWs {s rest : List Char} {c : Char} (h : skipWs s = c :: rest) :
    rest.length < s.length := by
  have := skipWs_length_le s
  rw [h, List.length_cons] at this
  omega

theorem digitRun_length {s ds rest : List Char} (h : digitRun s = some (ds, rest)) :
    rest.length < s.length := by
  unfold digitRun at h
  split at h
  · split at h
    · cases h
      exact Nat.lt_succ_of_le (List.dropWhile_suffix _).length_le
    · cases h
  · cases h

theorem matchFrac_length (r : List Char) : (matchFrac r).2.length ≤ r.length := by
  unfold matchFrac
  split
  · split
    · rename_i h; exact Nat.le_succ_of_le (digitRun_length h).le
    · exact le_rfl
  · exact le_rfl

theorem matchSign_length (r : List Char) : (matchSign r).2.length ≤ r.length := by
  unfold matchSign; split <;> simp

theorem matchMinus_length (r : List Char) : (matchMinus r).2.length ≤ r.length := by
  unfold matchMinus; split <;> simp

theorem matchExp_length (r : List Char) : (matchExp r).2.length ≤ r.length := by
  unfold matchExp
  split
  · split
    · split
      · rename_i h
        have := (digitRun_length h).trans_le (matchSign_length _)
        simp only [List.length_cons]
        omega
      · exact le_rfl
    · exact le_rfl
  · exact le_rfl

theorem matchInteger_length {s integer rest : List Char} (h : matchInteger s = some (integer, rest)) :
    rest.length < s.length := by
  have hm := matchMinus_length s
  unfold matchInteger at h
  split at h
  · rename_i r hr
    cases h
    rw [hr, List.length_cons] at hm
    omega
  · rename_i c r _ hr
    split at h
    · cases h
      have := (List.dropWhile_suffix Char.isDigit (l := r)).length_le
      rw [hr, List.length_cons] at hm
      omega
    · cases h
  · cases h

theorem matchNumber_length {s integer frac exp rest : List Char}
    (h : matchNumber s = some (integer, frac, exp, rest)) : rest.length < s.length := by
  unfold matchNumber at h
  obtain ⟨⟨i, r⟩, hi, he⟩ := Option.map_eq_some.mp h
  cases he
  exact lt_of_le_of_lt ((matchExp_length _).trans (matchFrac_length r)) (matchInteger_length hi)

/-- A value read from the characters `s`, and the characters after it, fewer than `s`. -/
abbrev Scanned (s : List Char) (α : Type) : Type :=
  {r : α × List Char // r.2.length < s.length}

theorem length_drop_lt_of_take {s w : List Char} {n : Nat} (h : s.take n = w) (hw : 0 < w.length) :
    (s.drop n).length < s.length := by
  have := congrArg List.length h
  rw [List.length_take] at this
  rw [List.length_drop]
  omega

/-- The end of `_scan_once`: a number, or one of the constants `NaN`, `Infinity` and
`-Infinity` (`nextchar`, then the slice compared with the name); otherwise
`StopIteration(idx)`. -/
def scanNumber (s : List Char) : Except LoadError (Scanned s Json) :=
  match h : matchNumber s with
  | some (integer, frac, exp, rest) =>
    (numberValue integer frac exp).map fun v => ⟨(v, rest), matchNumber_length h⟩
  | none =>
    if h : s.take 3 = "NaN".data then .ok ⟨(.float .nan, s.drop 3), length_drop_lt_of_take h (by decide)⟩
    else if h : s.take 8 = "Infinity".data then
      .ok ⟨(.float .inf, s.drop 8), length_drop_lt_of_take h (by decide)⟩
    else if h : s.take 9 = "-Infinity".data then
      .ok ⟨(.float .negInf, s.drop 9), length_drop_lt_of_take h (by decide)⟩
    else .error (.decode "Expecting value" s)

/-! ## Arrays, objects, documents -/

/-- `dict(pairs)`: a repeated key keeps its first place and takes its last value. -/
def dictOf (pairs : List (String × Json)) : List (String × Json) :=
  pairs.foldl (fun d p => dictModify d p.1 p.2 fun _ => p.2) []

/-- What `_scan_once` tries after the containers: `null`, `true` and `false` (`nextchar`, then
the slice compared with the name), then a number or one of the constants (`scanNumber`). -/
def scanAtom (s : List Char) : Except LoadError (Scanned s Json) :=
  if h : s.take 4 = "null".data then .ok ⟨(.null, s.drop 4), length_drop_lt_of_take h (by decide)⟩
  else if h : s.take 4 = "true".data then .ok ⟨(.bool true, s.drop 4), length_drop_lt_of_take h (by decide)⟩
  else if h : s.take 5 = "false".data then .ok ⟨(.bool false, s.drop 5), length_drop_lt_of_take h (by decide)⟩
  else scanNumber s

mutual

/-- `_scan_once(string, idx)`, from `idx`: `nextchar` chooses a string, an object or an
array; anything else is an atom. -/
def scanOnce (s : List Char) : Except LoadError (Scanned s Json) :=
  match s with
  | [] => .error (.decode "Expecting value" [])
  | c :: t =>
    if c = '"' then
      match h : scanString ('"' :: t) [] t with
      | .ok (str, rest) => .ok ⟨(.str str, rest), Nat.lt_succ_of_lt (scanString_length h)⟩
      | .error e => .error e
    else if c = '{' then
      match parseObject t with
      | .ok ⟨(fields, rest), h⟩ => .ok ⟨(.obj fields, rest), Nat.lt_succ_of_lt h⟩
      | .error e => .error e
    else if c = '[' then
      match parseArray t with
      | .ok ⟨(elems, rest), h⟩ => .ok ⟨(.arr elems, rest), Nat.lt_succ_of_lt h⟩
      | .error e => .error e
    else scanAtom (c :: t)
termination_by 3 * s.length

/-- `JSONArray((s, end))`, from `end`, just after the opening bracket. -/
def parseArray (t : List Char) : Except LoadError (Scanned t (List Json)) :=
  match h : skipWs t with
  | ']' :: rest => .ok ⟨([], rest), length_lt_of_skipWs h⟩
  | s =>
    have : s.length ≤ t.length := h ▸ skipWs_length_le t
    match arrayLoop [] s with
    | .ok ⟨r, hr⟩ => .ok ⟨r, Nat.lt_of_lt_of_le hr (h ▸ skipWs_length_le t)⟩
    | .error e => .error e
termination_by 3 * t.length + 2

/-- The `while True` loop of `JSONArray`, with the values read so far. -/
def arrayLoop (values : List Json) (s : List Char) : Except LoadError (Scanned s (List Json)) :=
  match scanOnce s with
  | .error e => .error e
  | .ok ⟨(value, s1), h1⟩ =>
    match h2 : skipWs s1 with
    | ']' :: rest => .ok ⟨(values ++ [value], rest), (length_lt_of_skipWs h2).trans h1⟩
    | ',' :: r =>
      have : (skipWs r).length < s.length :=
        ((skipWs_length_le r).trans_lt (length_lt_of_skipWs h2)).trans h1
      match arrayLoop (values ++ [value]) (skipWs r) with
      | .ok ⟨res, hres⟩ =>
        .ok ⟨res, ((hres.trans_le (skipWs_length_le r)).trans (length_lt_of_skipWs h2)).trans h1⟩
      | .error e => .error e
    | rest => .error (.decode "Expecting ',' delimiter" rest)
termination_by 3 * s.length + 1

/-- `JSONObject((s, end))`, from `end`, just after the opening brace. -/
def parseObject (t : List Char) : Except LoadError (Scanned t (List (String × Json))) :=
  match h : skipWs t with
  | '}' :: rest => .ok ⟨([], rest), length_lt_of_skipWs h⟩
  | '"' :: r =>
    have : r.length < t.length := length_lt_of_skipWs h
    match objectLoop [] r with
    | .ok ⟨res, hres⟩ => .ok ⟨res, hres.trans (length_lt_of_skipWs h)⟩
    | .error e => .error e
  | rest => .error (.decode "Expecting property name enclosed in double quotes" rest)
termination_by 3 * t.length + 2

/-- The `while True` loop of `JSONObject`, with the pairs read so far; `s` follows the
opening quote of a key. -/
def objectLoop (pairs : List (String × Json)) (s : List Char) :
    Except LoadError (Scanned s (List (String × Json))) :=
  match hk : scanString ('"' :: s) [] s with
  | .error e => .error e
  | .ok (key, s1) =>
    match h2 : skipWs s1 with
    | ':' :: s2 =>
      have hs2 : (skipWs s2).length < s.length :=
        ((skipWs_length_le s2).trans_lt (length_lt_of_skipWs h2)).trans (scanString_length hk)
      match scanOnce (skipWs s2) with
      | .error e => .error e
      | .ok ⟨(value, s3), h3⟩ =>
        match h4 : skipWs s3 with
        | '}' :: rest => .ok ⟨(dictOf (pairs ++ [(key, value)]), rest), ((length_lt_of_skipWs h4).trans h3).trans hs2⟩
        | ',' :: r =>
          match h5 : skipWs r with
          | '"' :: r' =>
            have : r'.length < s.length :=
              (((length_lt_of_skipWs h5).trans (length_lt_of_skipWs h4)).trans h3).trans hs2
            match objectLoop (pairs ++ [(key, value)]) r' with
            | .ok ⟨res, hres⟩ => .ok ⟨res, hres.trans this⟩
            | .error e => .error e
          | rest => .error (.decode "Expecting property name enclosed in double quotes" rest)
        | rest => .error (.decode "Expecting ',' delimiter" rest)
    | rest => .error (.decode "Expecting ':' delimiter" rest)
termination_by 3 * s.length + 1

end

/-- `JSONDecodeError(msg, doc, pos)` as the `ValueError` it is, with `pos` where `rest`
starts: `'%s: line %d column %d (char %d)'`. -/
def decodeError (doc : List Char) (msg : String) (rest : List Char) : Exn :=
  let pos := doc.length - rest.length
  let before := doc.take pos
  let lineno := before.count '\n' + 1
  let colno := (before.reverse.takeWhile (· ≠ '\n')).length + 1
  .valueError (msg ++ ": line " ++ toString lineno ++ " column " ++ toString colno ++ " (char " ++
    toString pos ++ ")")

/-- What the model's decoder raises at a `\u` escape of a lone surrogate, where CPython's
puts the surrogate in the `str` and reads on. -/
def loneSurrogateExn : Exn :=
  .error "lone surrogate in a \\u escape"

/-- The exception `json.loads(doc)` raises for a `LoadError`. -/
def LoadError.toExn (doc : List Char) : LoadError → Exn
  | .decode msg rest => decodeError doc msg rest
  | .raised e => e
  | .loneSurrogate _ => loneSurrogateExn

/-- `json.loads(s)`: a text that starts with a byte order mark is refused; then
`JSONDecoder.decode`: whitespace, one value, whitespace, and nothing else. -/
def loads (s : String) : Except Exn Json :=
  if s.data.head? = some (Char.ofNat 0xFEFF) then
    .error (decodeError s.data "Unexpected UTF-8 BOM (decode using utf-8-sig)" s.data)
  else
    match scanOnce (skipWs s.data) with
    | .error e => .error (e.toExn s.data)
    | .ok ⟨(obj, rest), _⟩ =>
      if skipWs rest = [] then .ok obj else .error (decodeError s.data "Extra data" (skipWs rest))

/-- Whether `json.loads(s)` reaches a `\u` escape of a lone surrogate, where the model's
decoder stops short of CPython's. -/
def reachesLoneSurrogate (s : String) : Bool :=
  match loads s with
  | .error e => e == loneSurrogateExn
  | .ok _ => false

end Py

end SiteAuditor
