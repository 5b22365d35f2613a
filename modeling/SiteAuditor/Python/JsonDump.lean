/-
# SiteAuditor.Python.JsonDump — `json.dump(obj, f, indent=2, ensure_ascii=False)`

Both scripts write their reports with `json.dump(..., indent=2, ensure_ascii=False)`.
With an indent, CPython encodes in Python (`_make_iterencode`):

* a non-empty list or dict puts each item on a line of its own, indented two spaces per
  level, items separated by `,` and a key from its value by `: `; the closing bracket
  goes on a line at the enclosing level; an empty one is `[]` or `{}`;
* a string is `encode_basestring`: `"`, `\` and the characters below U+0020 are escaped
  (`ESCAPE_DCT`), every other character is written as it is;
* an `int` is `int.__repr__` (`intRepr`), which raises a `ValueError` on an `int` of
  more than 4300 digits and otherwise writes `intText`; a `float` is `float.__repr__`,
  except that `NaN`, `Infinity` and `-Infinity` are written as those words.

`float.__repr__` writes the shortest decimal that reads back as the double. A finite float
is an exact rational here, the decimal Python prints, so its repr is that decimal in
CPython's format (`format_float_short`, mode `r`, with `.0` added to an integer): the
digits with the point placed, or, when the point falls more than 16 places right of the
first digit or 4 or more places left of it, one digit, the rest as a fraction, and an
exponent of at least two digits. A rational with no finite decimal expansion stands for
no double; it is cut after 17 decimals.
-/
import SiteAuditor.Python.Json

namespace SiteAuditor

namespace Py

set_option autoImplicit false

/-! ## Strings -/

/-- `ESCAPE_DCT[c]` for a character `ESCAPE` matches, and `c` itself otherwise. -/
def escapeChar (c : Char) : List Char :=
  if c = '\\' then ['\\', '\\']
  else if c = '"' then ['\\', '"']
  else if c = '\x08' then ['\\', 'b']
  else if c = '\x0c' then ['\\', 'f']
  else if c = '\n' then ['\\', 'n']
  else if c = '\r' then ['\\', 'r']
  else if c = '\t' then ['\\', 't']
  else if c.toNat < 0x20 then ['\\', 'u', '0', '0', hexDigit (c.toNat / 16), hexDigit (c.toNat % 16)]
  else [c]

/-- `encode_basestring(s)`. -/
def encodeBasestring (s : String) : List Char :=
  '"' :: s.data.flatMap escapeChar ++ ['"']

example : encodeBasestring "a\"\n\x01" = "\"a\\\"\\n\\u0001\"".data := by decide

/-! ## Numbers -/

/-- The least `k` with `x · 10^k` an integer, searched among `0 … den`; 17 when there is
none. -/
def decimalExponent (x : Rat) : Nat :=
  ((List.range (x.den + 1)).find? fun k => Nat.pow 10 k % x.den = 0).getD 17

/-- `_Py_dg_dtoa(|x|, 0, ...)`: the digits of `|x|` with no trailing zero, and `decpt`, the
place of the decimal point counted from the first digit. -/
def shortDigits (x : Rat) : List Char × Int :=
  let k := decimalExponent x
  let all := (toString (x.num.natAbs * Nat.pow 10 k / x.den)).data
  ((all.reverse.dropWhile (· = '0')).reverse, all.length - k)

/-- `%+.02d`: the sign, then at least two digits. -/
def exponentText (e : Int) : List Char :=
  let ds := (toString e.natAbs).data
  (if e < 0 then '-' else '+') :: if ds.length < 2 then '0' :: ds else ds

/-- `format_float_short` in mode `r` with `Py_DTSF_ADD_DOT_0`, from the digits and the
point. -/
def formatShort (ds : List Char) (decpt : Int) : List Char :=
  if decpt ≤ -4 ∨ 16 < decpt then
    ds.take 1 ++ (if 1 < ds.length then '.' :: ds.drop 1 else []) ++ 'e' :: exponentText (decpt - 1)
  else if decpt ≤ 0 then '0' :: '.' :: List.replicate (-decpt).toNat '0' ++ ds
  else if decpt < ds.length then ds.take decpt.toNat ++ '.' :: ds.drop decpt.toNat
  else ds ++ List.replicate (decpt.toNat - ds.length) '0' ++ ['.', '0']

/-- `float.__repr__(x)` for a finite `x`. -/
def reprFinite (x : Rat) : List Char :=
  if x = 0 then "0.0".data
  else (if x < 0 then ['-'] else []) ++ formatShort (shortDigits x).1 (shortDigits x).2

/-- `floatstr(o)`: `float.__repr__`, or the word for a float that is not finite. -/
def floatstr : PyFloat → List Char
  | .finite x => reprFinite x
  | .nan => "NaN".data
  | .inf => "Infinity".data
  | .negInf => "-Infinity".data

/-! ## Lists and dicts -/

/-- `'\n' + _indent * level`, with `_indent` two spaces. -/
def newlineIndent (level : Nat) : List Char :=
  '\n' :: List.replicate (2 * level) ' '

mutual

/-- `_iterencode(o, level)`. -/
def iterencode (level : Nat) : Json → List Char
  | .null => "null".data
  | .bool true => "true".data
  | .bool false => "false".data
  | .int i => intText i
  | .float x => floatstr x
  | .str s => encodeBasestring s
  | .arr [] => "[]".data
  | .arr (x :: xs) =>
    '[' :: newlineIndent (level + 1) ++ iterencode (level + 1) x ++ iterencodeItems (level + 1) xs ++
      newlineIndent level ++ [']']
  | .obj [] => "{}".data
  | .obj ((k, v) :: fields) =>
    '{' :: newlineIndent (level + 1) ++ encodeBasestring k ++ ':' :: ' ' :: iterencode (level + 1) v ++
      iterencodeMembers (level + 1) fields ++ newlineIndent level ++ ['}']

/-- The items of `_iterencode_list` after the first, each after `separator`. -/
def iterencodeItems (level : Nat) : List Json → List Char
  | [] => []
  | x :: xs => ',' :: newlineIndent level ++ iterencode level x ++ iterencodeItems level xs

/-- The items of `_iterencode_dict` after the first, each after `item_separator`. -/
def iterencodeMembers (level : Nat) : List (String × Json) → List Char
  | [] => []
  | (k, v) :: fields =>
    ',' :: newlineIndent level ++ encodeBasestring k ++ ':' :: ' ' :: iterencode level v ++
      iterencodeMembers level fields

end

mutual

/-- Whether `int.__repr__` returns on every `int` of a value: none has more than 4300
digits. -/
def Json.intsFit : Json → Bool
  | .int i => intFits i
  | .arr xs => Json.allIntsFit xs
  | .obj fields => Json.allMembersIntsFit fields
  | _ => true

/-- `Json.intsFit` of every item of a list. -/
def Json.allIntsFit : List Json → Bool
  | [] => true
  | x :: xs => x.intsFit && Json.allIntsFit xs

/-- `Json.intsFit` of every value of a dict's members. -/
def Json.allMembersIntsFit : List (String × Json) → Bool
  | [] => true
  | (_, v) :: fields => v.intsFit && Json.allMembersIntsFit fields

end

/-- `json.dump(obj, f, indent=2, ensure_ascii=False)`: the text `_iterencode` writes, or the
`ValueError` of `int.__repr__` on an `int` of more than 4300 digits, which leaves in the file
the chunks written before it. -/
def dump (obj : Json) : Except Exn String :=
  if obj.intsFit then .ok ⟨iterencode 0 obj⟩ else .error strDigitsError

example : dump (.obj [("a", .arr [.int 1, .null]), ("b", .obj [])]) =
    .ok "\x7b\n  \"a\": [\n    1,\n    null\n  ],\n  \"b\": \x7b\x7d\n\x7d" := by decide

end Py

end SiteAuditor
