/-
# SiteAuditor.Python.Str — the `str` methods the auditor calls, and its exceptions

The auditor handles URLs, paths and `drush` output as Python strings. Each `str`
method it calls is a definition over `String.data`, the string's code points:

* `rstrip`, `lstrip` and `strip` with a set of characters (`url.rstrip("/")`,
  `path.strip("/")`), and `strip()` with none, which strips `isSpace`;
* `startswith`/`endswith` as list prefix and suffix;
* `s.split(sep)[0]` as `beforeFirst`, `s.split(sep, 1)` and `s.partition(sep)` as
  `splitOnce`, `splitlines`, and `isdigit`, which holds of every Unicode digit
  (`unicodeIsDigit`);
* `lower`, on ASCII letters only: CPython's mapping of other letters is not modelled;
* `repr(s)`, and `transformDecimalAndSpace`, the ASCII text `int()` and `float()` read.

`Exn` is what the auditor's `except` clauses can tell apart.

The lemmas are about `rstrip`: it is idempotent (`rstrip_rstrip`), and what it removes
is a run of the stripped character (`rstrip_append_replicate`).
-/
import SiteAuditor.Python.Unicode

namespace SiteAuditor

set_option autoImplicit false

/-- An exception as the auditor's handlers see it: `str(e)` is `message`. -/
inductive Exn
  /-- Playwright's `TimeoutError`, the one class `except PlaywrightTimeoutError` catches. -/
  | timeout (message : String)
  /-- Any other exception a rendering-engine call or the file system raises. -/
  | error (message : String)
  /-- `ValueError`, as `urlparse` raises it on a malformed URL. -/
  | valueError (message : String)
deriving DecidableEq, Repr

/-- Outcomes are compared when the model is evaluated. -/
instance instDecidableEqExcept {ε α : Type} [DecidableEq ε] [DecidableEq α] :
    DecidableEq (Except ε α)
  | .error a, .error b => if h : a = b then isTrue (h ▸ rfl) else isFalse fun e => h (Except.error.inj e)
  | .ok a, .ok b => if h : a = b then isTrue (h ▸ rfl) else isFalse fun e => h (Except.ok.inj e)
  | .error _, .ok _ => isFalse Except.noConfusion
  | .ok _, .error _ => isFalse Except.noConfusion

/-- `str(e)`. -/
def Exn.message : Exn → String
  | .timeout message => message
  | .error message => message
  | .valueError message => message

namespace Py

/-- `s.rstrip(chars)`, with `p` deciding membership in `chars`. -/
def rstrip (p : Char → Bool) (s : String) : String :=
  ⟨(s.data.reverse.dropWhile p).reverse⟩

/-- `s.lstrip(chars)`. -/
def lstrip (p : Char → Bool) (s : String) : String :=
  ⟨s.data.dropWhile p⟩

/-- `s.strip(chars)`. -/
def strip (p : Char → Bool) (s : String) : String :=
  rstrip p (lstrip p s)

/-- `c.isspace()`: the code points CPython counts as whitespace. -/
def isSpace (c : Char) : Bool :=
  let n := c.toNat
  decide (n = 0x20 ∨ (0x09 ≤ n ∧ n ≤ 0x0d) ∨ (0x1c ≤ n ∧ n ≤ 0x1f) ∨ n = 0x85 ∨ n = 0xa0 ∨
    n = 0x1680 ∨ (0x2000 ≤ n ∧ n ≤ 0x200a) ∨ n = 0x2028 ∨ n = 0x2029 ∨ n = 0x202f ∨
    n = 0x205f ∨ n = 0x3000)

/-- `s.startswith(prefix)`. -/
def startswith (s pre : String) : Bool :=
  pre.data.isPrefixOf s.data

/-- `s.endswith(suffix)`. -/
def endswith (s suf : String) : Bool :=
  suf.data.isSuffixOf s.data

/-- `s.lower()` on ASCII letters. -/
def lower (s : String) : String :=
  ⟨s.data.map Char.toLower⟩

/-- `s.split(sep)[0]`: everything before the first `sep`. -/
def beforeFirst (sep : Char) (s : String) : String :=
  ⟨s.data.takeWhile (· ≠ sep)⟩

/-- `s.split(sep, 1)` when `sep in s`, and `(s, '')` otherwise: `s.partition(sep)` without
the separator. -/
def splitOnce (sep : Char) (s : List Char) : List Char × List Char :=
  (s.takeWhile (· ≠ sep), (s.dropWhile (· ≠ sep)).drop 1)

/-- `s.isdigit()`: non-empty and all digits, decimal or not. -/
def isdigit (s : String) : Bool :=
  !s.data.isEmpty && s.data.all unicodeIsDigit

example : isdigit "١٢" ∧ isdigit "²" ∧ !isdigit "" := by decide

/-- A lowercase hex digit. -/
def hexDigit (n : Nat) : Char :=
  if n < 10 then Char.ofNat ('0'.toNat + n) else Char.ofNat ('a'.toNat + n - 10)

/-- `repr(s)` of a `str`: in single quotes, or in double quotes when it holds a single quote
and no double one; the backslash, the quote, tab, newline, return and the other control
characters are escaped. Characters beyond ASCII are written as they are (CPython escapes
those it does not count as printable). -/
def reprStr (s : String) : String :=
  let single := Char.ofNat 39
  let quote := if s.data.contains single ∧ ¬s.data.contains '"' then '"' else single
  let escape (c : Char) : List Char :=
    if c = quote ∨ c = '\\' then ['\\', c]
    else if c = '\t' then ['\\', 't']
    else if c = '\n' then ['\\', 'n']
    else if c = '\r' then ['\\', 'r']
    else if c.toNat < 0x20 ∨ c.toNat = 0x7f then ['\\', 'x', hexDigit (c.toNat / 16), hexDigit (c.toNat % 16)]
    else [c]
  ⟨quote :: s.data.flatMap escape ++ [quote]⟩

example : reprStr "a'b" = "\"a'b\"" ∧ reprStr "1\n" = "'1\\n'" := by decide

/-- `_PyUnicode_TransformDecimalAndSpaceToASCII(s)`, the text `int()` and `float()` parse: a
character below U+007F is kept, whitespace beyond it becomes a space, a decimal digit its
ASCII digit, and any other character ends the text with `?`. -/
def transformDecimalAndSpace : List Char → List Char
  | [] => []
  | c :: cs =>
    if c.toNat < 0x7f then c :: transformDecimalAndSpace cs
    else if isSpace c then ' ' :: transformDecimalAndSpace cs
    else
      match unicodeToDecimal c with
      | some d => Char.ofNat (0x30 + d) :: transformDecimalAndSpace cs
      | none => ['?']

example : transformDecimalAndSpace " ٣\u3000".data = " 3 ".data := by decide

/-- An ASCII text is kept as it is. -/
theorem transformDecimalAndSpace_of_ascii {s : List Char} (h : ∀ c ∈ s, c.toNat < 0x7f) :
    transformDecimalAndSpace s = s := by
  induction s with
  | nil => rfl
  | cons c cs ih =>
    rw [transformDecimalAndSpace, if_pos (h c (.head _)), ih fun d hd => h d (.tail _ hd)]

/-- The line boundaries of `str.splitlines` (`\r\n` counts as one). -/
def isLineBoundary (c : Char) : Bool :=
  let n := c.toNat
  decide (n = 0x0a ∨ n = 0x0b ∨ n = 0x0c ∨ n = 0x0d ∨ (0x1c ≤ n ∧ n ≤ 0x1e) ∨ n = 0x85 ∨
    n = 0x2028 ∨ n = 0x2029)

/-- `splitlines` over the characters left, with the current line reversed in `line`. -/
def splitlinesFrom : List Char → List Char → List String
  | [], line => if line = [] then [] else [⟨line.reverse⟩]
  | '\r' :: '\n' :: rest, line => ⟨line.reverse⟩ :: splitlinesFrom rest []
  | c :: rest, line =>
      if isLineBoundary c then ⟨line.reverse⟩ :: splitlinesFrom rest []
      else splitlinesFrom rest (c :: line)

/-- `s.splitlines()`: a final boundary ends the last line without opening another. -/
def splitlines (s : String) : List String :=
  splitlinesFrom s.data []

example : splitlines "a\r\nb\n\nc\n" = ["a", "b", "", "c"] := by decide

/-! ## `rstrip` -/

theorem dropWhile_dropWhile_self (p : Char → Bool) (l : List Char) :
    (l.dropWhile p).dropWhile p = l.dropWhile p := by
  induction l with
  | nil => rfl
  | cons c l ih => by_cases hc : p c <;> simp [List.dropWhile_cons, hc, ih]

@[simp] theorem rstrip_rstrip (p : Char → Bool) (s : String) : rstrip p (rstrip p s) = rstrip p s := by
  simp [rstrip, dropWhile_dropWhile_self]

/-- `rstrip c` removes a run of `c`: the string is the stripped one followed by `n` of them. -/
theorem rstrip_append_replicate (c : Char) (s : String) :
    ∃ n, (rstrip (· = c) s).data ++ List.replicate n c = s.data := by
  suffices h : ∀ l : List Char, ∃ n, l.dropWhile (· = c) = l.drop n ∧ l.take n = List.replicate n c by
    obtain ⟨n, hdrop, htake⟩ := h s.data.reverse
    have hsplit := List.take_append_drop n s.data.reverse
    rw [htake, ← hdrop] at hsplit
    refine ⟨n, ?_⟩
    calc (rstrip (· = c) s).data ++ List.replicate n c
        = (List.replicate n c ++ s.data.reverse.dropWhile (· = c)).reverse := by simp [rstrip]
      _ = s.data := by rw [hsplit, List.reverse_reverse]
  intro l
  induction l with
  | nil => exact ⟨0, rfl, rfl⟩
  | cons d l ih =>
      by_cases hd : d = c
      · obtain ⟨n, hdrop, htake⟩ := ih
        exact ⟨n + 1, by simp [hd, hdrop], by simp [hd, htake, List.replicate_succ]⟩
      · exact ⟨0, by simp [hd], rfl⟩

end Py

end SiteAuditor
