/-
# SiteAuditor.Python.Int — `int(s)` and `str(n)`, with CPython's limit on digits

`int(s)` on a `str` (`PyLong_FromUnicodeObject`) parses the ASCII text
`transformDecimalAndSpace` makes of `s`, so that every Unicode decimal digit counts as a
digit and every Unicode space as a space. `PyLong_FromString` then reads C whitespace, a
sign, digits with single underscores between them (none first, none last), and C
whitespace, and the text must end there. Since CPython 3.11 a text of more than 4300
digits raises its own `ValueError`, checked once the digits are read and before what
follows them; any other failure is `invalid literal for int() with base 10: ` and the
first 200 characters of `repr(s)`.

`str(n)`, which `int.__repr__` computes, raises a `ValueError` for an `n` of more than
4300 digits; otherwise it is the sign and the digits (`intText`).

`pyInt_singleton`: a one-character string is an `int` exactly when the character is a
decimal digit. That `int()` reads back the text of every `n` of at most 4300 digits is
`pyInt_intText`, in `SiteAuditor.Python.NumberRepr`.
-/
import SiteAuditor.Python.Str

namespace SiteAuditor.Py

set_option autoImplicit false

/-- `sys.get_int_max_str_digits()` at its default. -/
def maxStrDigits : Nat := 4300

/-- The value of a string of ASCII digits. -/
def digitsValue (ds : List Char) : Nat :=
  ds.foldl (fun n c => 10 * n + (c.toNat - '0'.toNat)) 0

/-- `Py_ISSPACE`, the C whitespace `PyLong_FromString` skips. -/
def isCSpace (c : Char) : Bool :=
  c = ' ' || c = '\t' || c = '\n' || c = '\x0b' || c = '\x0c' || c = '\r'

/-- How `PyLong_FromString(s, &end, 10)` ends on an ASCII text. -/
inductive LongParse
  | value (n : Int)
  /-- More digits than `maxStrDigits`. -/
  | tooManyDigits (digits : Nat)
  | invalid
deriving DecidableEq, Repr

/-- The scan of digits and underscores after the sign: the digits read and the text after
them, or `none` when an underscore follows another or ends the run. `prev` is the
character read last. -/
def longDigits (prev : Char) : List Char → Option (List Char × List Char)
  | [] => if prev = '_' then none else some ([], [])
  | c :: cs =>
    if c = '_' then if prev = '_' then none else longDigits c cs
    else if c.isDigit then (longDigits c cs).map fun r => (c :: r.1, r.2)
    else if prev = '_' then none else some ([], c :: cs)

/-- A leading `-` or `+`: whether the value is negated, and the rest. -/
def splitSign : List Char → Bool × List Char
  | '-' :: cs => (true, cs)
  | '+' :: cs => (false, cs)
  | cs => (false, cs)

/-- `PyLong_FromString(s, &end, 10)` on an ASCII text, with `end` at its end. -/
def longFromString (t : List Char) : LongParse :=
  let (neg, body) := splitSign (t.dropWhile isCSpace)
  if body.head? = some '_' then .invalid
  else
    match longDigits ' ' body with
    | none => .invalid
    | some (ds, rest) =>
      if maxStrDigits < ds.length then .tooManyDigits ds.length
      else if ds = [] ∨ rest.dropWhile isCSpace ≠ [] then .invalid
      else .value (if neg then -(digitsValue ds : Int) else digitsValue ds)

/-- `int(s)` for a `str` `s`. -/
def pyInt (s : String) : Except Exn Int :=
  match longFromString (transformDecimalAndSpace s.data) with
  | .value n => .ok n
  | .tooManyDigits digits =>
    .error (.valueError ("Exceeds the limit (4300 digits) for integer string conversion: value has " ++
      toString digits ++ " digits; use sys.set_int_max_str_digits() to increase the limit"))
  | .invalid => .error (.valueError ("invalid literal for int() with base 10: " ++ ⟨(reprStr s).data.take 200⟩))

example : pyInt " 1_024 " = .ok 1024 ∧ pyInt "-٣" = .ok (-3) ∧ pyInt "1__0" = .error
    (.valueError "invalid literal for int() with base 10: \x271__0\x27") := by decide

/-- The sign and digits `str(n)` writes when it does not raise. -/
def intText (n : Int) : List Char :=
  (toString n).data

/-- Whether `n` has at most `maxStrDigits` digits, so that `str(n)` does not raise. -/
def intFits (n : Int) : Bool :=
  decide ((toString n.natAbs).length ≤ maxStrDigits)

/-- The `ValueError` `str(n)` raises for an `n` of more than 4300 digits. -/
def strDigitsError : Exn :=
  .valueError "Exceeds the limit (4300 digits) for integer string conversion; use sys.set_int_max_str_digits() to increase the limit"

/-- `str(n)`, as `int.__repr__` writes it. -/
def intRepr (n : Int) : Except Exn (List Char) :=
  if intFits n then .ok (intText n) else .error strDigitsError

/-! ## One character -/

theorem isDigit_iff {c : Char} : c.isDigit = true ↔ 48 ≤ c.toNat ∧ c.toNat ≤ 57 := by
  simp [Char.isDigit, UInt32.le_def, BitVec.le_def, Char.toNat, UInt32.toNat]

/-- The C whitespace lies below `0`. -/
theorem isCSpace_lt {c : Char} (h : isCSpace c) : c.toNat < 48 := by
  simp only [isCSpace, Bool.or_eq_true, decide_eq_true_eq] at h
  rcases h with (((((rfl | rfl) | rfl) | rfl) | rfl) | rfl) <;> decide

theorem isCSpace_of_isDigit {c : Char} (h : c.isDigit = true) : isCSpace c = false :=
  Bool.eq_false_iff.mpr fun hs => absurd (isCSpace_lt hs) (by have := isDigit_iff.mp h; omega)

/-- `PyLong_FromString` reads one character as a number exactly when it is a digit. -/
theorem longFromString_single (c : Char) : (∃ n, longFromString [c] = .value n) ↔ c.isDigit := by
  by_cases hs : isCSpace c
  · have hd : c.isDigit = false := Bool.eq_false_iff.mpr fun h => by rw [isCSpace_of_isDigit h] at hs; cases hs
    simp [longFromString, List.dropWhile_cons_of_pos hs, splitSign, longDigits, hd]
  rw [longFromString, List.dropWhile_cons_of_neg hs]
  by_cases hm : c = '-'
  · subst hm; simp [splitSign, longDigits]
  by_cases hp : c = '+'
  · subst hp; simp [splitSign, longDigits]
  rw [splitSign.eq_3 _ (by simpa using hm) (by simpa using hp)]
  by_cases hu : c = '_'
  · subst hu; simp
  by_cases hd : c.isDigit <;> simp [hu, hd, longDigits, maxStrDigits]

/-- No space beyond ASCII is a decimal digit. -/
theorem unicodeToDecimal_of_isSpace {c : Char} (hc : 0x7f ≤ c.toNat) (hs : isSpace c) : unicodeToDecimal c = none := by
  have hz : ∀ z ∈ decimalZeros, (0x660 ≤ z ∧ z + 10 ≤ 0x1680) ∨ (0x1680 < z ∧ z + 10 ≤ 0x2000) ∨ 0x3000 < z := by
    decide
  simp only [isSpace, decide_eq_true_eq] at hs
  unfold unicodeToDecimal
  rw [if_neg (by omega), List.find?_eq_none.mpr fun z hz' => by have := hz z hz'; simp only [decide_eq_true_eq]; omega]
  rfl

theorem pyInt_ok_iff (s : String) :
    (∃ i, pyInt s = .ok i) ↔ ∃ n, longFromString (transformDecimalAndSpace s.data) = .value n := by
  unfold pyInt
  split <;> simp_all

/-- `int()` reads a one-character string exactly when the character is a decimal digit. -/
theorem pyInt_singleton (c : Char) : (∃ i, pyInt ⟨[c]⟩ = .ok i) ↔ (unicodeToDecimal c).isSome := by
  rw [pyInt_ok_iff]
  simp only [transformDecimalAndSpace]
  by_cases ha : c.toNat < 0x7f
  · rw [if_pos ha, longFromString_single, unicodeToDecimal_ascii (by omega), isDigit_iff]
    split <;> simp_all
  rw [if_neg ha]
  by_cases hs : isSpace c
  · rw [if_pos hs, unicodeToDecimal_of_isSpace (by omega) hs, longFromString_single]
    decide
  rw [if_neg hs]
  cases hd : unicodeToDecimal c with
  | none => simp [longFromString_single]
  | some d =>
    simpa [longFromString_single] using
      (by decide : ∀ d < 10, (Char.ofNat (0x30 + d)).isDigit) d (unicodeToDecimal_lt hd)

end SiteAuditor.Py
