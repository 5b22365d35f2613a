/-
# SiteAuditor.Python.Unicode — the Unicode tables CPython's `str` functions read

CPython 3.11 ships the Unicode 14.0 database, and the two scripts reach it in three places:

* `int(s)` and `float(s)` read every decimal digit (category Nd), not only ASCII `0` to
  `9` (`Py_UNICODE_TODECIMAL`, here `unicodeToDecimal`);
* `s.isdigit()` holds of the decimal digits and of the other digits, such as superscripts
  and circled digits (`Py_UNICODE_ISDIGIT`, here `unicodeIsDigit`);
* `urlsplit` refuses a non-ASCII netloc in which NFKC normalisation makes one of `/?#@:`
  appear (`nfkcNetlocDelims`).

The decimal digits beyond ASCII come in runs of ten, `0` to `9`, and `decimalZeros` lists
the zero of each run. The other digits are `otherDigitRanges`. For NFKC, the netloc has
none of `/?#@:` itself when `urlsplit` checks it (`/`, `?` and `#` end it, and `@` and `:`
are removed first); normalising a string decomposes each character and then composes, and
no composition takes in or gives one of these ASCII characters, so one appears exactly when
some character's compatibility decomposition holds it. Those characters are
`nfkcNetlocDelims`.

`unicodeToDecimal_ascii` says that below U+0080 the tables add nothing to ASCII.
-/
import Mathlib.Data.List.Basic

namespace SiteAuditor.Py

set_option autoImplicit false

/-- The zero of each run of decimal digits beyond ASCII, in Unicode 14.0. -/
def decimalZeros : List Nat :=
  [0x660, 0x6F0, 0x7C0, 0x966, 0x9E6, 0xA66, 0xAE6, 0xB66, 0xBE6, 0xC66,
    0xCE6, 0xD66, 0xDE6, 0xE50, 0xED0, 0xF20, 0x1040, 0x1090, 0x17E0, 0x1810,
    0x1946, 0x19D0, 0x1A80, 0x1A90, 0x1B50, 0x1BB0, 0x1C40, 0x1C50, 0xA620, 0xA8D0,
    0xA900, 0xA9D0, 0xA9F0, 0xAA50, 0xABF0, 0xFF10, 0x104A0, 0x10D30, 0x11066, 0x110F0,
    0x11136, 0x111D0, 0x112F0, 0x11450, 0x114D0, 0x11650, 0x116C0, 0x11730, 0x118E0, 0x11950,
    0x11C50, 0x11D50, 0x11DA0, 0x16A60, 0x16AC0, 0x16B50, 0x1D7CE, 0x1D7D8, 0x1D7E2, 0x1D7EC,
    0x1D7F6, 0x1E140, 0x1E2F0, 0x1E950, 0x1FBF0]

/-- `Py_UNICODE_TODECIMAL(c)`: the value of a decimal digit, `none` for any other
character. -/
def unicodeToDecimal (c : Char) : Option Nat :=
  if 0x30 ≤ c.toNat ∧ c.toNat ≤ 0x39 then some (c.toNat - 0x30)
  else (decimalZeros.find? fun z => z ≤ c.toNat ∧ c.toNat < z + 10).map (c.toNat - ·)

/-- The digits beyond ASCII that are not decimal digits (Numeric_Type Digit), as ranges of
code points. -/
def otherDigitRanges : List (Nat × Nat) :=
  [(0xB2, 0xB3), (0xB9, 0xB9), (0x1369, 0x1371), (0x19DA, 0x19DA), (0x2070, 0x2070),
    (0x2074, 0x2079), (0x2080, 0x2089), (0x2460, 0x2468), (0x2474, 0x247C), (0x2488, 0x2490),
    (0x24EA, 0x24EA), (0x24F5, 0x24FD), (0x24FF, 0x24FF), (0x2776, 0x277E), (0x2780, 0x2788),
    (0x278A, 0x2792), (0x10A40, 0x10A43), (0x10E60, 0x10E68), (0x11052, 0x1105A), (0x1F100, 0x1F10A)]

/-- `Py_UNICODE_ISDIGIT(c)`: a decimal digit or another digit. -/
def unicodeIsDigit (c : Char) : Bool :=
  (unicodeToDecimal c).isSome || otherDigitRanges.any fun r => decide (r.1 ≤ c.toNat ∧ c.toNat ≤ r.2)

/-- The characters whose NFKC form holds one of `/?#@:`, such as U+2100 (`a/c`) and the
fullwidth `：`. -/
def nfkcNetlocDelims : List Nat :=
  [0x2047, 0x2048, 0x2049, 0x2100, 0x2101, 0x2105, 0x2106, 0x2A74, 0xFE13, 0xFE16,
    0xFE55, 0xFE56, 0xFE5F, 0xFE6B, 0xFF03, 0xFF0F, 0xFF1A, 0xFF1F, 0xFF20]

example : unicodeToDecimal '٣' = some 3 ∧ unicodeToDecimal '³' = none ∧ unicodeIsDigit '³' := by decide

/-- Below U+0080 the decimal digits are ASCII `0` to `9`. -/
theorem unicodeToDecimal_ascii {c : Char} (h : c.toNat < 0x80) :
    unicodeToDecimal c = if 0x30 ≤ c.toNat ∧ c.toNat ≤ 0x39 then some (c.toNat - 0x30) else none := by
  have hz : ∀ z ∈ decimalZeros, 0x80 ≤ z := by decide
  unfold unicodeToDecimal
  split
  · rfl
  · rw [List.find?_eq_none.mpr fun z hz' => by have := hz z hz'; simp only [decide_eq_true_eq]; omega]
    rfl

/-- A decimal digit's value is below ten. -/
theorem unicodeToDecimal_lt {c : Char} {d : Nat} (h : unicodeToDecimal c = some d) : d < 10 := by
  unfold unicodeToDecimal at h
  split at h
  · cases h; omega
  · obtain ⟨z, hz, rfl⟩ := Option.map_eq_some'.mp h
    have := List.find?_some hz
    simp only [decide_eq_true_eq] at this
    omega

end SiteAuditor.Py
