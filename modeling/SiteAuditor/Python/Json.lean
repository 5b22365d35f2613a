/-
# SiteAuditor.Python.Json — the values `r.json()` returns, and what Python does with them

`price_scrape.py` reads each API response with `r.json()` and walks the result with
ordinary Python: `d.get(key, default)`, `not x`, `len(x)`, `x[i]`, `for x in v`, `x or y`,
`int(x)` and `float(x)`. On a value of another type than the script expects, each of
these either does something else (iterating a `dict` gives its keys) or raises. A `Json`
is such a value, and each operation is a total function that returns what Python returns
or the exception it raises, so that the script's error paths are part of the model.

`json.loads` gives an `int` for a number written without fraction or exponent and a
`float` otherwise (`NaN`, `Infinity` and `-Infinity` included); a `dict` is the list of
its items, each key once. Finite floats are exact rationals here: the rounding to a double
is not modelled.

`floatOfString` is CPython's `float(str)` on the ASCII text `transformDecimalAndSpace`
makes (so every Unicode decimal digit and space counts): an underscore must stand between
two digits, surrounding C whitespace is stripped, and what is left is `inf`, `infinity` or
`nan` in any case with an optional sign, or a decimal with an optional exponent.
-/
import SiteAuditor.Python.Int
import Mathlib.Data.Rat.Defs

namespace SiteAuditor

namespace Py

set_option autoImplicit false

/-- A Python `float`: a finite value, or one of those `float()` gives for `inf` and `nan`.
Finite values are exact; CPython rounds them to the nearest double. -/
inductive PyFloat
  | finite (x : Rat)
  | inf
  | negInf
  | nan
  deriving DecidableEq, Repr

/-- A value `json.loads` returns. -/
inductive Json
  | null
  | bool (b : Bool)
  | int (i : Int)
  | float (x : PyFloat)
  | str (s : String)
  | arr (elems : List Json)
  | obj (fields : List (String × Json))
  deriving Repr

namespace Json

/-- `type(x).__name__`, as the messages of the exceptions name it. -/
def typeName : Json → String
  | .null => "NoneType"
  | .bool _ => "bool"
  | .int _ => "int"
  | .float _ => "float"
  | .str _ => "str"
  | .arr _ => "list"
  | .obj _ => "dict"

/-- `bool(x)`: `None`, `False`, zero and empty containers are falsy. -/
def truthy : Json → Bool
  | .null => false
  | .bool b => b
  | .int i => i != 0
  | .float x => x != .finite 0
  | .str s => !s.isEmpty
  | .arr elems => !elems.isEmpty
  | .obj fields => !fields.isEmpty

/-- `x or y`. -/
def orElse (x y : Json) : Json :=
  if x.truthy then x else y

/-- `d.get(key, default)`: only a `dict` has `get`. -/
def get (d : Json) (key : String) (default : Json) : Except Exn Json :=
  match d with
  | .obj fields => .ok ((fields.lookup key).getD default)
  | v => .error (.error ("AttributeError: \x27" ++ v.typeName ++ "\x27 object has no attribute \x27get\x27"))

/-- `len(x)`. -/
def len : Json → Except Exn Nat
  | .str s => .ok s.length
  | .arr elems => .ok elems.length
  | .obj fields => .ok fields.length
  | v => .error (.error ("TypeError: object of type \x27" ++ v.typeName ++ "\x27 has no len()"))

/-- `x[i]` for an `int` index `i ≥ 0`. A `dict` has only `str` keys, so `d[i]` is missing. -/
def index (v : Json) (i : Nat) : Except Exn Json :=
  match v with
  | .arr elems =>
    match elems.get? i with
    | some x => .ok x
    | none => .error (.error "IndexError: list index out of range")
  | .str s =>
    match s.data.get? i with
    | some c => .ok (.str (String.singleton c))
    | none => .error (.error "IndexError: string index out of range")
  | .obj _ => .error (.error ("KeyError: " ++ toString i))
  | v => .error (.error ("TypeError: \x27" ++ v.typeName ++ "\x27 object is not subscriptable"))

/-- `for x in v`: a `list` gives its elements, a `dict` its keys, a `str` its characters. -/
def iter : Json → Except Exn (List Json)
  | .arr elems => .ok elems
  | .obj fields => .ok (fields.map fun f => .str f.1)
  | .str s => .ok (s.data.map fun c => .str (String.singleton c))
  | v => .error (.error ("TypeError: \x27" ++ v.typeName ++ "\x27 object is not iterable"))

@[simp] theorem get_obj (fields : List (String × Json)) (key : String) (default : Json) :
    (Json.obj fields).get key default = .ok ((fields.lookup key).getD default) := rfl

@[simp] theorem iter_arr (elems : List Json) : (Json.arr elems).iter = .ok elems := rfl

@[simp] theorem orElse_of_truthy {x : Json} (h : x.truthy = true) (y : Json) : x.orElse y = x := by
  simp [orElse, h]

@[simp] theorem orElse_of_falsy {x : Json} (h : x.truthy = false) (y : Json) : x.orElse y = y := by
  simp [orElse, h]

end Json

/-! ## `float()` on a string -/

/-- CPython's rule for underscores in a numeric string: each stands between two digits and
is dropped; any other underscore rejects the string. `prev` is the character read last. -/
def dropUnderscoresFrom (prev : Char) : List Char → Option (List Char)
  | [] => if prev = '_' then none else some []
  | c :: cs =>
    if c = '_' then
      if prev.isDigit then dropUnderscoresFrom c cs else none
    else if prev = '_' ∧ ¬c.isDigit then none
    else (dropUnderscoresFrom c cs).map (c :: ·)

/-- `_Py_parse_inf_or_nan` on the whole string, case-insensitively. -/
def infOrNan (cs : List Char) : Option PyFloat :=
  let (neg, body) := splitSign cs
  let low := body.map Char.toLower
  if low = "inf".data ∨ low = "infinity".data then some (if neg then .negInf else .inf)
  else if low = "nan".data then some .nan
  else none

/-- `m · 10^k`, exactly. -/
def scale10 (m : Nat) (k : Int) : Rat :=
  if 0 ≤ k then ((m * Nat.pow 10 k.toNat : Nat) : Rat) else (m : Rat) / ((Nat.pow 10 (-k).toNat : Nat) : Rat)

/-- The exponent after `e` or `E`: a sign and at least one digit, to the end. -/
def exponentValue (cs : List Char) : Option Int :=
  let (neg, ds) := splitSign cs
  if ds ≠ [] ∧ ds.all Char.isDigit then
    some (if neg then -(digitsValue ds : Int) else digitsValue ds)
  else none

/-- A decimal to the end of the string: a sign, digits with an optional fraction (at least
one digit in all), and an optional exponent. -/
def decimalValue (cs : List Char) : Option Rat :=
  let (neg, body) := splitSign cs
  let intPart := body.takeWhile Char.isDigit
  let (fracPart, rest) : List Char × List Char :=
    match body.dropWhile Char.isDigit with
    | '.' :: r => (r.takeWhile Char.isDigit, r.dropWhile Char.isDigit)
    | r => ([], r)
  let exponent : Option Int :=
    match rest with
    | [] => some 0
    | c :: r => if c = 'e' ∨ c = 'E' then exponentValue r else none
  if intPart = [] ∧ fracPart = [] then none
  else exponent.map fun (e : Int) =>
    let v := scale10 (digitsValue (intPart ++ fracPart)) (e - fracPart.length)
    if neg then -v else v

/-- `float(s)` for a `str` `s`, or `none` where it raises `ValueError`: the underscores of
the text `transformDecimalAndSpace` makes, then C whitespace stripped. -/
def floatOfString (s : String) : Option PyFloat :=
  (dropUnderscoresFrom ' ' (transformDecimalAndSpace s.data)).bind fun cs =>
    let body := (strip isCSpace (String.mk cs)).data
    match infOrNan body with
    | some f => some f
    | none => (decimalValue body).map .finite

example : dropUnderscoresFrom ' ' " 1_000 ".data = some " 1000 ".data := by decide
example : floatOfString "-Infinity" = some .negInf := by decide
example : floatOfString "1__0" = none ∧ floatOfString "1e" = none ∧ floatOfString "." = none := by decide
example : floatOfString " ٣٥\u3000" = some (.finite 35) ∧ floatOfString "\x1c5" = none := by decide

namespace Json

/-- `float(x)`. A huge `int` overflows in CPython; here it is exact. -/
def toFloat : Json → Except Exn PyFloat
  | .int i => .ok (.finite i)
  | .bool b => .ok (.finite (if b then 1 else 0))
  | .float x => .ok x
  | .str s =>
    match floatOfString s with
    | some f => .ok f
    | none => .error (.valueError ("could not convert string to float: " ++ reprStr s))
  | v => .error (.error ("TypeError: float() argument must be a string or a real number, not \x27" ++ v.typeName ++ "\x27"))

end Json

/-! ## Loops in `Except` -/

section Loops

variable {ε α β : Type}

theorem bind_eq_ok {x : Except ε α} {f : α → Except ε β} {b : β} :
    x >>= f = .ok b ↔ ∃ a, x = .ok a ∧ f a = .ok b := by
  cases x <;> simp [bind, Except.bind]

/-- A loop whose every step returns returns the list of the steps' values. -/
theorem mapM_eq_ok_map {f : α → Except ε β} {g : α → β} :
    ∀ {xs : List α}, (∀ x ∈ xs, f x = .ok (g x)) → xs.mapM f = .ok (xs.map g)
  | [], _ => rfl
  | x :: xs, h => by
    rw [List.mapM_cons, h x (.head _), mapM_eq_ok_map fun y hy => h y (.tail _ hy)]
    rfl

/-- A loop that returns has returned at each step. -/
theorem mapM_ok_of_mem {f : α → Except ε β} :
    ∀ {xs : List α} {ys : List β}, xs.mapM f = .ok ys → ∀ x ∈ xs, ∃ y, f x = .ok y
  | [], _, _, _, h => by cases h
  | x :: xs, ys, h, z, hz => by
    rw [List.mapM_cons] at h
    obtain ⟨y, hy, h⟩ := bind_eq_ok.mp h
    obtain ⟨ys', hys', -⟩ := bind_eq_ok.mp h
    rcases List.mem_cons.mp hz with rfl | hz
    · exact ⟨y, hy⟩
    · exact mapM_ok_of_mem hys' z hz

/-- A loop returns exactly when each of its steps does. -/
theorem mapM_ok_iff {f : α → Except ε β} :
    ∀ {xs : List α}, (∃ ys, xs.mapM f = .ok ys) ↔ ∀ x ∈ xs, ∃ y, f x = .ok y
  | [] => ⟨fun _ _ h => (by cases h), fun _ => ⟨[], rfl⟩⟩
  | x :: xs => by
    rw [List.mapM_cons, List.forall_mem_cons, ← mapM_ok_iff]
    constructor
    · rintro ⟨ys, h⟩
      obtain ⟨y, hy, h⟩ := bind_eq_ok.mp h
      obtain ⟨ys', hys', -⟩ := bind_eq_ok.mp h
      exact ⟨⟨y, hy⟩, ys', hys'⟩
    · rintro ⟨⟨y, hy⟩, ys, hys⟩
      exact ⟨y :: ys, by rw [hy, hys]; rfl⟩

end Loops

namespace Json

/-- `for x in v` runs without raising and meets only dicts, each satisfying `P`: `v` is a
list of such dicts, or an empty `dict` or `str`. -/
def DictsWith (P : List (String × Json) → Prop) (v : Json) : Prop :=
  (∃ elems, v = .arr elems ∧ ∀ x ∈ elems, ∃ fs, x = .obj fs ∧ P fs) ∨ v = .obj [] ∨ v = .str ""

/-- Iterating a `dict` meets its keys and iterating a `str` its characters, all of them
`str`s: only an empty one iterates over dicts alone. -/
theorem iter_dicts_iff (P : List (String × Json) → Prop) (v : Json) :
    (∃ xs, v.iter = .ok xs ∧ ∀ x ∈ xs, ∃ fs, x = .obj fs ∧ P fs) ↔ v.DictsWith P := by
  cases v with
  | arr elems => simp [iter, DictsWith]
  | obj fields => cases fields <;> simp [iter, DictsWith]
  | str s =>
    obtain ⟨cs⟩ := s
    cases cs <;> simp [iter, DictsWith, String.ext_iff]
  | _ => simp [iter, DictsWith]

end Json

end Py

end SiteAuditor
