/-
# SiteAuditor.Python.NumberRepr — the numbers `json.dump` writes and `json.loads` reads

`json.dump` writes an `int` with `int.__repr__` (`intText`) and a finite `float` with
`float.__repr__` (`reprFinite`); the decoder's `NUMBER_RE` splits a number's text into its
`integer`, `frac` and `exp` groups, and `int()` or `float()` gives the value. Both reprs are
decimal literals (`Literal`): a sign, an integer part with no leading zero, the digits after
a point, an exponent. The results:

* `pyInt_intText`: `int()` reads back what `int.__repr__` writes, for an `int` of at
  most 4300 digits;
* `matchNumber_text`: `NUMBER_RE` matches a literal whole, when what follows it is what
  follows a value in a dumped document (`Ends`); `floatOfString_text`: `float()` reads the
  literal's value;
* `reprFinite_literal`: the repr of a finite decimal is a literal with a point or an
  exponent, whose value is the number.
-/
import SiteAuditor.Python.JsonLoad
import Mathlib.Algebra.Field.Rat
import Mathlib.Data.Nat.Cast.Field
import Mathlib.Tactic.Ring
import Mathlib.Data.Nat.Digits

namespace SiteAuditor

namespace Py

set_option autoImplicit false

/-! ## Decimal digits -/

theorem zero_toNat : '0'.toNat = 48 := rfl

theorem char_le_iff {c d : Char} : c ≤ d ↔ c.toNat ≤ d.toNat := by
  simp [Char.le_def, UInt32.le_def, BitVec.le_def, Char.toNat, UInt32.toNat]

theorem isDigit_of_le {c : Char} (h1 : '1' ≤ c) (h2 : c ≤ '9') : c.isDigit := by
  rw [char_le_iff] at h1 h2
  exact isDigit_iff.mpr ⟨le_trans (by decide) h1, le_trans h2 (by decide)⟩

theorem digitChar_toNat {d : Nat} (h : d < 10) : (Nat.digitChar d).toNat = d + 48 :=
  (by decide : ∀ d < 10, (Nat.digitChar d).toNat = d + 48) d h

theorem digitChar_isDigit {d : Nat} (h : d < 10) : (Nat.digitChar d).isDigit :=
  (by decide : ∀ d < 10, (Nat.digitChar d).isDigit) d h

theorem toDigitsCore_append : ∀ (f n : Nat) (ds : List Char), n < f →
    Nat.toDigitsCore 10 f n ds = Nat.toDigitsCore 10 f n [] ++ ds
  | 0, _, _, h => absurd h (Nat.not_lt_zero _)
  | f + 1, n, ds, h => by
    simp only [Nat.toDigitsCore]
    split
    · rfl
    · have : n / 10 < f := by omega
      rw [toDigitsCore_append f (n / 10) _ this, toDigitsCore_append f (n / 10) [_] this, List.append_assoc]
      rfl

theorem toDigitsCore_fuel : ∀ (f f' n : Nat) (ds : List Char), n < f → n < f' →
    Nat.toDigitsCore 10 f n ds = Nat.toDigitsCore 10 f' n ds
  | 0, _, _, _, h, _ => absurd h (Nat.not_lt_zero _)
  | _, 0, _, _, _, h => absurd h (Nat.not_lt_zero _)
  | f + 1, f' + 1, n, ds, h, h' => by
    simp only [Nat.toDigitsCore]
    split
    · rfl
    · exact toDigitsCore_fuel f f' _ _ (by omega) (by omega)

/-- The decimal digits of `n`: those of `n / 10`, then the last one. -/
theorem toDigits_ten (n : Nat) :
    Nat.toDigits 10 n = (if n < 10 then [] else Nat.toDigits 10 (n / 10)) ++ [Nat.digitChar (n % 10)] := by
  unfold Nat.toDigits
  conv_lhs => simp only [Nat.toDigitsCore]
  split
  · rw [if_pos (by omega)]
    rfl
  · rw [if_neg (by omega), toDigitsCore_append _ _ _ (by omega),
      toDigitsCore_fuel n (n / 10 + 1) (n / 10) [] (by omega) (by omega)]

theorem toDigits_isDigit (n : Nat) : ∀ c ∈ Nat.toDigits 10 n, c.isDigit := by
  induction n using Nat.strong_induction_on with
  | _ n ih =>
    rw [toDigits_ten]
    intro c hc
    rcases List.mem_append.mp hc with hc | hc
    · split at hc
      · cases hc
      · exact ih _ (by omega) c hc
    · rw [List.mem_singleton.mp hc]
      exact digitChar_isDigit (Nat.mod_lt _ (by decide))

/-- The first digit of a positive number is not `0`. -/
theorem toDigits_head {n : Nat} (h : 0 < n) :
    ∃ c tl, Nat.toDigits 10 n = c :: tl ∧ '1' ≤ c ∧ c ≤ '9' := by
  induction n using Nat.strong_induction_on with
  | _ n ih =>
    rw [toDigits_ten]
    split
    · refine ⟨_, [], rfl, ?_⟩
      rw [Nat.mod_eq_of_lt ‹n < 10›]
      exact (by decide : ∀ d < 10, 0 < d → '1' ≤ Nat.digitChar d ∧ Nat.digitChar d ≤ '9') n ‹_› h
    · obtain ⟨c, tl, heq, hc⟩ := ih (n / 10) (by omega) (by omega)
      exact ⟨c, tl ++ _, by rw [heq]; rfl, hc⟩

theorem digitsValue_append (ds es : List Char) :
    digitsValue (ds ++ es) = digitsValue ds * 10 ^ es.length + digitsValue es := by
  induction es using List.reverseRecOn with
  | nil => simp [digitsValue]
  | append_singleton es e ih =>
    simp only [digitsValue, ← List.append_assoc, List.foldl_append, List.foldl_cons, List.foldl_nil,
      List.length_append, List.length_singleton] at ih ⊢
    rw [ih, pow_succ]
    ring

theorem digitsValue_singleton (c : Char) : digitsValue [c] = c.toNat - '0'.toNat := by
  simp [digitsValue]

theorem digitsValue_toDigits (n : Nat) : digitsValue (Nat.toDigits 10 n) = n := by
  induction n using Nat.strong_induction_on with
  | _ n ih =>
    rw [toDigits_ten, digitsValue_append, digitsValue_singleton,
      digitChar_toNat (Nat.mod_lt _ (by decide)), zero_toNat]
    split
    · simp only [digitsValue, List.foldl_nil, List.length_singleton]; omega
    · rw [ih _ (by omega), List.length_singleton]; omega

/-! ## `str(n)` and `int()` -/

theorem intText_eq (i : Int) :
    intText i = (if i < 0 then ['-'] else []) ++ Nat.toDigits 10 i.natAbs := by
  cases i with
  | ofNat n => simp [intText]; rfl
  | negSucc n =>
    simp only [intText, Int.negSucc_lt_zero, if_true, Int.natAbs_negSucc]
    rfl

theorem dropWhile_of_forall {p : Char → Bool} {l : List Char} (h : ∀ c ∈ l, p c = false) :
    l.dropWhile p = l := by
  cases l with
  | nil => rfl
  | cons c l => exact List.dropWhile_cons_of_neg (by simp [h c (.head _)])

/-- `s.strip(chars)` leaves a string none of whose characters it strips. -/
theorem strip_of_forall {p : Char → Bool} {s : String} (h : ∀ c ∈ s.data, p c = false) : strip p s = s := by
  have hrev : ∀ c ∈ s.data.reverse, p c = false := fun c hc => h c (List.mem_reverse.mp hc)
  simp [strip, rstrip, lstrip, dropWhile_of_forall h, dropWhile_of_forall hrev]

theorem toDigits_ne_nil (n : Nat) : Nat.toDigits 10 n ≠ [] := by
  rw [toDigits_ten]
  simp

/-- `PyLong_FromString` reads a run of digits whole. -/
theorem longDigits_digits {prev : Char} (hp : prev ≠ '_') :
    ∀ {ds : List Char}, (∀ c ∈ ds, c.isDigit) → longDigits prev ds = some (ds, [])
  | [], _ => by simp [longDigits, hp]
  | c :: ds, h => by
    have hc := h c (.head _)
    have hne : c ≠ '_' := fun e => by subst e; simp at hc
    rw [longDigits, if_neg hne, if_pos hc, longDigits_digits hne fun d hd => h d (.tail _ hd)]
    rfl

/-- `PyLong_FromString` reads the digits of `n`, when there are at most 4300. -/
theorem longFromString_digits {n : Nat} (h : (Nat.toDigits 10 n).length ≤ maxStrDigits) (neg : Bool) :
    longFromString ((if neg then ['-'] else []) ++ Nat.toDigits 10 n) =
      .value (if neg then -(n : Int) else n) := by
  have hdig := toDigits_isDigit n
  obtain ⟨c, tl, hds⟩ := List.exists_cons_of_ne_nil (toDigits_ne_nil n)
  have hc := hdig c (hds ▸ .head _)
  have hsign : c ≠ '-' ∧ c ≠ '+' ∧ c ≠ '_' := by
    refine ⟨?_, ?_, ?_⟩ <;> rintro rfl <;> simp at hc
  have hnospace : ∀ d ∈ (if neg then ['-'] else []) ++ Nat.toDigits 10 n, isCSpace d = false := by
    intro d hd
    rcases List.mem_append.mp hd with hd | hd
    · split at hd
      · rw [List.mem_singleton.mp hd]; rfl
      · cases hd
    · exact isCSpace_of_isDigit (hdig d hd)
  have hsplit : splitSign ((if neg then ['-'] else []) ++ Nat.toDigits 10 n) = (neg, c :: tl) := by
    cases neg with
    | true => rw [hds]; rfl
    | false => rw [if_neg Bool.false_ne_true, List.nil_append, hds, splitSign.eq_3 _ (by simp [hsign.1]) (by simp [hsign.2.1])]
  unfold longFromString
  rw [dropWhile_of_forall hnospace, hsplit]
  dsimp only
  rw [if_neg (by simp [hsign.2.2]), ← hds, longDigits_digits (show ' ' ≠ '_' by decide) hdig]
  simp [Nat.not_lt.mpr h, toDigits_ne_nil, digitsValue_toDigits]

/-- `int()` reads back the text `str(n)` writes for every `n` of at most 4300 digits. -/
theorem pyInt_intText {i : Int} (h : intFits i) : pyInt ⟨intText i⟩ = .ok i := by
  have hlen : (Nat.toDigits 10 i.natAbs).length ≤ maxStrDigits := by simpa [intFits] using h
  have hascii : ∀ d ∈ intText i, d.toNat < 0x7f := by
    rw [intText_eq]
    intro d hd
    rcases List.mem_append.mp hd with hd | hd
    · split at hd
      · rw [List.mem_singleton.mp hd]; decide
      · cases hd
    · have := isDigit_iff.mp (toDigits_isDigit _ d hd); omega
  unfold pyInt
  rw [transformDecimalAndSpace_of_ascii hascii, intText_eq]
  have := longFromString_digits hlen (decide (i < 0))
  simp only [decide_eq_true_eq] at this
  rw [this]
  by_cases hi : i < 0
  · simp only [hi, if_true]; rw [Int.ofNat_natAbs_of_nonpos hi.le, Int.neg_neg]
  · simp only [hi, if_false]; rw [Int.natAbs_of_nonneg (by omega)]

/-- A string of `k` digits is below `10 ^ k`. -/
theorem digitsValue_lt {ds : List Char} (h : ∀ c ∈ ds, c.isDigit) : digitsValue ds < 10 ^ ds.length := by
  induction ds using List.reverseRecOn with
  | nil => simp [digitsValue]
  | append_singleton ds d ih =>
    have hd := isDigit_iff.mp (h d (by simp))
    have := ih fun c hc => h c (by simp [hc])
    rw [digitsValue_append, digitsValue_singleton, List.length_append, List.length_singleton, pow_one,
      pow_succ, zero_toNat]
    omega

/-- A number below `10 ^ k` has at most `k` digits. -/
theorem toDigits_length_le {n k : Nat} (hk : 0 < k) (h : n < 10 ^ k) : (Nat.toDigits 10 n).length ≤ k := by
  induction n using Nat.strong_induction_on generalizing k with
  | _ n ih =>
    rw [toDigits_ten]
    split
    · simpa using hk
    · obtain ⟨k, rfl⟩ : ∃ k', k = k' + 1 := ⟨k - 1, by omega⟩
      rw [pow_succ] at h
      have hk' : 0 < k := Nat.pos_of_ne_zero fun e => by subst e; omega
      have := ih (n / 10) (by omega) hk' (by omega)
      simp only [List.length_append, List.length_singleton]
      omega

/-- The scan of `PyLong_FromString` collects only digits. -/
theorem longDigits_isDigit : ∀ {prev : Char} {t ds rest : List Char},
    longDigits prev t = some (ds, rest) → ∀ c ∈ ds, c.isDigit
  | _, [], _, _, h => by
    unfold longDigits at h
    split at h <;> cases h
    simp
  | _, c :: t, _, _, h => by
    unfold longDigits at h
    split_ifs at h with h1 h2 h3
    · exact longDigits_isDigit h
    · obtain ⟨r, hr, he⟩ := Option.map_eq_some'.mp h
      cases he
      intro d hd
      rcases List.mem_cons.mp hd with rfl | hd
      · exact h3
      · exact longDigits_isDigit hr d hd
    · cases h; simp

/-- A value `PyLong_FromString` returns is read from between one and 4300 digits. -/
theorem longFromString_value {t : List Char} {n : Int} (h : longFromString t = .value n) :
    ∃ ds, (∀ c ∈ ds, c.isDigit) ∧ ds ≠ [] ∧ ds.length ≤ maxStrDigits ∧ n.natAbs = digitsValue ds := by
  unfold longFromString at h
  rcases hs : splitSign (t.dropWhile isCSpace) with ⟨neg, body⟩
  rw [hs] at h
  dsimp only at h
  split at h
  · cases h
  split at h
  · cases h
  rename_i ds rest hd
  split at h
  · cases h
  rename_i hlen
  split at h
  · cases h
  rename_i hne
  cases h
  refine ⟨ds, longDigits_isDigit hd, fun e => hne (.inl e), Nat.le_of_not_lt hlen, ?_⟩
  cases neg <;> simp

/-- Every `int` that `int()` returns has at most 4300 digits, so `str()` writes it back. -/
theorem pyInt_intFits {s : String} {i : Int} (h : pyInt s = .ok i) : intFits i := by
  unfold pyInt at h
  split at h <;> cases h
  obtain ⟨ds, hdig, hne, hlen, habs⟩ := longFromString_value ‹_›
  simp only [intFits, decide_eq_true_eq]
  show (Nat.toDigits 10 _).length ≤ _
  rw [habs]
  exact (toDigits_length_le (List.length_pos.mpr hne) (digitsValue_lt hdig)).trans hlen

/-! ## Number literals and `NUMBER_RE` -/

/-- A number literal as `int.__repr__` and `float.__repr__` write one: a sign, an integer
part, the digits after a point (none when there is no point) and an exponent, with its
sign and digits. -/
structure Literal where
  neg : Bool
  int : List Char
  frac : List Char
  exp : Option (Bool × List Char)

/-- The literal's `integer` group of `NUMBER_RE`. -/
def Literal.intText (l : Literal) : List Char :=
  (if l.neg then ['-'] else []) ++ l.int

/-- The `frac` group. -/
def Literal.fracText (l : Literal) : List Char :=
  if l.frac = [] then [] else '.' :: l.frac

/-- The `exp` group. -/
def Literal.expText (l : Literal) : List Char :=
  match l.exp with
  | none => []
  | some (n, ds) => 'e' :: (if n then '-' else '+') :: ds

def Literal.text (l : Literal) : List Char :=
  l.intText ++ l.fracText ++ l.expText

def Literal.expValue (l : Literal) : Int :=
  match l.exp with
  | none => 0
  | some (n, ds) => if n then -(digitsValue ds : Int) else digitsValue ds

/-- The number the literal stands for. -/
def Literal.value (l : Literal) : Rat :=
  let v := scale10 (digitsValue (l.int ++ l.frac)) (l.expValue - l.frac.length)
  if l.neg then -v else v

/-- `NUMBER_RE`'s shape: the integer part is `0` or has no leading zero, and each group is
made of ASCII digits. -/
structure Literal.Valid (l : Literal) : Prop where
  int : l.int = ['0'] ∨ ∃ c tl, l.int = c :: tl ∧ '1' ≤ c ∧ c ≤ '9' ∧ ∀ d ∈ tl, d.isDigit
  frac : ∀ d ∈ l.frac, d.isDigit
  exp : ∀ n ds, l.exp = some (n, ds) → ds ≠ [] ∧ ∀ d ∈ ds, d.isDigit

theorem Literal.Valid.int_head {l : Literal} (hl : l.Valid) : ∃ c tl, l.int = c :: tl ∧ c.isDigit ∧ ∀ d ∈ tl, d.isDigit := by
  rcases hl.int with h | ⟨c, tl, h, h1, h9, htl⟩
  · exact ⟨'0', [], h, rfl, by simp⟩
  · exact ⟨c, tl, h, isDigit_of_le h1 h9, htl⟩


theorem Literal.Valid.int_digits {l : Literal} (hl : l.Valid) : ∀ d ∈ l.int, d.isDigit := by
  obtain ⟨c, tl, h, hc, htl⟩ := hl.int_head
  rw [h]
  exact List.forall_mem_cons.mpr ⟨hc, htl⟩

/-- Every character of a literal is a digit, a sign, the point or the `e`. -/
theorem Literal.Valid.text_chars {l : Literal} (hl : l.Valid) :
    ∀ c ∈ l.text, c.isDigit ∨ c = '-' ∨ c = '+' ∨ c = '.' ∨ c = 'e' := by
  intro c hc
  simp only [Literal.text, Literal.intText, Literal.fracText, Literal.expText, List.mem_append] at hc
  rcases hc with (⟨hc | hc⟩ | hc) | hc
  · split at hc <;> simp_all
  · exact .inl (hl.int_digits c hc)
  · split at hc
    · cases hc
    · rcases List.mem_cons.mp hc with rfl | hc
      · simp
      · exact .inl (hl.frac c hc)
  · split at hc
    · cases hc
    · rename_i n ds hexp
      simp only [List.mem_cons] at hc
      rcases hc with rfl | rfl | hc
      · simp
      · cases n <;> simp
      · exact .inl ((hl.exp n ds hexp).2 c hc)

theorem Literal.Valid.noUnderscore {l : Literal} (hl : l.Valid) : ∀ c ∈ l.text, c ≠ '_' := by
  intro c hc h
  subst h
  rcases hl.text_chars _ hc with h | h | h | h | h <;> revert h <;> decide

theorem Literal.Valid.noSpace {l : Literal} (hl : l.Valid) : ∀ c ∈ l.text, isCSpace c = false := by
  intro c hc
  rcases hl.text_chars c hc with h | rfl | rfl | rfl | rfl
  · exact isCSpace_of_isDigit h
  all_goals rfl

theorem Literal.Valid.ascii {l : Literal} (hl : l.Valid) : ∀ c ∈ l.text, c.toNat < 0x7f := by
  intro c hc
  rcases hl.text_chars c hc with h | rfl | rfl | rfl | rfl
  · have := isDigit_iff.mp h; omega
  all_goals decide


theorem expText_head {l : Literal} : ∀ c ∈ l.expText.head?, c = 'e' := by
  unfold Literal.expText
  split <;> simp

theorem expText_isDigit {l : Literal} : ∀ c ∈ l.expText.head?, c.isDigit = false := by
  intro c hc
  rw [expText_head c hc]
  rfl

/-- What can follow a value's text in what `dump` writes: nothing, the `,` before the next
item, or the newline before a closing bracket. -/
def Ends (rest : List Char) : Prop :=
  rest = [] ∨ (∃ r, rest = ',' :: r) ∨ ∃ r, rest = '\n' :: r

theorem Ends.head {rest : List Char} (hr : Ends rest) : ∀ c ∈ rest.head?, c = ',' ∨ c = '\n' := by
  rcases hr with rfl | ⟨r, rfl⟩ | ⟨r, rfl⟩ <;> simp

theorem takeWhile_isDigit_of_head {r : List Char} (hr : ∀ c ∈ r.head?, c.isDigit = false) :
    r.takeWhile Char.isDigit = [] ∧ r.dropWhile Char.isDigit = r := by
  cases r with
  | nil => simp
  | cons c r =>
    have hc : ¬c.isDigit = true := by simp [hr c rfl]
    exact ⟨List.takeWhile_cons_of_neg hc, List.dropWhile_cons_of_neg hc⟩

theorem takeWhile_digits_append {ds r : List Char} (hd : ∀ c ∈ ds, c.isDigit) (hr : ∀ c ∈ r.head?, c.isDigit = false) :
    (ds ++ r).takeWhile Char.isDigit = ds ∧ (ds ++ r).dropWhile Char.isDigit = r := by
  rw [List.takeWhile_append_of_pos hd, List.dropWhile_append_of_pos hd, (takeWhile_isDigit_of_head hr).1,
    (takeWhile_isDigit_of_head hr).2, List.append_nil]
  exact ⟨rfl, rfl⟩

theorem digitRun_append {ds r : List Char} (hds : ds ≠ []) (hd : ∀ c ∈ ds, c.isDigit)
    (hr : ∀ c ∈ r.head?, c.isDigit = false) : digitRun (ds ++ r) = some (ds, r) := by
  obtain ⟨d, tl, rfl⟩ := List.exists_cons_of_ne_nil hds
  have htl : ∀ c ∈ tl, c.isDigit := fun c hc => hd c (.tail _ hc)
  simp only [List.cons_append, digitRun, hd d (.head _), if_true, List.takeWhile_append_of_pos htl,
    List.dropWhile_append_of_pos htl, (takeWhile_isDigit_of_head hr).1, (takeWhile_isDigit_of_head hr).2,
    List.append_nil]

theorem matchExp_expText {l : Literal} (hl : l.Valid) {rest : List Char} (hr : Ends rest) :
    matchExp (l.expText ++ rest) = (l.expText, rest) := by
  unfold Literal.expText
  split
  · rcases hr with rfl | ⟨r, rfl⟩ | ⟨r, rfl⟩ <;> rfl
  · rename_i n ds hexp
    obtain ⟨hne, hd⟩ := hl.exp n ds hexp
    have hrest : ∀ c ∈ rest.head?, c.isDigit = false := by
      rcases hr with rfl | ⟨r, rfl⟩ | ⟨r, rfl⟩ <;> simp
    have hsign : matchSign ((if n then '-' else '+') :: ds ++ rest) = ([if n then '-' else '+'], ds ++ rest) := by
      cases n <;> rfl
    simp only [matchExp, List.cons_append, if_pos (Or.inl rfl)]
    rw [← List.cons_append, hsign]
    simp only [digitRun_append hne hd hrest]
    rfl


theorem matchFrac_fracText {l : Literal} (hl : l.Valid) {r : List Char}
    (hr : ∀ c ∈ r.head?, c.isDigit = false ∧ c ≠ '.') : matchFrac (l.fracText ++ r) = (l.fracText, r) := by
  unfold Literal.fracText
  split
  · rw [List.nil_append, matchFrac.eq_2]
    rintro r' rfl
    exact (hr '.' rfl).2 rfl
  · simp only [List.cons_append, matchFrac, digitRun_append ‹_› hl.frac (fun c hc => (hr c hc).1)]

theorem matchMinus_intText {l : Literal} (hl : l.Valid) (r : List Char) :
    matchMinus (l.intText ++ r) = (if l.neg then ['-'] else [], l.int ++ r) := by
  obtain ⟨c, tl, hint, hc, -⟩ := hl.int_head
  unfold Literal.intText
  cases l.neg
  · simp only [Bool.false_eq_true, if_false, List.nil_append, hint]
    rw [matchMinus.eq_2]
    rintro t h
    cases (List.cons.inj h).1
    simp at hc
  · rfl

theorem matchInteger_intText {l : Literal} (hl : l.Valid) {r : List Char}
    (hr : ∀ c ∈ r.head?, c.isDigit = false) : matchInteger (l.intText ++ r) = some (l.intText, r) := by
  unfold matchInteger
  rw [matchMinus_intText hl]
  dsimp only
  rcases hl.int with h | ⟨c, tl, h, h1, h9, htl⟩
  · simp only [Literal.intText, h, List.cons_append, List.nil_append]
  · simp only [Literal.intText, h, List.cons_append]
    have hc0 : c ≠ '0' := by rintro rfl; simp [char_le_iff] at h1
    simp only [hc0, List.cons.injEq, false_and, false_implies, implies_true, if_pos (And.intro h1 h9),
      List.takeWhile_append_of_pos htl, List.dropWhile_append_of_pos htl, (takeWhile_isDigit_of_head hr).1,
      (takeWhile_isDigit_of_head hr).2, List.append_nil]

theorem matchNumber_text {l : Literal} (hl : l.Valid) {rest : List Char} (hr : Ends rest) :
    matchNumber (l.text ++ rest) = some (l.intText, l.fracText, l.expText, rest) := by
  have hexp : ∀ c ∈ (l.expText ++ rest).head?, c.isDigit = false ∧ c ≠ '.' := by
    intro c hc
    rw [List.head?_append, Option.mem_def, Option.or_eq_some] at hc
    rcases hc with hc | ⟨-, hc⟩
    · rw [expText_head c hc]; decide
    · rcases hr.head c hc with rfl | rfl <;> decide
  have hfrac : ∀ c ∈ (l.fracText ++ (l.expText ++ rest)).head?, c.isDigit = false := by
    unfold Literal.fracText
    split
    · exact fun c hc => (hexp c hc).1
    · simp
  unfold matchNumber Literal.text
  rw [List.append_assoc, List.append_assoc, matchInteger_intText hl hfrac]
  simp only [Option.map_some', matchFrac_fracText hl hexp, matchExp_expText hl hr]


theorem dropUnderscoresFrom_of_forall {prev : Char} {cs : List Char} (hp : prev ≠ '_') (h : ∀ c ∈ cs, c ≠ '_') :
    dropUnderscoresFrom prev cs = some cs := by
  induction cs generalizing prev with
  | nil => simp [dropUnderscoresFrom, hp]
  | cons c cs ih =>
    have hc := h c (.head _)
    simp [dropUnderscoresFrom, hc, hp, ih hc fun d hd => h d (.tail _ hd)]

theorem splitSign_text {l : Literal} (hl : l.Valid) :
    splitSign l.text = (l.neg, l.int ++ l.fracText ++ l.expText) := by
  obtain ⟨c, tl, hint, hc, -⟩ := hl.int_head
  unfold Literal.text Literal.intText
  cases l.neg
  · simp only [Bool.false_eq_true, if_false, List.nil_append, hint, List.cons_append]
    rw [splitSign.eq_3]
    · rintro t h; cases (List.cons.inj h).1; simp at hc
    · rintro t h; cases (List.cons.inj h).1; simp at hc
  · rfl

theorem infOrNan_text {l : Literal} (hl : l.Valid) : infOrNan l.text = none := by
  obtain ⟨c, tl, hint, hc, -⟩ := hl.int_head
  have hlow : Char.toLower c = c := by
    have := isDigit_iff.mp hc
    simp only [Char.toLower]
    rw [if_neg (by omega)]
  unfold infOrNan
  rw [splitSign_text hl, hint]
  have hi : c ≠ 'i' ∧ c ≠ 'n' := by
    have := isDigit_iff.mp hc
    constructor <;> rintro rfl <;> simp at this
  simp [hlow, hi.1, hi.2]


theorem exponentValue_sign {n : Bool} {ds : List Char} (hne : ds ≠ []) (hd : ∀ d ∈ ds, d.isDigit) :
    exponentValue ((if n then '-' else '+') :: ds) = some (if n then -(digitsValue ds : Int) else digitsValue ds) := by
  have hall : ds.all Char.isDigit := List.all_eq_true.mpr hd
  cases n <;> simp [exponentValue, splitSign, hne, hall]

theorem decimalValue_text {l : Literal} (hl : l.Valid) : decimalValue l.text = some l.value := by
  have hfe : ∀ c ∈ (l.fracText ++ l.expText).head?, c.isDigit = false := by
    unfold Literal.fracText
    split
    · exact expText_isDigit
    · simp
  have hft := takeWhile_digits_append (hl.int_digits) hfe
  have hfe' := takeWhile_digits_append hl.frac (expText_isDigit (l := l))
  obtain ⟨c, tl, hct, -⟩ := hl.int_head
  unfold decimalValue
  rw [splitSign_text hl]
  dsimp only
  rw [List.append_assoc, hft.1, hft.2]
  obtain ⟨neg, int, frac, exp⟩ := l
  dsimp only at hct
  subst hct
  rw [if_neg fun h => List.cons_ne_nil _ _ h.1]
  rcases exp with _ | ⟨n, ds⟩
  · cases frac with
    | nil => rfl
    | cons d frac =>
      simp only [Literal.fracText, Literal.expText, List.append_nil] at hfe' ⊢
      simp only [if_neg (List.cons_ne_nil d frac), List.cons_append, List.append_nil, hfe'.1, hfe'.2]
      rfl
  · obtain ⟨hne, hds⟩ := hl.exp n ds rfl
    have key : ∀ f : Int → Rat, Option.map f (exponentValue ((if n then '-' else '+') :: ds)) =
        some (f (if n then -(digitsValue ds : Int) else digitsValue ds)) := by
      intro f
      rw [exponentValue_sign hne hds]
      rfl
    cases frac with
    | nil => exact (key _).trans rfl
    | cons d frac =>
      simp only [Literal.fracText, Literal.expText, List.cons_append] at hfe' ⊢
      simp only [if_neg (List.cons_ne_nil d frac), List.cons_append, hfe'.1, hfe'.2]
      exact (key _).trans rfl

/-- `float()` reads a literal's value. -/
theorem floatOfString_text {l : Literal} (hl : l.Valid) : floatOfString ⟨l.text⟩ = some (.finite l.value) := by
  unfold floatOfString
  rw [transformDecimalAndSpace_of_ascii hl.ascii, dropUnderscoresFrom_of_forall (by decide) hl.noUnderscore,
    Option.some_bind]
  dsimp only
  rw [strip_of_forall (s := ⟨l.text⟩) hl.noSpace, infOrNan_text hl, decimalValue_text hl]
  rfl

/-! ## `float.__repr__` -/

/-- A rational stands for a double only if it is a decimal: some power of ten is a multiple
of its denominator, and then `10 ^ den` is one. -/
def IsDecimal (x : Rat) : Prop :=
  x.den ∣ 10 ^ x.den

instance (x : Rat) : Decidable (IsDecimal x) :=
  inferInstanceAs (Decidable (x.den ∣ 10 ^ x.den))

theorem dvd_pow_decimalExponent {x : Rat} (h : IsDecimal x) : x.den ∣ 10 ^ decimalExponent x := by
  unfold decimalExponent
  cases hf : (List.range (x.den + 1)).find? (fun k => 10 ^ k % x.den = 0) with
  | none =>
    have := List.find?_eq_none.mp hf x.den (List.mem_range.mpr (Nat.lt_succ_self _))
    simp [Nat.mod_eq_zero_of_dvd h] at this
  | some k =>
    have := List.find?_some hf
    simpa [Nat.dvd_iff_mod_eq_zero] using this

theorem scale10_eq (m : Nat) (k : Int) : scale10 m k = (m : ℚ) * (10 : ℚ) ^ k := by
  unfold scale10
  simp only [Nat.pow_eq]
  split
  · rename_i h
    push_cast
    rw [← zpow_natCast, Int.toNat_of_nonneg h]
  · rename_i h
    push_cast
    rw [div_eq_mul_inv, ← zpow_natCast, ← zpow_neg, Int.toNat_of_nonneg (by omega), neg_neg]

theorem toString_data (n : Nat) : (toString n).data = Nat.toDigits 10 n := rfl

theorem digitsValue_replicate_zero (n : Nat) : digitsValue (List.replicate n '0') = 0 := by
  induction n with
  | zero => rfl
  | succ n ih =>
    rw [List.replicate_succ', digitsValue_append, ih, digitsValue_singleton]
    rfl

theorem digitsValue_zeros_append (n : Nat) (ds : List Char) :
    digitsValue (List.replicate n '0' ++ ds) = digitsValue ds := by
  rw [digitsValue_append, digitsValue_replicate_zero, Nat.zero_mul, Nat.zero_add]

theorem digitsValue_append_zeros (ds : List Char) (n : Nat) :
    digitsValue (ds ++ List.replicate n '0') = digitsValue ds * 10 ^ n := by
  rw [digitsValue_append, digitsValue_replicate_zero, List.length_replicate, Nat.add_zero]

/-- A list is its part before the trailing zeros, then those zeros. -/
theorem strip_trailing_zeros (l : List Char) :
    l = (l.reverse.dropWhile (· = '0')).reverse ++
      List.replicate (l.reverse.takeWhile (· = '0')).length '0' := by
  have hz : (l.reverse.takeWhile (· = '0')).reverse = List.replicate (l.reverse.takeWhile (· = '0')).length '0' := by
    refine List.eq_replicate_iff.mpr ⟨List.length_reverse _, fun b hb => ?_⟩
    simpa using List.mem_takeWhile_imp (List.mem_reverse.mp hb)
  rw [← hz, ← List.reverse_append, List.takeWhile_append_dropWhile, List.reverse_reverse]


theorem abs_eq_natAbs_div (x : Rat) : |x| = (x.num.natAbs : ℚ) / x.den := by
  rw [Rat.abs_def, Rat.divInt_eq_div, Int.cast_natCast, Int.cast_natCast]

/-- `_Py_dg_dtoa`'s digits of a nonzero decimal start with a nonzero digit, and with the point
`decpt` places after the first one they are the number's magnitude. -/
theorem shortDigits_spec {x : Rat} (hx : x ≠ 0) (hd : IsDecimal x) :
    (∃ c tl, (shortDigits x).1 = c :: tl ∧ '1' ≤ c ∧ c ≤ '9' ∧ ∀ d ∈ tl, d.isDigit) ∧
      |x| = scale10 (digitsValue (shortDigits x).1) ((shortDigits x).2 - (shortDigits x).1.length) := by
  have hdvd : x.den ∣ x.num.natAbs * 10 ^ decimalExponent x :=
    Dvd.dvd.mul_left (dvd_pow_decimalExponent hd) _
  have hden : (x.den : ℚ) ≠ 0 := Nat.cast_ne_zero.mpr x.den_nz
  have hM : ((x.num.natAbs * 10 ^ decimalExponent x / x.den : Nat) : ℚ) = |x| * 10 ^ decimalExponent x := by
    rw [Nat.cast_div hdvd hden, abs_eq_natAbs_div]
    push_cast
    ring
  have hMpos : 0 < x.num.natAbs * 10 ^ decimalExponent x / x.den :=
    Nat.div_pos (Nat.le_of_dvd (Nat.mul_pos (Int.natAbs_pos.mpr (Rat.num_ne_zero.mpr hx))
      (Nat.pos_pow_of_pos _ (by decide))) hdvd) x.den_pos
  obtain ⟨c, tl, hall, hc1, hc9⟩ := toDigits_head hMpos
  have hsplit := strip_trailing_zeros (Nat.toDigits 10 (x.num.natAbs * 10 ^ decimalExponent x / x.den))
  unfold shortDigits
  simp only [toString_data]
  generalize x.num.natAbs * 10 ^ decimalExponent x / x.den = M at *
  generalize ((Nat.toDigits 10 M).reverse.dropWhile (· = '0')).reverse = ds at *
  generalize ((Nat.toDigits 10 M).reverse.takeWhile (· = '0')).length = z at *
  have hdig := toDigits_isDigit M
  have hlen : (Nat.toDigits 10 M).length = ds.length + z := by
    rw [hsplit, List.length_append, List.length_replicate]
  have hval : (M : ℚ) = digitsValue ds * 10 ^ z := by
    rw [← digitsValue_toDigits M, hsplit, digitsValue_append_zeros]
    push_cast
    ring
  refine ⟨?_, ?_⟩
  · cases ds with
    | nil =>
      rw [List.nil_append] at hsplit
      rw [hsplit] at hall
      cases z with
      | zero => cases hall
      | succ z => cases (List.cons.inj hall).1; exact absurd hc1 (by decide)
    | cons c' tl' =>
      rw [hsplit, List.cons_append] at hall
      obtain ⟨rfl, -⟩ := List.cons.inj hall
      exact ⟨c', tl', rfl, hc1, hc9, fun d hd => hdig d (hsplit ▸ List.mem_append_left _ (.tail _ hd))⟩
  · have h10 : (10 : ℚ) ≠ 0 := by norm_num
    have habs : |x| = M * 10 ^ (-(decimalExponent x : ℤ)) := by
      rw [hM, zpow_neg, zpow_natCast, mul_inv_cancel_right₀ (pow_ne_zero _ h10)]
    rw [scale10_eq, hlen, habs, hval, mul_assoc, ← zpow_natCast, ← zpow_add₀ h10]
    congr 2
    push_cast
    ring

theorem digitsValue_zero_cons (ds : List Char) : digitsValue ('0' :: ds) = digitsValue ds :=
  digitsValue_zeros_append 1 ds

/-- `%+.02d`'s digits, as the exponent group of a literal. -/
theorem exponentText_eq (e : Int) : ∃ ds, exponentText e = (if decide (e < 0) then '-' else '+') :: ds ∧
    ds ≠ [] ∧ (∀ d ∈ ds, d.isDigit) ∧ (if decide (e < 0) then -(digitsValue ds : Int) else digitsValue ds) = e := by
  have hdig := toDigits_isDigit e.natAbs
  have hval : digitsValue (Nat.toDigits 10 e.natAbs) = e.natAbs := digitsValue_toDigits _
  refine ⟨if (Nat.toDigits 10 e.natAbs).length < 2 then '0' :: Nat.toDigits 10 e.natAbs else Nat.toDigits 10 e.natAbs,
    ?_, ?_, ?_, ?_⟩
  · simp only [exponentText, toString_data, decide_eq_true_eq]
  · split <;> simp [toDigits_ne_nil]
  · split
    · exact List.forall_mem_cons.mpr ⟨rfl, hdig⟩
    · exact hdig
  · have hv : digitsValue (if (Nat.toDigits 10 e.natAbs).length < 2 then '0' :: Nat.toDigits 10 e.natAbs
        else Nat.toDigits 10 e.natAbs) = e.natAbs := by
      split <;> simp only [digitsValue_zero_cons, hval]
    rw [hv]
    split <;> rename_i h <;> simp only [decide_eq_true_eq] at h <;> omega


theorem scale10_shift (m j : Nat) (k : Int) : scale10 (m * 10 ^ j) k = scale10 m (k + j) := by
  have h10 : (10 : ℚ) ≠ 0 := by norm_num
  rw [scale10_eq, scale10_eq, zpow_add₀ h10, zpow_natCast]
  push_cast
  ring

/-- `format_float_short`'s text for nonzero digits `c :: tl` with the point at `decpt`, after
the sign: a literal with a point or an exponent, whose value is the digits' with the point
placed. -/
theorem formatShort_literal {c : Char} {tl : List Char} (hc1 : '1' ≤ c) (hc9 : c ≤ '9')
    (htl : ∀ d ∈ tl, d.isDigit) (neg : Bool) (decpt : Int) :
    ∃ l : Literal, l.neg = neg ∧ l.Valid ∧ (l.frac ≠ [] ∨ l.exp.isSome) ∧
      (if neg then ['-'] else []) ++ formatShort (c :: tl) decpt = l.text ∧
      scale10 (digitsValue (l.int ++ l.frac)) (l.expValue - l.frac.length) =
        scale10 (digitsValue (c :: tl)) (decpt - (c :: tl).length) := by
  have hds : ∀ d ∈ c :: tl, d.isDigit := List.forall_mem_cons.mpr ⟨isDigit_of_le hc1 hc9, htl⟩
  unfold formatShort
  by_cases hA : decpt ≤ -4 ∨ 16 < decpt
  · -- one digit, the fraction, and the exponent
    rw [if_pos hA]
    obtain ⟨eds, het, hne, hed, hev⟩ := exponentText_eq (decpt - 1)
    refine ⟨⟨neg, [c], tl, some (decide (decpt - 1 < 0), eds)⟩, rfl, ⟨.inr ⟨c, [], rfl, hc1, hc9, by simp⟩, htl,
      fun n ds h => by cases h; exact ⟨hne, hed⟩⟩, .inr rfl, ?_, ?_⟩
    · cases tl <;> simp [Literal.text, Literal.intText, Literal.fracText, Literal.expText, het]
    · simp only [Literal.expValue, hev, List.singleton_append, List.length_cons]
      congr 1
      omega
  rw [if_neg hA]
  by_cases hB : decpt ≤ 0
  · -- `0.`, zeros, the digits
    rw [if_pos hB]
    refine ⟨⟨neg, ['0'], List.replicate (-decpt).toNat '0' ++ c :: tl, none⟩, rfl,
      ⟨.inl rfl, ?_, fun n ds h => by cases h⟩, .inl (by simp), ?_, ?_⟩
    · simp only [List.mem_append, List.mem_replicate]
      rintro d (⟨-, rfl⟩ | hd)
      · rfl
      · exact hds d hd
    · simp [Literal.text, Literal.intText, Literal.fracText, Literal.expText]
    · simp only [Literal.expValue, List.singleton_append, digitsValue_zero_cons, digitsValue_zeros_append,
        List.length_append, List.length_replicate, List.length_cons]
      congr 1
      omega
  rw [if_neg hB]
  by_cases hC : decpt < (c :: tl).length
  · -- the digits with the point inside them
    rw [if_pos hC]
    have hne : (c :: tl).drop decpt.toNat ≠ [] := by
      simp only [ne_eq, List.drop_eq_nil_iff]
      omega
    refine ⟨⟨neg, (c :: tl).take decpt.toNat, (c :: tl).drop decpt.toNat, none⟩, rfl,
      ⟨.inr ?_, fun d hd => hds d (List.mem_of_mem_drop hd), fun n ds h => by cases h⟩, .inl hne, ?_, ?_⟩
    · obtain ⟨n, hn⟩ : ∃ n, decpt.toNat = n + 1 := ⟨decpt.toNat - 1, by omega⟩
      exact ⟨c, tl.take n, by rw [hn]; rfl, hc1, hc9, fun d hd => htl d (List.mem_of_mem_take hd)⟩
    · simp [Literal.text, Literal.intText, Literal.fracText, Literal.expText, hne]
    · simp only [Literal.expValue, List.take_append_drop, List.length_drop]
      congr 1
      omega
  · -- the digits, zeros, and `.0`
    rw [if_neg hC]
    refine ⟨⟨neg, c :: tl ++ List.replicate (decpt.toNat - (c :: tl).length) '0', ['0'], none⟩, rfl,
      ⟨.inr ⟨c, tl ++ _, rfl, hc1, hc9, ?_⟩, by simp, fun n ds h => by cases h⟩, .inl (by simp), ?_, ?_⟩
    · simp only [List.mem_append, List.mem_replicate]
      rintro d (hd | ⟨-, rfl⟩)
      · exact htl d hd
      · rfl
    · simp [Literal.text, Literal.intText, Literal.fracText, Literal.expText]
    · rw [List.append_assoc, ← List.replicate_succ', digitsValue_append_zeros, scale10_shift]
      simp only [Literal.expValue, List.length_singleton]
      congr 1
      omega


/-- `float.__repr__` of a finite decimal is a literal with a point or an exponent, whose value
is the number. -/
theorem reprFinite_literal {x : Rat} (hd : IsDecimal x) :
    ∃ l : Literal, l.Valid ∧ (l.frac ≠ [] ∨ l.exp.isSome) ∧ reprFinite x = l.text ∧ l.value = x := by
  by_cases hx : x = 0
  · subst hx
    refine ⟨⟨false, ['0'], ['0'], none⟩, ⟨.inl rfl, by simp, fun _ _ h => by cases h⟩, .inl (by simp), rfl, ?_⟩
    simp [Literal.value, scale10_eq, digitsValue_zero_cons, digitsValue_singleton]
  obtain ⟨⟨c, tl, hds, hc1, hc9, htl⟩, hval⟩ := shortDigits_spec hx hd
  obtain ⟨l, hneg, hl, hfe, htext, hv⟩ := formatShort_literal hc1 hc9 htl (decide (x < 0)) (shortDigits x).2
  refine ⟨l, hl, hfe, ?_, ?_⟩
  · rw [reprFinite, if_neg hx, ← htext, hds]
    simp only [decide_eq_true_eq]
  · rw [Literal.value, hv, ← hds, ← hval, hneg]
    by_cases hlt : x < 0
    · simp [hlt, abs_of_neg hlt]
    · simp [hlt, abs_of_nonneg (not_lt.mp hlt)]


/-- `int.__repr__` as a literal: a sign and the digits, with no point and no exponent. -/
def intLiteral (i : Int) : Literal :=
  ⟨decide (i < 0), Nat.toDigits 10 i.natAbs, [], none⟩

theorem intLiteral_valid (i : Int) : (intLiteral i).Valid := by
  refine ⟨?_, by simp [intLiteral], fun _ _ h => by cases h⟩
  rcases Nat.eq_zero_or_pos i.natAbs with h | h
  · exact .inl (by simp only [intLiteral, h]; rfl)
  · obtain ⟨c, tl, heq, hc1, hc9⟩ := toDigits_head h
    refine .inr ⟨c, tl, heq, hc1, hc9, fun d hd => toDigits_isDigit i.natAbs d ?_⟩
    rw [heq]
    exact .tail _ hd

theorem intLiteral_intText (i : Int) : (intLiteral i).intText = intText i := by
  rw [intText_eq]
  simp [Literal.intText, intLiteral]

/-- What `_scan_once` makes of a matched number. -/
theorem scanNumber_of_matchNumber {s integer frac exp rest : List Char}
    (h : matchNumber s = some (integer, frac, exp, rest)) :
    (scanNumber s).map Subtype.val = (numberValue integer frac exp).map (·, rest) := by
  unfold scanNumber
  split
  · rename_i heq
    rw [h] at heq
    cases heq
    cases numberValue integer frac exp <;> rfl
  · rename_i heq
    rw [h] at heq
    cases heq

/-- `_scan_once` reads back the text `int.__repr__` writes for an `int` of at most 4300
digits. -/
theorem scanNumber_intText {i : Int} (hi : intFits i) {rest : List Char} (hr : Ends rest) :
    (scanNumber (intText i ++ rest)).map Subtype.val = .ok (.int i, rest) := by
  have hm := matchNumber_text (intLiteral_valid i) hr
  have hf : (intLiteral i).fracText = [] := rfl
  have he : (intLiteral i).expText = [] := rfl
  rw [Literal.text, intLiteral_intText, hf, he, List.append_nil, List.append_nil] at hm
  rw [scanNumber_of_matchNumber hm]
  simp [numberValue, pyInt_intText hi]
  rfl


theorem numberValue_literal {l : Literal} (hl : l.Valid) (h : l.frac ≠ [] ∨ l.exp.isSome) :
    numberValue l.intText l.fracText l.expText = .ok (.float (.finite l.value)) := by
  have hne : l.fracText ≠ [] ∨ l.expText ≠ [] := by
    rcases h with h | h
    · exact .inl (by simp [Literal.fracText, h])
    · right
      unfold Literal.expText
      split <;> simp_all
  unfold numberValue
  rw [if_pos hne]
  dsimp only
  rw [show l.intText ++ l.fracText ++ l.expText = l.text from rfl, floatOfString_text hl]

/-- `_scan_once` reads back the text `floatstr` writes for a float that is not a finite
non-decimal. -/
theorem scanNumber_floatstr {x : PyFloat} (hx : ∀ q, x = .finite q → IsDecimal q) {rest : List Char}
    (hr : Ends rest) : (scanNumber (floatstr x ++ rest)).map Subtype.val = .ok (.float x, rest) := by
  cases x with
  | finite q =>
    obtain ⟨l, hl, hfe, htext, hv⟩ := reprFinite_literal (hx q rfl)
    rw [floatstr, htext, scanNumber_of_matchNumber (matchNumber_text hl hr), numberValue_literal hl hfe, hv]
    rfl
  | nan => rfl
  | inf => rfl
  | negInf => rfl

end Py

end SiteAuditor
