/-
# SiteAuditor.Python.JsonReload — `json.loads` returns only what `json.dump` writes back

`audit_page` keeps in each record what `json.loads` made of the page's
`application/ld+json` scripts, and `export_results` writes the record with `json.dump`.
`loads_dump` covers the Python values (`Json.isPyValue`) none of whose `int`s has more than
4300 digits (`Json.intsFit`); together they are `Json.Reloadable`. This module shows that
`json.loads` returns only such values (`loads_reloadable`):

* a dict comes from `dict(pairs)` (`dictOf`), whose keys are distinct and whose entries are
  among the pairs read (`dictOf_spec`);
* a float comes from the text of a decimal (`floatOfString_isDecimal`), whose denominator
  divides a power of ten, and so divides `10 ^ den` (`dvd_ten_pow_self`);
* an `int` comes from `int()`, which reads at most 4300 digits (`pyInt_intFits`).

The decoder is five mutually recursive functions. Each has one inversion lemma that says
all a call that returned can have done (`scanOnce_cases`, `parseArray_cases`,
`arrayLoop_cases`, `parseObject_cases`, `objectLoop_cases`), and `scansReloadable` is one
induction on how much text is left, since each call is made on a shorter text than its
caller's.
-/
import SiteAuditor.Python.JsonRoundTrip
import Mathlib.Data.Nat.Factorization.Basic

namespace SiteAuditor

namespace Py

set_option autoImplicit false

/-! ## Decimals -/

/-- A divisor of some power of ten divides `10 ^ d`: its exponents at 2 and 5 are below `d`. -/
theorem dvd_ten_pow_self {d k : Nat} (h : d ∣ 10 ^ k) : d ∣ 10 ^ d := by
  have hd : d ≠ 0 := by rintro rfl; simp at h
  rw [← Nat.factorization_le_iff_dvd hd (by positivity), Finsupp.le_iff]
  intro p hp
  have hprime : p.Prime := Nat.prime_of_mem_primeFactors (Nat.support_factorization d ▸ hp)
  have h10 : 0 < (10 : Nat).factorization p :=
    hprime.factorization_pos_of_dvd (by norm_num) (hprime.dvd_of_dvd_pow ((Nat.dvd_of_factorization_pos (Finsupp.mem_support_iff.mp hp)).trans h))
  rw [Nat.factorization_pow, Finsupp.smul_apply, smul_eq_mul]
  have := Nat.factorization_lt p hd
  nlinarith

/-- A denominator dividing a power of ten makes a decimal. -/
theorem IsDecimal.of_dvd {x : Rat} {k : Nat} (h : x.den ∣ 10 ^ k) : IsDecimal x :=
  dvd_ten_pow_self h

theorem IsDecimal.neg {x : Rat} (h : IsDecimal x) : IsDecimal (-x) := by
  unfold IsDecimal; rwa [Rat.neg_den]

/-- The reduced denominator of `m / n` divides `n`. -/
theorem den_div_dvd (m : Int) (n : Nat) : ((m : Rat) / (n : Rat)).den ∣ n := by
  have := Rat.den_dvd m n
  rw [Rat.divInt_eq_div] at this
  exact_mod_cast this

/-- Scaling a digit string by a power of ten gives a decimal. -/
theorem isDecimal_scale10 (m : Nat) (k : Int) : IsDecimal (scale10 m k) := by
  unfold scale10
  split
  · exact .of_dvd (k := 0) (by rw [Rat.den_natCast]; exact one_dvd _)
  · exact .of_dvd (by simpa [Nat.pow_eq] using den_div_dvd m (Nat.pow 10 (-k).toNat))

/-- The `inf`/`nan` spellings of `float()` never give a finite value. -/
theorem infOrNan_ne_finite (cs : List Char) (q : Rat) : infOrNan cs ≠ some (.finite q) := by
  rcases hs : splitSign cs with ⟨neg, body⟩
  simp only [infOrNan, hs]
  split_ifs <;> simp

/-- The decimal spelling of `float()` gives a decimal. -/
theorem decimalValue_isDecimal {cs : List Char} {q : Rat} (h : decimalValue cs = some q) : IsDecimal q := by
  rcases hs : splitSign cs with ⟨neg, body⟩
  simp only [decimalValue, hs] at h
  split_ifs at h <;> obtain ⟨e, -, rfl⟩ := Option.map_eq_some'.mp h
  · exact (isDecimal_scale10 _ _).neg
  · exact isDecimal_scale10 _ _

/-- Every finite value `float()` returns is a decimal. -/
theorem floatOfString_isDecimal {str : String} {q : Rat} (h : floatOfString str = some (.finite q)) : IsDecimal q := by
  unfold floatOfString at h
  obtain ⟨cs, -, h⟩ := Option.bind_eq_some.mp h
  dsimp only at h
  split at h
  · cases h; exact absurd ‹_› (infOrNan_ne_finite _ _)
  · obtain ⟨q', hq, he⟩ := Option.map_eq_some'.mp h
    cases he
    exact decimalValue_isDecimal hq

/-! ## Atoms -/

/-- Inversion of `Except.map` at a success. -/
theorem map_eq_ok {ε α β : Type} {f : α → β} {x : Except ε α} {b : β} (h : x.map f = .ok b) :
    ∃ a, x = .ok a ∧ f a = b := by
  cases x with
  | error e => cases h
  | ok a => exact ⟨a, rfl, Except.ok.inj h⟩

theorem ok_bind {ε α β : Type} (a : α) (f : α → Except ε β) : (Except.ok a >>= f) = f a := rfl

@[simp] theorem Json.isPyValue_obj_iff {fields : List (String × Json)} :
    (Json.obj fields).isPyValue ↔ (fields.map (·.1)).Nodup ∧ ∀ p ∈ fields, p.2.isPyValue := by
  simp [Json.isPyValue, Json.allPyMembers_iff]

@[simp] theorem Json.isPyValue_arr_iff {xs : List Json} : (Json.arr xs).isPyValue ↔ ∀ x ∈ xs, x.isPyValue := by
  simp [Json.isPyValue, Json.allPyValues_iff]

@[simp] theorem Json.isPyValue_str (s : String) : (Json.str s).isPyValue := rfl

@[simp] theorem Json.isPyValue_int (i : Int) : (Json.int i).isPyValue := rfl

@[simp] theorem Json.isPyValue_null : Json.null.isPyValue := rfl

@[simp] theorem Json.isPyValue_finite (x : Rat) : (Json.float (.finite x)).isPyValue ↔ IsDecimal x := by
  simp [Json.isPyValue]

@[simp] theorem Json.intsFit_obj_iff {fields : List (String × Json)} :
    (Json.obj fields).intsFit ↔ ∀ p ∈ fields, p.2.intsFit := by
  simp [Json.intsFit, Json.allMembersIntsFit_iff]

@[simp] theorem Json.intsFit_arr_iff {xs : List Json} : (Json.arr xs).intsFit ↔ ∀ x ∈ xs, x.intsFit := by
  simp [Json.intsFit, Json.allIntsFit_iff]

@[simp] theorem Json.intsFit_int (i : Int) : (Json.int i).intsFit = intFits i := rfl

@[simp] theorem Json.intsFit_str (s : String) : (Json.str s).intsFit := rfl

@[simp] theorem Json.intsFit_null : Json.null.intsFit := rfl

@[simp] theorem Json.intsFit_float (x : PyFloat) : (Json.float x).intsFit := rfl

/-- A value `json.dump` writes back (`loads_dump`): a Python value none of whose `int`s has
more than 4300 digits. -/
def Json.Reloadable (v : Json) : Prop :=
  v.isPyValue ∧ v.intsFit

@[simp] theorem Json.reloadable_obj_iff {fields : List (String × Json)} :
    (Json.obj fields).Reloadable ↔ (fields.map (·.1)).Nodup ∧ ∀ p ∈ fields, p.2.Reloadable := by
  simp only [Json.Reloadable, Json.isPyValue, Json.intsFit, Bool.and_eq_true, decide_eq_true_eq,
    Json.allPyMembers_iff, Json.allMembersIntsFit_iff]
  exact ⟨fun h => ⟨h.1.1, fun p hp => ⟨h.1.2 p hp, h.2 p hp⟩⟩,
    fun h => ⟨⟨h.1, fun p hp => (h.2 p hp).1⟩, fun p hp => (h.2 p hp).2⟩⟩

@[simp] theorem Json.reloadable_arr_iff {xs : List Json} : (Json.arr xs).Reloadable ↔ ∀ x ∈ xs, x.Reloadable := by
  simp only [Json.Reloadable, Json.isPyValue, Json.intsFit, Json.allPyValues_iff, Json.allIntsFit_iff]
  exact ⟨fun h x hx => ⟨h.1 x hx, h.2 x hx⟩, fun h => ⟨fun x hx => (h x hx).1, fun x hx => (h x hx).2⟩⟩

@[simp] theorem Json.reloadable_str (s : String) : (Json.str s).Reloadable := ⟨rfl, rfl⟩

@[simp] theorem Json.reloadable_null : Json.null.Reloadable := ⟨rfl, rfl⟩

@[simp] theorem Json.reloadable_bool (b : Bool) : (Json.bool b).Reloadable := ⟨rfl, rfl⟩

@[simp] theorem Json.reloadable_int (i : Int) : (Json.int i).Reloadable ↔ intFits i :=
  and_iff_right rfl

@[simp] theorem Json.reloadable_float (x : PyFloat) : (Json.float x).Reloadable ↔ ∀ q, x = .finite q → IsDecimal q := by
  cases x <;> simp [Json.Reloadable, Json.isPyValue, Json.intsFit]

/-- The number `_scan_once` builds from a match of `NUMBER_RE` is a value `json.dump` writes
back. -/
theorem numberValue_reloadable {integer frac exp : List Char} {v : Json} (h : numberValue integer frac exp = .ok v) :
    v.Reloadable := by
  unfold numberValue at h
  split_ifs at h
  · dsimp only at h
    split at h
    · cases h
      rename_i f hf
      simp only [Json.reloadable_float]
      rintro q rfl
      exact floatOfString_isDecimal hf
    · cases h
  · split at h <;> cases h
    exact (Json.reloadable_int _).mpr (pyInt_intFits ‹_›)

/-- Numbers, `NaN` and the infinities read by `_scan_once` are written back. -/
theorem scanNumber_reloadable {s rest : List Char} {v : Json} (h : (scanNumber s).map Subtype.val = .ok (v, rest)) :
    v.Reloadable := by
  unfold scanNumber at h
  split at h
  · obtain ⟨w, hw, he⟩ := map_eq_ok h
    obtain ⟨w', hw', rfl⟩ := map_eq_ok hw
    cases he
    exact numberValue_reloadable hw'
  · split_ifs at h <;> cases h <;> simp

/-- Every atom `_scan_once` reads is written back. -/
theorem scanAtom_reloadable {s rest : List Char} {v : Json} (h : (scanAtom s).map Subtype.val = .ok (v, rest)) :
    v.Reloadable := by
  unfold scanAtom at h
  split_ifs at h
  · cases h; simp
  · cases h; simp
  · cases h; simp
  · exact scanNumber_reloadable h

/-! ## What a call that returned has done -/

/-- A scanner that returned consumed at least one character. -/
theorem scanned_length {α : Type} {s rest : List Char} {x : Except LoadError (Scanned s α)} {a : α}
    (h : x.map Subtype.val = .ok (a, rest)) : rest.length < s.length := by
  rcases x with e | ⟨⟨a', r⟩, hr⟩
  · cases h
  · cases h; exact hr

/-- At a quote, `_scan_once` is `scanstring` with the string wrapped. -/
theorem scanOnce_quote (t : List Char) :
    (scanOnce ('"' :: t)).map Subtype.val = (scanString ('"' :: t) [] t).map fun p => (.str p.1, p.2) := by
  rw [scanOnce.eq_2, if_pos rfl]
  split <;> rename_i heq <;> (conv_rhs => rw [heq]) <;> rfl

/-- Inversion of `_scan_once`: a string, an object, an array, or an atom. -/
theorem scanOnce_cases {s rest : List Char} {v : Json} (h : (scanOnce s).map Subtype.val = .ok (v, rest)) :
    (∃ str : String, v = .str str) ∨
      (∃ t fields, s = '{' :: t ∧ v = .obj fields ∧ (parseObject t).map Subtype.val = .ok (fields, rest)) ∨
      (∃ t elems, s = '[' :: t ∧ v = .arr elems ∧ (parseArray t).map Subtype.val = .ok (elems, rest)) ∨
      (scanAtom s).map Subtype.val = .ok (v, rest) := by
  match s, h with
  | [], h => rw [scanOnce.eq_1] at h; cases h
  | c :: t, h =>
    by_cases h1 : c = '"'
    · subst h1
      rw [scanOnce_quote] at h
      obtain ⟨p, -, hp⟩ := map_eq_ok h
      exact .inl ⟨p.1, (Prod.mk.inj hp).1.symm⟩
    by_cases h2 : c = '{'
    · subst h2
      rw [scanOnce_brace] at h
      obtain ⟨p, hp, he⟩ := map_eq_ok h
      cases he
      exact .inr (.inl ⟨t, p.1, rfl, rfl, hp⟩)
    by_cases h3 : c = '['
    · subst h3
      rw [scanOnce_bracket] at h
      obtain ⟨p, hp, he⟩ := map_eq_ok h
      cases he
      exact .inr (.inr (.inl ⟨t, p.1, rfl, rfl, hp⟩))
    · rw [scanOnce_atom h1 h2 h3] at h
      exact .inr (.inr (.inr h))

/-- Inversion of `JSONArray`: the empty array, or its loop from the first value. -/
theorem parseArray_cases {t rest : List Char} {elems : List Json} (h : (parseArray t).map Subtype.val = .ok (elems, rest)) :
    (skipWs t = ']' :: rest ∧ elems = []) ∨ (arrayLoop [] (skipWs t)).map Subtype.val = .ok (elems, rest) := by
  rw [parseArray.eq_1] at h
  split at h
  · rename_i heq; cases h; exact .inl ⟨heq, rfl⟩
  · split at h
    · rename_i heq; cases h; right; rw [heq]; rfl
    · cases h

/-- Inversion of one round of `JSONArray`'s loop: a value, then the closing bracket or a comma and the next round. -/
theorem arrayLoop_cases {values res : List Json} {s rest : List Char}
    (h : (arrayLoop values s).map Subtype.val = .ok (res, rest)) :
    ∃ v s1, (scanOnce s).map Subtype.val = .ok (v, s1) ∧
      ((skipWs s1 = ']' :: rest ∧ res = values ++ [v]) ∨
        ∃ r, skipWs s1 = ',' :: r ∧ (arrayLoop (values ++ [v]) (skipWs r)).map Subtype.val = .ok (res, rest)) := by
  rw [arrayLoop.eq_1] at h
  split at h
  · cases h
  · rename_i v s1 hlt hs
    refine ⟨v, s1, by rw [hs]; rfl, ?_⟩
    split at h
    · rename_i heq; cases h; exact .inl ⟨heq, rfl⟩
    · rename_i r heq
      split at h
      · rename_i heq'; cases h; exact .inr ⟨r, heq, by rw [heq']; rfl⟩
      · cases h
    · cases h

/-- Inversion of `JSONObject`: the empty object, or its loop from the first key. -/
theorem parseObject_cases {t rest : List Char} {fields : List (String × Json)}
    (h : (parseObject t).map Subtype.val = .ok (fields, rest)) :
    (skipWs t = '}' :: rest ∧ fields = []) ∨
      ∃ r, skipWs t = '"' :: r ∧ (objectLoop [] r).map Subtype.val = .ok (fields, rest) := by
  rw [parseObject.eq_1] at h
  split at h
  · rename_i heq; cases h; exact .inl ⟨heq, rfl⟩
  · rename_i r heq
    split at h
    · rename_i heq'; cases h; exact .inr ⟨r, heq, by rw [heq']; rfl⟩
    · cases h
  · cases h

/-- Inversion of one round of `JSONObject`'s loop: key, colon and value, then the closing brace and `dict(pairs)`, or a comma, the next key's quote and the next round. -/
theorem objectLoop_cases {pairs res : List (String × Json)} {s rest : List Char}
    (h : (objectLoop pairs s).map Subtype.val = .ok (res, rest)) :
    ∃ key s1 s2 v s3, scanString ('"' :: s) [] s = .ok (key, s1) ∧ skipWs s1 = ':' :: s2 ∧
      (scanOnce (skipWs s2)).map Subtype.val = .ok (v, s3) ∧
      ((skipWs s3 = '}' :: rest ∧ res = dictOf (pairs ++ [(key, v)])) ∨
        ∃ r r', skipWs s3 = ',' :: r ∧ skipWs r = '"' :: r' ∧
          (objectLoop (pairs ++ [(key, v)]) r').map Subtype.val = .ok (res, rest)) := by
  rw [objectLoop.eq_1] at h
  split at h
  · cases h
  · rename_i key s1 hk
    split at h
    · rename_i s2 h2
      split at h
      · cases h
      · rename_i v s3 hlt hs
        refine ⟨key, s1, s2, v, s3, hk, h2, by rw [hs]; rfl, ?_⟩
        split at h
        · rename_i heq; cases h; exact .inl ⟨heq, rfl⟩
        · rename_i r heq
          split at h
          · rename_i r' heq'
            split at h
            · rename_i heq''; cases h; exact .inr ⟨r, r', heq, heq', by rw [heq'']; rfl⟩
            · cases h
          · cases h
        · cases h
    · cases h

/-! ## `dict(pairs)` -/

/-- Setting a key keeps the old entries or adds the new one. -/
theorem mem_dictModify_const {d : List (String × Json)} {k : String} {v : Json} {e : String × Json}
    (he : e ∈ dictModify d k v fun _ => v) : e ∈ d ∨ e = (k, v) := by
  unfold dictModify at he
  split at he
  · obtain ⟨e', he', rfl⟩ := List.mem_map.mp he
    split
    · exact .inr rfl
    · exact .inl he'
  · rcases List.mem_append.mp he with he | he
    · exact .inl he
    · exact .inr (List.mem_singleton.mp he)

/-- Setting a key keeps the keys distinct. -/
theorem dictModify_nodup {d : List (String × Json)} (hd : (d.map (·.1)).Nodup) (p : String × Json) :
    ((dictModify d p.1 p.2 fun _ => p.2).map (·.1)).Nodup :=
  (Grouped.modify (show Grouped Prod.fst (fun _ _ => True) d d from ⟨hd, fun c => by simp, fun _ _ => trivial⟩)
    (x := p) trivial fun _ _ _ => trivial).nodup

/-- `dict(pairs)` has distinct keys, and each of its entries is one of the pairs. -/
theorem dictOf_spec (pairs : List (String × Json)) :
    ((dictOf pairs).map (·.1)).Nodup ∧ ∀ e ∈ dictOf pairs, e ∈ pairs := by
  suffices ∀ d : List (String × Json), (d.map (·.1)).Nodup →
      ((pairs.foldl (fun d p => dictModify d p.1 p.2 fun _ => p.2) d).map (·.1)).Nodup ∧
        ∀ e ∈ pairs.foldl (fun d p => dictModify d p.1 p.2 fun _ => p.2) d, e ∈ d ∨ e ∈ pairs by
    obtain ⟨h1, h2⟩ := this [] List.nodup_nil
    exact ⟨h1, fun e he => (h2 e he).resolve_left (List.not_mem_nil _)⟩
  induction pairs with
  | nil => exact fun d hd => ⟨hd, fun e he => .inl he⟩
  | cons p ps ih =>
    intro d hd
    obtain ⟨h1, h2⟩ := ih _ (dictModify_nodup hd p)
    refine ⟨h1, fun e he => ?_⟩
    rcases h2 e he with he | he
    · rcases mem_dictModify_const he with he | rfl
      · exact .inl he
      · exact .inr (.head _)
    · exact .inr (.tail _ he)

theorem forall_mem_concat {α : Type} {p : α → Prop} {xs : List α} {x : α} (hxs : ∀ y ∈ xs, p y) (hx : p x) :
    ∀ y ∈ xs ++ [x], p y :=
  List.forall_mem_append.mpr ⟨hxs, List.forall_mem_singleton.mpr hx⟩

/-! ## Every value read -/

/-- `_scan_once` reads only values `json.dump` writes back from `s`. -/
def ScansReloadable (s : List Char) : Prop :=
  ∀ v rest, (scanOnce s).map Subtype.val = .ok (v, rest) → v.Reloadable

section Loops

variable {n : Nat} (hscan : ∀ s : List Char, s.length ≤ n → ScansReloadable s)
include hscan

/-- The loop of `JSONArray` appends values written back to values written back. -/
theorem arrayLoop_reloadable {s : List Char} (hs : s.length ≤ n) {values res : List Json} {rest : List Char}
    (hv : ∀ x ∈ values, x.Reloadable) (h : (arrayLoop values s).map Subtype.val = .ok (res, rest)) :
    ∀ x ∈ res, x.Reloadable := by
  obtain ⟨m, hlen⟩ : ∃ m, s.length = m := ⟨_, rfl⟩
  induction m using Nat.strong_induction_on generalizing s values with
  | _ m ih =>
    obtain ⟨v, s1, h1, ⟨-, rfl⟩ | ⟨r, hr, h'⟩⟩ := arrayLoop_cases h
    · exact forall_mem_concat hv (hscan s hs v s1 h1)
    · have hlt : (skipWs r).length < m :=
        hlen ▸ ((skipWs_length_le r).trans_lt (length_lt_of_skipWs hr)).trans (scanned_length h1)
      exact ih _ hlt (by omega) (forall_mem_concat hv (hscan s hs v s1 h1)) h' rfl

/-- The loop of `JSONObject` makes a dict of values written back from pairs of them. -/
theorem objectLoop_reloadable {s : List Char} (hs : s.length ≤ n) {pairs res : List (String × Json)}
    {rest : List Char} (hp : ∀ p ∈ pairs, p.2.Reloadable) (h : (objectLoop pairs s).map Subtype.val = .ok (res, rest)) :
    (Json.obj res).Reloadable := by
  obtain ⟨m, hlen⟩ : ∃ m, s.length = m := ⟨_, rfl⟩
  induction m using Nat.strong_induction_on generalizing s pairs with
  | _ m ih =>
    obtain ⟨key, s1, s2, v, s3, hk, h2, h3, ⟨-, rfl⟩ | ⟨r, r', h4, h5, h'⟩⟩ := objectLoop_cases h
    all_goals
      have hs2 : (skipWs s2).length < s.length :=
        ((skipWs_length_le s2).trans_lt (length_lt_of_skipWs h2)).trans (scanString_length hk)
      have hv : ∀ p ∈ pairs ++ [(key, v)], p.2.Reloadable :=
        forall_mem_concat hp (hscan _ (by omega) v s3 h3)
    · obtain ⟨hnodup, hmem⟩ := dictOf_spec (pairs ++ [(key, v)])
      exact Json.reloadable_obj_iff.mpr ⟨hnodup, fun e he => hv e (hmem e he)⟩
    · have hlt : r'.length < m :=
        hlen ▸ (((length_lt_of_skipWs h5).trans (length_lt_of_skipWs h4)).trans (scanned_length h3)).trans hs2
      exact ih _ hlt (by omega) hv h' rfl

end Loops

/-- **`json.loads` returns what `json.dump` writes back.** Every value `_scan_once` reads has
dicts with distinct keys, decimal floats, and `int`s of at most 4300 digits. -/
theorem scansReloadable (s : List Char) : ScansReloadable s := by
  obtain ⟨n, hlen⟩ : ∃ n, s.length = n := ⟨_, rfl⟩
  induction n using Nat.strong_induction_on generalizing s with
  | _ n ih =>
    intro v rest h
    rcases scanOnce_cases h with ⟨str, rfl⟩ | ⟨t, fields, rfl, rfl, hp⟩ | ⟨t, elems, rfl, rfl, hp⟩ | ha
    · simp
    · rcases parseObject_cases hp with ⟨-, rfl⟩ | ⟨r, hr, hl⟩
      · simp
      · have hlt : r.length < n := hlen ▸ Nat.lt_succ_of_lt (length_lt_of_skipWs hr)
        exact objectLoop_reloadable (fun s' hs' => ih _ (by omega) s' rfl) le_rfl (by simp) hl
    · rcases parseArray_cases hp with ⟨-, rfl⟩ | hl
      · simp
      · have hlt : (skipWs t).length < n := hlen ▸ Nat.lt_succ_of_le (skipWs_length_le t)
        exact Json.reloadable_arr_iff.mpr
          (arrayLoop_reloadable (fun s' hs' => ih _ (by omega) s' rfl) le_rfl (by simp) hl)
    · exact scanAtom_reloadable ha

/-- Every document `json.loads` accepts is a value `json.dump` writes back. -/
theorem loads_reloadable {doc : String} {v : Json} (h : loads doc = .ok v) : v.Reloadable := by
  unfold loads at h
  split_ifs at h
  rcases hs : scanOnce (skipWs doc.data) with e | ⟨⟨obj, rest⟩, hlt⟩
  · rw [hs] at h; cases h
  · rw [hs] at h
    dsimp only at h
    split_ifs at h
    cases h
    exact scansReloadable _ _ rest (by rw [hs]; rfl)

end Py

end SiteAuditor
