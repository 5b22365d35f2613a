/-
# SiteAuditor.Python.JsonRoundTrip — what `json.dump` writes, `json.loads` reads back

The auditor writes its report with `json.dump(results, f, indent=2, ensure_ascii=False)`
(`Py.dump`), and the price script writes its five files the same way. `loads_dump` says that
`json.loads` (`Py.loads`) reads back exactly the value written, for every value a Python
program can hold (`Json.isPyValue`): each dict has distinct keys, and each finite float is a
decimal, as every double is. A `str` of `Json` is a Lean `String`, whose characters are
Unicode scalar values, so the values here are those whose strings hold no lone surrogate
(`JsonLoad` says where the reader meets one). `json.dump` writes the text only when no `int`
has more than 4300 digits (`Json.intsFit`); otherwise `int.__repr__` raises.

The proof follows the encoder. A value's text is followed, inside a list or a dict, by `,` or
by the newline before a closing bracket (`Ends`), and no value's text starts with whitespace
or a closing bracket (`iterencode_head`), so the decoder's whitespace skips stop exactly at
the next item:

* `scanString_encode`: `py_scanstring` decodes every escape `ESCAPE_DCT` writes;
* `scanNumber_intText` and `scanNumber_floatstr` (`NumberRepr`): numbers read back;
* one step lemma per branch of the loops of `JSONArray` and `JSONObject`;
* `scanOnce_iterencode`, by recursion over the value together with its list's items and its
  dict's members, as `_iterencode` recurses; `dictOf_of_nodup`: `dict(pairs)` of pairs with
  distinct keys is those pairs.
-/
import SiteAuditor.Python.NumberRepr

namespace SiteAuditor

namespace Py

set_option autoImplicit false

/-! ## Strings -/

theorem hexValue_hexDigit {n : Nat} (h : n < 16) : hexValue (hexDigit n) = some n :=
  (by decide : ∀ n < 16, hexValue (hexDigit n) = some n) n h

/-- A backslash and the escape `ESCAPE_DCT` writes for `esc` read back as `ch`. -/
theorem scanString_backslash {quote acc rest t : List Char} {ch : Char} (h : readEscape quote rest = .ok (ch, t)) :
    scanString quote acc ('\\' :: rest) = scanString quote (acc ++ [ch]) t := by
  rw [scanString, if_neg (by decide), if_pos rfl]
  split
  · rename_i heq
    rw [h] at heq
    cases heq
    rfl
  · rename_i heq
    rw [h] at heq
    cases heq

theorem scanString_plain {quote acc t : List Char} {c : Char} (h1 : c ≠ '"') (h2 : c ≠ '\\') (h3 : ¬c.toNat < 0x20) :
    scanString quote acc (c :: t) = scanString quote (acc ++ [c]) t := by
  rw [scanString, if_neg h1, if_neg h2, if_neg h3]

/-- `py_scanstring` reads each escape `encode_basestring` writes as the character escaped. -/
theorem scanString_escapeChar (quote acc : List Char) (c : Char) (t : List Char) :
    scanString quote acc (escapeChar c ++ t) = scanString quote (acc ++ [c]) t := by
  by_cases hshort : c = '\\' ∨ c = '"' ∨ c = '\x08' ∨ c = '\x0c' ∨ c = '\n' ∨ c = '\r' ∨ c = '\t'
  · rcases hshort with rfl | rfl | rfl | rfl | rfl | rfl | rfl <;> exact scanString_backslash rfl
  obtain ⟨h1, h2, h3, h4, h5, h6, h7⟩ : c ≠ '\\' ∧ c ≠ '"' ∧ c ≠ '\x08' ∧ c ≠ '\x0c' ∧ c ≠ '\n' ∧ c ≠ '\r' ∧
      c ≠ '\t' := by simpa only [not_or] using hshort
  have hesc : escapeChar c = if c.toNat < 0x20 then
      ['\\', 'u', '0', '0', hexDigit (c.toNat / 16), hexDigit (c.toNat % 16)] else [c] := by
    unfold escapeChar
    rw [if_neg h1, if_neg h2, if_neg h3, if_neg h4, if_neg h5, if_neg h6, if_neg h7]
  by_cases h8 : c.toNat < 0x20
  · have hq : c.toNat / 16 < 16 := by omega
    have hhex : hex4 '0' '0' (hexDigit (c.toNat / 16)) (hexDigit (c.toNat % 16)) = some c.toNat := by
      simp only [hex4, hexValue_hexDigit hq, hexValue_hexDigit (Nat.mod_lt _ (by decide : 16 > 0))]
      show some (((0 * 16 + 0) * 16 + c.toNat / 16) * 16 + c.toNat % 16) = some c.toNat
      congr 1
      omega
    rw [hesc, if_pos h8]
    simp only [List.cons_append, List.nil_append]
    refine scanString_backslash ?_
    simp only [readEscape, hhex, joinSurrogate, charOf]
    rw [if_neg (by omega), if_pos (.inl (by omega)), Char.ofNat_toNat]
    rfl
  · rw [hesc, if_neg h8]
    exact scanString_plain h2 h1 h8

/-- `py_scanstring` reads back the characters `encode_basestring` escapes, up to the closing
quote. -/
theorem scanString_encode (quote acc s rest : List Char) :
    scanString quote acc (s.flatMap escapeChar ++ '"' :: rest) = .ok (⟨acc ++ s⟩, rest) := by
  induction s generalizing acc with
  | nil => rw [List.flatMap_nil, List.nil_append, scanString, if_pos rfl, List.append_nil]
  | cons c s ih =>
    rw [List.flatMap_cons, List.append_assoc, scanString_escapeChar, ih, List.append_assoc]
    rfl

/-- The key `encode_basestring` writes reads back, up to its closing quote. -/
theorem scanString_key (k : String) (t : List Char) :
    scanString ('"' :: (k.data.flatMap escapeChar ++ '"' :: t)) [] (k.data.flatMap escapeChar ++ '"' :: t) =
      .ok (k, t) :=
  scanString_encode _ [] k.data t

theorem encodeBasestring_append (s : String) (rest : List Char) :
    encodeBasestring s ++ rest = '"' :: (s.data.flatMap escapeChar ++ '"' :: rest) := by
  simp [encodeBasestring]

/-! ## The branches of `_scan_once` -/

theorem scanOnce_encodeBasestring (s : String) (rest : List Char) :
    (scanOnce (encodeBasestring s ++ rest)).map Subtype.val = .ok (.str s, rest) := by
  have h := scanString_encode ('"' :: (s.data.flatMap escapeChar ++ '"' :: rest)) [] s.data rest
  rw [encodeBasestring_append, scanOnce.eq_2, if_pos rfl]
  split
  · rename_i heq
    rw [h] at heq
    cases heq
    rfl
  · rename_i heq
    rw [h] at heq
    cases heq

theorem scanOnce_brace (t : List Char) :
    (scanOnce ('{' :: t)).map Subtype.val = ((parseObject t).map Subtype.val).map fun p => (.obj p.1, p.2) := by
  rw [scanOnce.eq_2, if_neg (by decide), if_pos rfl]
  rcases parseObject t with e | ⟨⟨fields, rest⟩, h⟩ <;> rfl

theorem scanOnce_bracket (t : List Char) :
    (scanOnce ('[' :: t)).map Subtype.val = ((parseArray t).map Subtype.val).map fun p => (.arr p.1, p.2) := by
  rw [scanOnce.eq_2, if_neg (by decide), if_neg (by decide), if_pos rfl]
  rcases parseArray t with e | ⟨⟨elems, rest⟩, h⟩ <;> rfl

theorem scanOnce_atom {c : Char} {t : List Char} (h1 : c ≠ '"') (h2 : c ≠ '{') (h3 : c ≠ '[') :
    scanOnce (c :: t) = scanAtom (c :: t) := by
  rw [scanOnce.eq_2, if_neg h1, if_neg h2, if_neg h3]

theorem scanAtom_number {c : Char} {t : List Char} (hn : c ≠ 'n') (ht : c ≠ 't') (hf : c ≠ 'f') :
    scanAtom (c :: t) = scanNumber (c :: t) := by
  unfold scanAtom
  rw [dif_neg (by simp [hn]), dif_neg (by simp [ht]), dif_neg (by simp [hf])]

/-! ## The loops of `JSONArray` and `JSONObject`, one step at a time -/

theorem parseArray_close {t rest : List Char} (h : skipWs t = ']' :: rest) :
    (parseArray t).map Subtype.val = .ok ([], rest) := by
  rw [parseArray.eq_1]
  split
  · rename_i heq
    rw [h] at heq
    cases heq
    rfl
  · rename_i hne
    exact absurd h (hne rest)

theorem parseArray_open {t : List Char} (h : ∀ rest, skipWs t ≠ ']' :: rest) :
    (parseArray t).map Subtype.val = (arrayLoop [] (skipWs t)).map Subtype.val := by
  rw [parseArray.eq_1]
  split
  · rename_i heq
    exact absurd heq (h _)
  · rcases arrayLoop [] (skipWs t) with e | ⟨r, hr⟩ <;> rfl

theorem arrayLoop_close {values : List Json} {s s1 rest : List Char} {v : Json}
    (h1 : (scanOnce s).map Subtype.val = .ok (v, s1)) (h2 : skipWs s1 = ']' :: rest) :
    (arrayLoop values s).map Subtype.val = .ok (values ++ [v], rest) := by
  rw [arrayLoop.eq_1]
  rcases hs : scanOnce s with e | ⟨⟨v', s1'⟩, h⟩
  · rw [hs] at h1; cases h1
  · rw [hs] at h1
    cases h1
    dsimp only
    split
    · rename_i heq
      rw [h2] at heq
      cases heq
      rfl
    · rename_i heq
      rw [h2] at heq
      cases heq
    · rename_i hne _
      exact absurd h2 (hne rest)

theorem arrayLoop_comma {values : List Json} {s s1 r : List Char} {v : Json}
    (h1 : (scanOnce s).map Subtype.val = .ok (v, s1)) (h2 : skipWs s1 = ',' :: r) :
    (arrayLoop values s).map Subtype.val = (arrayLoop (values ++ [v]) (skipWs r)).map Subtype.val := by
  rw [arrayLoop.eq_1]
  rcases hs : scanOnce s with e | ⟨⟨v', s1'⟩, h⟩
  · rw [hs] at h1; cases h1
  · rw [hs] at h1
    cases h1
    dsimp only
    split
    · rename_i heq
      rw [h2] at heq
      cases heq
    · rename_i heq
      rw [h2] at heq
      cases heq
      rcases arrayLoop (values ++ [v]) (skipWs r) with e | ⟨res, hres⟩ <;> rfl
    · rename_i _ hne
      exact absurd h2 (hne r)

theorem parseObject_close {t rest : List Char} (h : skipWs t = '}' :: rest) :
    (parseObject t).map Subtype.val = .ok ([], rest) := by
  rw [parseObject.eq_1]
  split
  · rename_i heq
    rw [h] at heq
    cases heq
    rfl
  · rename_i heq
    rw [h] at heq
    cases heq
  · rename_i hne _
    exact absurd h (hne rest)

theorem parseObject_key {t r : List Char} (h : skipWs t = '"' :: r) :
    (parseObject t).map Subtype.val = (objectLoop [] r).map Subtype.val := by
  rw [parseObject.eq_1]
  split
  · rename_i heq
    rw [h] at heq
    cases heq
  · rename_i heq
    rw [h] at heq
    cases heq
    rcases objectLoop [] r with e | ⟨res, hres⟩ <;> rfl
  · rename_i _ hne
    exact absurd h (hne r)

theorem objectLoop_close {pairs : List (String × Json)} {s s1 s2 s3 rest : List Char} {key : String} {v : Json}
    (hk : scanString ('"' :: s) [] s = .ok (key, s1)) (h2 : skipWs s1 = ':' :: s2)
    (h3 : (scanOnce (skipWs s2)).map Subtype.val = .ok (v, s3)) (h4 : skipWs s3 = '}' :: rest) :
    (objectLoop pairs s).map Subtype.val = .ok (dictOf (pairs ++ [(key, v)]), rest) := by
  rw [objectLoop.eq_1]
  split
  · rename_i heq
    rw [hk] at heq
    cases heq
  · rename_i heq
    rw [hk] at heq
    cases heq
    split
    · rename_i heq
      rw [h2] at heq
      cases heq
      dsimp only
      rcases hs : scanOnce (skipWs s2) with e | ⟨⟨v', s3'⟩, h⟩
      · rw [hs] at h3; cases h3
      · rw [hs] at h3
        cases h3
        dsimp only
        split
        · rename_i heq
          rw [h4] at heq
          cases heq
          rfl
        · rename_i heq
          rw [h4] at heq
          cases heq
        · rename_i hne _
          exact absurd h4 (hne rest)
    · rename_i hne
      exact absurd h2 (hne s2)

theorem objectLoop_comma {pairs : List (String × Json)} {s s1 s2 s3 r r' : List Char} {key : String} {v : Json}
    (hk : scanString ('"' :: s) [] s = .ok (key, s1)) (h2 : skipWs s1 = ':' :: s2)
    (h3 : (scanOnce (skipWs s2)).map Subtype.val = .ok (v, s3)) (h4 : skipWs s3 = ',' :: r)
    (h5 : skipWs r = '"' :: r') :
    (objectLoop pairs s).map Subtype.val = (objectLoop (pairs ++ [(key, v)]) r').map Subtype.val := by
  rw [objectLoop.eq_1]
  split
  · rename_i heq
    rw [hk] at heq
    cases heq
  · rename_i heq
    rw [hk] at heq
    cases heq
    split
    · rename_i heq
      rw [h2] at heq
      cases heq
      dsimp only
      rcases hs : scanOnce (skipWs s2) with e | ⟨⟨v', s3'⟩, h⟩
      · rw [hs] at h3; cases h3
      · rw [hs] at h3
        cases h3
        dsimp only
        split
        · rename_i heq
          rw [h4] at heq
          cases heq
        · rename_i heq
          rw [h4] at heq
          cases heq
          split
          · rename_i heq
            rw [h5] at heq
            cases heq
            rcases objectLoop (pairs ++ [(key, v)]) r' with e | ⟨res, hres⟩ <;> rfl
          · rename_i hne
            exact absurd h5 (hne r')
        · rename_i _ hne
          exact absurd h4 (hne r)
    · rename_i hne
      exact absurd h2 (hne s2)

/-- `dict(pairs)` of pairs with distinct keys is those pairs, in their order. -/
theorem dictOf_of_nodup {pairs : List (String × Json)} (h : (pairs.map (·.1)).Nodup) : dictOf pairs = pairs := by
  suffices ∀ acc : List (String × Json), ((acc ++ pairs).map (·.1)).Nodup →
      pairs.foldl (fun d p => dictModify d p.1 p.2 fun _ => p.2) acc = acc ++ pairs from this [] h
  clear h
  induction pairs with
  | nil => intro acc _; simp
  | cons p pairs ih =>
    intro acc hnd
    have hp : ¬acc.any (·.1 = p.1) := by
      rw [List.map_append, List.map_cons] at hnd
      have := (List.pairwise_append.mp hnd).2.2
      simp only [List.any_eq_true, decide_eq_true_eq, not_exists, not_and]
      exact fun q hq heq => this q.1 (List.mem_map_of_mem _ hq) p.1 (.head _) heq
    rw [List.foldl_cons, dictModify, if_neg hp, ih (acc ++ [(p.1, p.2)]) (by simpa using hnd)]
    simp

/-! ## The values a Python program holds -/

mutual

/-- A value a Python program can hold: each dict has distinct keys, and each finite float is
a decimal, as every double is. -/
def Json.isPyValue : Json → Bool
  | .float (.finite x) => decide (IsDecimal x)
  | .arr xs => Json.allPyValues xs
  | .obj fields => decide (fields.map (·.1)).Nodup && Json.allPyMembers fields
  | _ => true

/-- Every item of a list is a Python value. -/
def Json.allPyValues : List Json → Bool
  | [] => true
  | x :: xs => x.isPyValue && Json.allPyValues xs

/-- Every value of a dict's members is a Python value. -/
def Json.allPyMembers : List (String × Json) → Bool
  | [] => true
  | (_, v) :: fields => v.isPyValue && Json.allPyMembers fields

end

example : (Json.obj [("a", .arr [.int 1, .str "x"]), ("b", .null)]).isPyValue := by decide

example : (Json.obj [("a", .null), ("a", .null)]).isPyValue = false := by decide

theorem Json.allPyValues_iff {xs : List Json} : Json.allPyValues xs ↔ ∀ x ∈ xs, x.isPyValue := by
  induction xs with
  | nil => simp [Json.allPyValues]
  | cons x xs ih => simp [Json.allPyValues, ih]

theorem Json.allPyMembers_iff {fs : List (String × Json)} : Json.allPyMembers fs ↔ ∀ p ∈ fs, p.2.isPyValue := by
  induction fs with
  | nil => simp [Json.allPyMembers]
  | cons p fs ih => obtain ⟨k, v⟩ := p; simp [Json.allPyMembers, ih]

theorem Json.allIntsFit_iff {xs : List Json} : Json.allIntsFit xs ↔ ∀ x ∈ xs, x.intsFit := by
  induction xs with
  | nil => simp [Json.allIntsFit]
  | cons x xs ih => simp [Json.allIntsFit, ih]

theorem Json.allMembersIntsFit_iff {fs : List (String × Json)} :
    Json.allMembersIntsFit fs ↔ ∀ p ∈ fs, p.2.intsFit := by
  induction fs with
  | nil => simp [Json.allMembersIntsFit]
  | cons p fs ih => obtain ⟨k, v⟩ := p; simp [Json.allMembersIntsFit, ih]

theorem Json.isPyValue_float {x : PyFloat} (h : (Json.float x).isPyValue) : ∀ q, x = .finite q → IsDecimal q := by
  rintro q rfl
  simpa [Json.isPyValue] using h

/-! ## Whitespace and the first character of a value -/

theorem skipWs_of_head {c : Char} {t : List Char} (h : isJsonSpace c = false) : skipWs (c :: t) = c :: t :=
  List.dropWhile_cons_of_neg (by simp [h])

theorem skipWs_space (t : List Char) : skipWs (' ' :: t) = skipWs t :=
  List.dropWhile_cons_of_pos rfl

theorem skipWs_newlineIndent (level : Nat) (t : List Char) : skipWs (newlineIndent level ++ t) = skipWs t := by
  unfold skipWs newlineIndent
  rw [List.dropWhile_append_of_pos (fun c hc => ?_)]
  rcases List.mem_cons.mp hc with rfl | hc
  · rfl
  · rw [List.eq_of_mem_replicate hc]
    rfl

theorem skipWs_close (level : Nat) {c : Char} (hc : isJsonSpace c = false) (rest : List Char) :
    skipWs (newlineIndent level ++ c :: rest) = c :: rest := by
  rw [skipWs_newlineIndent, skipWs_of_head hc]

theorem Literal.Valid.text_head {l : Literal} (hl : l.Valid) :
    ∃ c t, l.text = c :: t ∧ (c = '-' ∨ c.isDigit) := by
  obtain ⟨c, tl, h, hc, -⟩ := hl.int_head
  unfold Literal.text Literal.intText
  cases l.neg
  · exact ⟨c, tl ++ (l.fracText ++ l.expText), by simp [h], .inr hc⟩
  · exact ⟨'-', l.int ++ (l.fracText ++ l.expText), by simp, .inl rfl⟩

/-- The first character of a number's text. -/
theorem number_head {c : Char} (h : c = '-' ∨ c.isDigit ∨ c = 'N' ∨ c = 'I') :
    isJsonSpace c = false ∧ c ≠ ']' ∧ c ≠ '"' ∧ c ≠ '{' ∧ c ≠ '[' ∧ c ≠ 'n' ∧ c ≠ 't' ∧ c ≠ 'f' := by
  rcases h with rfl | h | rfl | rfl
  · decide
  · have := isDigit_iff.mp h
    have hne : ∀ d : Char, d.toNat < 48 ∨ 57 < d.toNat → c ≠ d := fun d hd e => by subst e; omega
    simp only [isJsonSpace, Bool.or_eq_false_iff, decide_eq_false_iff_not]
    repeat' constructor
    all_goals exact hne _ (by decide)
  · decide
  · decide

theorem scanOnce_number {c : Char} {t : List Char} (h : c = '-' ∨ c.isDigit ∨ c = 'N' ∨ c = 'I') :
    scanOnce (c :: t) = scanNumber (c :: t) := by
  obtain ⟨-, -, h1, h2, h3, hn, ht, hf⟩ := number_head h
  rw [scanOnce_atom h1 h2 h3, scanAtom_number hn ht hf]

theorem intText_head (i : Int) : ∃ c t, intText i = c :: t ∧ (c = '-' ∨ c.isDigit ∨ c = 'N' ∨ c = 'I') := by
  obtain ⟨c, t, h, hc⟩ := (intLiteral_valid i).text_head
  have : (intLiteral i).text = intText i := by
    rw [Literal.text, intLiteral_intText]
    simp [Literal.fracText, Literal.expText, intLiteral]
  exact ⟨c, t, this ▸ h, hc.imp_right .inl⟩

theorem floatstr_head {x : PyFloat} (hx : ∀ q, x = .finite q → IsDecimal q) :
    ∃ c t, floatstr x = c :: t ∧ (c = '-' ∨ c.isDigit ∨ c = 'N' ∨ c = 'I') := by
  cases x with
  | finite q =>
    obtain ⟨l, hl, -, htext, -⟩ := reprFinite_literal (hx q rfl)
    obtain ⟨c, t, h, hc⟩ := hl.text_head
    exact ⟨c, t, by rw [floatstr, htext, h], hc.imp_right .inl⟩
  | nan => exact ⟨'N', _, rfl, by simp⟩
  | inf => exact ⟨'I', _, rfl, by simp⟩
  | negInf => exact ⟨'-', _, rfl, .inl rfl⟩

/-- No value's text starts with whitespace or with a closing bracket, and each starts with an
ASCII character. -/
theorem iterencode_head {v : Json} (hv : v.isPyValue) (level : Nat) :
    ∃ c t, iterencode level v = c :: t ∧ isJsonSpace c = false ∧ c ≠ ']' ∧ c.toNat < 0x80 := by
  have ofNumber : ∀ {l : List Char}, (∃ c t, l = c :: t ∧ (c = '-' ∨ c.isDigit ∨ c = 'N' ∨ c = 'I')) →
      ∃ c t, l = c :: t ∧ isJsonSpace c = false ∧ c ≠ ']' ∧ c.toNat < 0x80 := fun ⟨c, t, h, hc⟩ =>
    ⟨c, t, h, (number_head hc).1, (number_head hc).2.1, by
      rcases hc with rfl | hc | rfl | rfl
      · decide
      · have := isDigit_iff.mp hc
        omega
      · decide
      · decide⟩
  cases v with
  | null => exact ⟨'n', _, rfl, rfl, by decide, by decide⟩
  | bool b => cases b <;> exact ⟨_, _, rfl, rfl, by decide, by decide⟩
  | int i => exact ofNumber (intText_head i)
  | float x => exact ofNumber (floatstr_head (Json.isPyValue_float hv))
  | str s => exact ⟨'"', _, rfl, rfl, by decide, by decide⟩
  | arr xs => cases xs <;> exact ⟨'[', _, rfl, rfl, by decide, by decide⟩
  | obj fs =>
    rcases fs with _ | ⟨⟨k, v⟩, fs⟩ <;> exact ⟨'{', _, rfl, rfl, by decide, by decide⟩

/-- Skipping the indent before an item stops at the item's text. -/
theorem skipWs_item {v : Json} (hv : v.isPyValue) (level : Nat) (t : List Char) :
    skipWs (newlineIndent level ++ iterencode level v ++ t) = iterencode level v ++ t := by
  obtain ⟨c, u, h, hc, -, -⟩ := iterencode_head hv level
  rw [List.append_assoc, skipWs_newlineIndent, h, List.cons_append, skipWs_of_head hc]

/-! ## Reading a dumped value back -/

/-- `_scan_once` reads `v` back from its text at indentation `level`, whatever a dumped
document puts after it. -/
def ReadsBack (level : Nat) (v : Json) : Prop :=
  ∀ rest, Ends rest → (scanOnce (iterencode level v ++ rest)).map Subtype.val = .ok (v, rest)

theorem Ends.comma (r : List Char) : Ends (',' :: r) :=
  .inr (.inl ⟨r, rfl⟩)

theorem Ends.newlineIndent (level : Nat) (t : List Char) : Ends (newlineIndent level ++ t) :=
  .inr (.inr ⟨_, rfl⟩)

/-- The loop of `JSONArray` reads the items `_iterencode_list` writes, up to the closing
bracket. -/
theorem arrayLoop_iterencodeItems {level : Nat} {close rest : List Char} (hends : Ends close)
    (hclose : skipWs close = ']' :: rest) :
    ∀ (xs : List Json) (x : Json) (values : List Json), (∀ y ∈ x :: xs, y.isPyValue ∧ ReadsBack level y) →
      (arrayLoop values (iterencode level x ++ (iterencodeItems level xs ++ close))).map Subtype.val =
        .ok (values ++ x :: xs, rest)
  | [], x, values, h => by
    rw [iterencodeItems, List.nil_append]
    exact arrayLoop_close ((h x (.head _)).2 close hends) hclose
  | y :: ys, x, values, h => by
    have hy := (h y (.tail _ (.head _))).1
    have hstep := @arrayLoop_comma values _ _ _ _ ((h x (.head _)).2 _ (.comma
      (newlineIndent level ++ iterencode level y ++ (iterencodeItems level ys ++ close))))
      (skipWs_of_head rfl)
    rw [skipWs_item hy,
      arrayLoop_iterencodeItems hends hclose ys y (values ++ [x]) fun z hz => h z (.tail _ hz)] at hstep
    have htext : iterencode level x ++ (iterencodeItems level (y :: ys) ++ close) = iterencode level x ++
        ',' :: (newlineIndent level ++ iterencode level y ++ (iterencodeItems level ys ++ close)) := by
      simp [iterencodeItems]
    rw [htext, hstep, List.append_assoc, List.singleton_append]

/-- The loop of `JSONObject` reads the members `_iterencode_dict` writes, up to the closing
brace, into the dict of the pairs read. -/
theorem objectLoop_iterencodeMembers {level : Nat} {close rest : List Char} (hends : Ends close)
    (hclose : skipWs close = '}' :: rest) :
    ∀ (fields : List (String × Json)) (k : String) (v : Json) (pairs : List (String × Json)),
      (∀ p ∈ (k, v) :: fields, p.2.isPyValue ∧ ReadsBack level p.2) →
      (objectLoop pairs (k.data.flatMap escapeChar ++ '"' :: ':' :: ' ' ::
          (iterencode level v ++ (iterencodeMembers level fields ++ close)))).map Subtype.val =
        .ok (dictOf (pairs ++ (k, v) :: fields), rest)
  | fields, k, v, pairs, h => by
    obtain ⟨hv, hread⟩ : v.isPyValue ∧ ReadsBack level v := h (k, v) (.head _)
    obtain ⟨c, u, hcu, hc, -, -⟩ := iterencode_head hv level
    have hs2 : skipWs (' ' :: (iterencode level v ++ (iterencodeMembers level fields ++ close))) =
        iterencode level v ++ (iterencodeMembers level fields ++ close) := by
      rw [skipWs_space, hcu, List.cons_append, skipWs_of_head hc]
    have hk := scanString_key k (':' :: ' ' :: (iterencode level v ++ (iterencodeMembers level fields ++ close)))
    cases fields with
    | nil =>
      have hm : iterencodeMembers level [] ++ close = close := rfl
      rw [hm] at hs2 hk ⊢
      have h3 := hread close hends
      rw [← hs2] at h3
      exact objectLoop_close hk (skipWs_of_head rfl) h3 hclose
    | cons p fields =>
      obtain ⟨k', v'⟩ := p
      have hmembers : iterencodeMembers level ((k', v') :: fields) ++ close =
          ',' :: (newlineIndent level ++ '"' :: (k'.data.flatMap escapeChar ++ '"' :: ':' :: ' ' ::
            (iterencode level v' ++ (iterencodeMembers level fields ++ close)))) := by
        simp [iterencodeMembers, encodeBasestring]
      have h3 := hread (iterencodeMembers level ((k', v') :: fields) ++ close) (by rw [hmembers]; exact .comma _)
      rw [← hs2] at h3
      rw [hmembers] at h3 hk ⊢
      rw [objectLoop_comma hk (skipWs_of_head rfl) h3 (skipWs_of_head rfl)
        (by rw [skipWs_newlineIndent, skipWs_of_head (by decide : isJsonSpace '"' = false)]),
        objectLoop_iterencodeMembers hends hclose fields k' v' (pairs ++ [(k, v)]) fun q hq => h q (.tail _ hq)]
      simp

mutual

/-- **`_scan_once` ∘ `_iterencode` = id.** The decoder reads every Python value back from the
text the encoder writes for it, at any indentation, followed by anything a dumped document
puts after a value, when no `int` of it has more than 4300 digits. -/
theorem scanOnce_iterencode : ∀ (v : Json), v.isPyValue → v.intsFit → ∀ level, ReadsBack level v
  | .null, _, _, _ => fun rest _ => by
    rw [show iterencode _ (.null) ++ rest = 'n' :: ('u' :: 'l' :: 'l' :: rest) from rfl, scanOnce_atom (by decide) (by decide) (by decide)]
    rfl
  | .bool true, _, _, _ => fun rest _ => by
    rw [show iterencode _ (.bool true) ++ rest = 't' :: ('r' :: 'u' :: 'e' :: rest) from rfl, scanOnce_atom (by decide) (by decide) (by decide)]
    rfl
  | .bool false, _, _, _ => fun rest _ => by
    rw [show iterencode _ (.bool false) ++ rest = 'f' :: ('a' :: 'l' :: 's' :: 'e' :: rest) from rfl, scanOnce_atom (by decide) (by decide) (by decide)]
    rfl
  | .int i, _, hfit, level => fun rest hr => by
    obtain ⟨c, t, h, hc⟩ := intText_head i
    rw [iterencode, h, List.cons_append, scanOnce_number hc, ← List.cons_append, ← h, scanNumber_intText hfit hr]
  | .float x, hv, _, level => fun rest hr => by
    obtain ⟨c, t, h, hc⟩ := floatstr_head (Json.isPyValue_float hv)
    rw [iterencode, h, List.cons_append, scanOnce_number hc, ← List.cons_append, ← h,
      scanNumber_floatstr (Json.isPyValue_float hv) hr]
  | .str s, _, _, _ => fun rest _ => scanOnce_encodeBasestring s rest
  | .arr [], _, _, _ => fun rest _ => by
    rw [show iterencode _ (.arr []) ++ rest = '[' :: ']' :: rest from rfl, scanOnce_bracket,
      parseArray_close (skipWs_of_head rfl)]
    rfl
  | .arr (x :: xs), hv, hfit, level => fun rest _ => by
    have hall := Json.allPyValues_iff.mp hv
    have hitems := scanOnce_iterencode_items (x :: xs) hv hfit (level + 1)
    obtain ⟨c, t, hct, hc, hcb, -⟩ := iterencode_head (hall x (.head _)) (level + 1)
    have htext : iterencode level (.arr (x :: xs)) ++ rest = '[' :: (newlineIndent (level + 1) ++
        (iterencode (level + 1) x ++ (iterencodeItems (level + 1) xs ++ (newlineIndent level ++ ']' :: rest)))) := by
      simp [iterencode]
    have hskip : skipWs (newlineIndent (level + 1) ++ (iterencode (level + 1) x ++
        (iterencodeItems (level + 1) xs ++ (newlineIndent level ++ ']' :: rest)))) =
        iterencode (level + 1) x ++ (iterencodeItems (level + 1) xs ++ (newlineIndent level ++ ']' :: rest)) := by
      rw [skipWs_newlineIndent, hct, List.cons_append, skipWs_of_head hc]
    rw [htext, scanOnce_bracket, parseArray_open (fun r h => hcb (by rw [hskip, hct] at h; exact (List.cons.inj h).1)),
      hskip, arrayLoop_iterencodeItems (.newlineIndent _ _) (skipWs_close level (by decide : isJsonSpace ']' = false) rest) xs x []
        fun y hy => ⟨hall y hy, hitems y hy⟩]
    rfl
  | .obj [], _, _, _ => fun rest _ => by
    rw [show iterencode _ (.obj []) ++ rest = '{' :: '}' :: rest from rfl, scanOnce_brace,
      parseObject_close (skipWs_of_head rfl)]
    rfl
  | .obj ((k, v) :: fs), hv, hfit, level => fun rest _ => by
    simp only [Json.isPyValue, Bool.and_eq_true, decide_eq_true_eq] at hv
    have hall := Json.allPyMembers_iff.mp hv.2
    have hmem := scanOnce_iterencode_members ((k, v) :: fs) hv.2 hfit (level + 1)
    have htext : iterencode level (.obj ((k, v) :: fs)) ++ rest = '{' :: (newlineIndent (level + 1) ++ '"' ::
        (k.data.flatMap escapeChar ++ '"' :: ':' :: ' ' :: (iterencode (level + 1) v ++
          (iterencodeMembers (level + 1) fs ++ (newlineIndent level ++ '}' :: rest))))) := by
      simp [iterencode, encodeBasestring]
    rw [htext, scanOnce_brace, parseObject_key (skipWs_close (level + 1) (by decide : isJsonSpace '"' = false) _),
      objectLoop_iterencodeMembers (.newlineIndent _ _) (skipWs_close level (by decide : isJsonSpace '}' = false) rest)
        fs k v [] fun p hp => ⟨hall p hp, hmem p hp⟩, List.nil_append, dictOf_of_nodup hv.1]
    rfl

/-- Each item of a list of Python values reads back. -/
theorem scanOnce_iterencode_items :
    ∀ (xs : List Json), Json.allPyValues xs → Json.allIntsFit xs → ∀ level, ∀ y ∈ xs, ReadsBack level y
  | [], _, _, _, _, hy => absurd hy (List.not_mem_nil _)
  | x :: xs, h, hfit, level, y, hy => by
    simp only [Json.allPyValues, Json.allIntsFit, Bool.and_eq_true] at h hfit
    rcases List.mem_cons.mp hy with rfl | hy
    · exact scanOnce_iterencode y h.1 hfit.1 level
    · exact scanOnce_iterencode_items xs h.2 hfit.2 level y hy

/-- Each value of the members of a dict of Python values reads back. -/
theorem scanOnce_iterencode_members : ∀ (fs : List (String × Json)), Json.allPyMembers fs →
    Json.allMembersIntsFit fs → ∀ level, ∀ p ∈ fs, ReadsBack level p.2
  | [], _, _, _, _, hp => absurd hp (List.not_mem_nil _)
  | (k, v) :: fs, h, hfit, level, p, hp => by
    simp only [Json.allPyMembers, Json.allMembersIntsFit, Bool.and_eq_true] at h hfit
    rcases List.mem_cons.mp hp with rfl | hp
    · exact scanOnce_iterencode v h.1 hfit.1 level
    · exact scanOnce_iterencode_members fs h.2 hfit.2 level p hp

end

/-- `json.loads` of a text that starts with a value's first character, neither whitespace nor
a byte order mark, is the value `_scan_once` reads there, when only whitespace follows it. -/
theorem loads_of_scanOnce {c : Char} {t rest : List Char} {v : Json} (hc : isJsonSpace c = false)
    (hbom : c ≠ Char.ofNat 0xFEFF) (h : (scanOnce (c :: t)).map Subtype.val = .ok (v, rest))
    (hrest : skipWs rest = []) : loads ⟨c :: t⟩ = .ok v := by
  rw [← skipWs_of_head hc] at h
  unfold loads
  rw [if_neg (by simpa using hbom)]
  rcases hs : scanOnce (skipWs (String.mk (c :: t)).data) with e | ⟨⟨obj, r⟩, hlt⟩
  · rw [hs] at h; cases h
  · rw [hs] at h
    cases h
    simp [hrest]

/-- `json.loads` reads back the text `_iterencode` writes at the top level. -/
theorem loads_iterencode {v : Json} (hv : v.isPyValue) (hfit : v.intsFit) : loads ⟨iterencode 0 v⟩ = .ok v := by
  obtain ⟨c, t, hct, hc, -, hascii⟩ := iterencode_head hv 0
  have hread := scanOnce_iterencode v hv hfit 0 [] (.inl rfl)
  rw [List.append_nil, hct] at hread
  rw [hct]
  exact loads_of_scanOnce hc (fun h => absurd (h ▸ hascii) (by decide)) hread rfl

end Py

end SiteAuditor
