/-
# SiteAuditor.Python.CsvRoundTrip — what `csv.writer` writes, `csv.reader` reads back

`readCsv_writerows`: rows of `str` written with `writer.writerows` and read back with
`csv.reader` over the file are the same rows, when the line terminator is `"\n"` or
`"\r\n"` and every field `Fits`: it has at most `field_size_limit()` characters, and the
writer quotes it if it holds a `\r`. With `"\r\n"` the writer quotes every `\r`; with
pandas' `"\n"` it does not, and `bare_cr_splits_record` shows what then comes back: a
field `a\rb` with nothing else to quote is read as two records.

The reader takes the file line by line; the proofs take it event by event
(`readEvents`, `readRecords_eq`): the characters, with an `EOL` after each line. A line
ends after `\n` or a lone `\r` (`events_break`), and anywhere else the events are the
characters (`events_join`). Inside a quoted field an `EOL` changes nothing, so where the
lines of a quoted field end does not matter.
-/
import SiteAuditor.Python.Csv

namespace SiteAuditor

namespace Py

set_option autoImplicit false

/-- A field that `csv.reader` reads back as `csv.writer` wrote it: at most
`field_size_limit()` characters, and quoted by the writer if it holds a `\r`. -/
def Fits (lineterminator field : List Char) : Prop :=
  field.length ≤ fieldLimit ∧ ('\r' ∈ field → field.any (needsQuote lineterminator) = true)

instance (lineterminator field : List Char) : Decidable (Fits lineterminator field) :=
  inferInstanceAs (Decidable (_ ∧ _))

/-! ## Events -/

/-- The parser's input for some lines: each line's characters, then `EOL`. -/
def lineEvents (lines : List (List Char)) : List (Option Char) :=
  lines.flatMap fun line => line.map some ++ [none]

/-- `readRecords` over the events of its lines: a record ends at an `EOL` that leaves the
parser at `START_RECORD`. -/
def readEvents (r : Reader) : List (Option Char) → Except CsvError (List (List String))
  | [] => .ok (if r.field ≠ [] ∨ r.state = .inQuotedField then [r.saveField.fields] else [])
  | e :: es => do
    let r ← parseProcessChar r e
    if e = none ∧ r.state = .startRecord then
      let records ← readEvents Reader.reset es
      pure (r.fields :: records)
    else readEvents r es

theorem readEvents_some {r r' : Reader} {c : Char} (h : parseProcessChar r (some c) = .ok r')
    (es : List (Option Char)) : readEvents r (some c :: es) = readEvents r' es := by
  simp [readEvents, h, bind, Except.bind]

theorem readEvents_eol {r r' : Reader} (h : parseProcessChar r none = .ok r') (hs : r'.state ≠ .startRecord)
    (es : List (Option Char)) : readEvents r (none :: es) = readEvents r' es := by
  simp [readEvents, h, hs, bind, Except.bind]

theorem readEvents_record {r r' : Reader} (h : parseProcessChar r none = .ok r') (hs : r'.state = .startRecord)
    (es : List (Option Char)) :
    readEvents r (none :: es) = (do let records ← readEvents Reader.reset es; pure (r'.fields :: records)) := by
  simp [readEvents, h, hs, bind, Except.bind]

theorem readEvents_chars (r : Reader) (cs : List Char) (es : List (Option Char)) :
    readEvents r (cs.map some ++ es) =
      cs.foldlM (fun r c => parseProcessChar r (some c)) r >>= fun r => readEvents r es := by
  induction cs generalizing r with
  | nil => rfl
  | cons c cs ih =>
    rcases h : parseProcessChar r (some c) with e | r'
    · simp [readEvents, h, bind, Except.bind]
    · rw [List.map_cons, List.cons_append, readEvents_some h, ih]
      simp [h, bind, Except.bind]

/-- Reading line by line is reading the lines' events. -/
theorem readRecords_eq (r : Reader) (lines : List (List Char)) :
    readRecords r lines = readEvents r (lineEvents lines) := by
  induction lines generalizing r with
  | nil => rfl
  | cons line lines ih =>
    have hl : lineEvents (line :: lines) = line.map some ++ none :: lineEvents lines := by
      simp [lineEvents]
    rw [hl, readEvents_chars, readRecords, processLine, List.foldlM_append, List.foldlM_map]
    rcases line.foldlM (fun r c => parseProcessChar r (some c)) r with e | r'
    · rfl
    · rcases h : parseProcessChar r' none with e | r''
      · simp [readEvents, h, bind, Except.bind, pure, Except.pure]
      · by_cases hs : r''.state = .startRecord
        · simp [readEvents, h, hs, ih, bind, Except.bind, pure, Except.pure]
        · simp [readEvents, h, hs, ih, bind, Except.bind, pure, Except.pure]

theorem events_break {c : Char} {t : List Char} (h : c = '\n' ∨ (c = '\r' ∧ t.head? ≠ some '\n')) :
    lineEvents (fileLines (c :: t)) = some c :: none :: lineEvents (fileLines t) := by
  simp [fileLines, h, lineEvents]

theorem fileLines_ne_nil {t : List Char} (h : t ≠ []) : fileLines t ≠ [] := by
  obtain ⟨c, cs, rfl⟩ := List.exists_cons_of_ne_nil h
  simp only [fileLines]
  split_ifs
  · simp
  · split <;> simp

theorem events_join {c : Char} {t : List Char} (h : ¬(c = '\n' ∨ (c = '\r' ∧ t.head? ≠ some '\n')))
    (ht : t ≠ []) : lineEvents (fileLines (c :: t)) = some c :: lineEvents (fileLines t) := by
  rw [fileLines, if_neg h]
  rcases hl : fileLines t with _ | ⟨line, lines⟩
  · exact absurd hl (fileLines_ne_nil ht)
  · simp [lineEvents]

theorem events_head (c : Char) (t : List Char) :
    ∃ es, lineEvents (fileLines (c :: t)) = some c :: es := by
  by_cases h : c = '\n' ∨ (c = '\r' ∧ t.head? ≠ some '\n')
  · exact ⟨_, events_break h⟩
  · rw [fileLines, if_neg h]
    split <;> simp [lineEvents]

/-! ## One step of the parser -/

theorem addChar_ok {s : ParserState} {F : List String} {acc : List Char} (c : Char)
    (h : acc.length < fieldLimit) : Reader.addChar ⟨s, F, acc⟩ c = .ok ⟨s, F, acc ++ [c]⟩ := by
  simp [Reader.addChar, Nat.not_le.mpr h]

theorem step_startField {F : List String} {acc : List Char} {c : Char} (h1 : c ≠ '\n') (h2 : c ≠ '\r')
    (h3 : c ≠ '"') (h4 : c ≠ ',') (hlt : acc.length < fieldLimit) :
    parseProcessChar ⟨.startField, F, acc⟩ (some c) = .ok ⟨.inField, F, acc ++ [c]⟩ := by
  simp [parseProcessChar, startField, h1, h2, h3, h4, addChar_ok _ hlt, Except.map]

theorem step_inField {F : List String} {acc : List Char} {c : Char} (h1 : c ≠ '\n') (h2 : c ≠ '\r')
    (h4 : c ≠ ',') (hlt : acc.length < fieldLimit) :
    parseProcessChar ⟨.inField, F, acc⟩ (some c) = .ok ⟨.inField, F, acc ++ [c]⟩ := by
  simp [parseProcessChar, h1, h2, h4, addChar_ok _ hlt]

theorem step_inQuotedField {F : List String} {acc : List Char} {c : Char} (h : c ≠ '"')
    (hlt : acc.length < fieldLimit) :
    parseProcessChar ⟨.inQuotedField, F, acc⟩ (some c) = .ok ⟨.inQuotedField, F, acc ++ [c]⟩ := by
  simp [parseProcessChar, h, addChar_ok _ hlt]

theorem step_openQuote {F : List String} {acc : List Char} :
    parseProcessChar ⟨.startField, F, acc⟩ (some '"') = .ok ⟨.inQuotedField, F, acc⟩ := rfl

theorem step_quote {F : List String} {acc : List Char} :
    parseProcessChar ⟨.inQuotedField, F, acc⟩ (some '"') = .ok ⟨.quoteInQuotedField, F, acc⟩ := rfl

theorem step_inQuotedField_eol {F : List String} {acc : List Char} :
    parseProcessChar ⟨.inQuotedField, F, acc⟩ none = .ok ⟨.inQuotedField, F, acc⟩ := rfl

theorem step_eatCrnl {F : List String} {acc : List Char} {c : Char} (hc : c = '\n' ∨ c = '\r') :
    parseProcessChar ⟨.eatCrnl, F, acc⟩ (some c) = .ok ⟨.eatCrnl, F, acc⟩ := by
  simp [parseProcessChar, hc]

theorem step_eatCrnl_eol {F : List String} {acc : List Char} :
    parseProcessChar ⟨.eatCrnl, F, acc⟩ none = .ok ⟨.startRecord, F, acc⟩ := rfl

theorem step_startRecord_lineEnd {F : List String} {acc : List Char} {c : Char} (hc : c = '\n' ∨ c = '\r') :
    parseProcessChar ⟨.startRecord, F, acc⟩ (some c) = .ok ⟨.eatCrnl, F, acc⟩ := by
  rcases hc with rfl | rfl <;> rfl

theorem step_doubledQuote {F : List String} {acc : List Char} (hlt : acc.length < fieldLimit) :
    parseProcessChar ⟨.quoteInQuotedField, F, acc⟩ (some '"') = .ok ⟨.inQuotedField, F, acc ++ ['"']⟩ := by
  simp [parseProcessChar, addChar_ok _ hlt, Except.map]

/-- At the start of a record, a character that is no line end begins the first field. -/
theorem readEvents_startRecord {F : List String} {c : Char} (h1 : c ≠ '\n') (h2 : c ≠ '\r')
    (es : List (Option Char)) :
    readEvents ⟨.startRecord, F, []⟩ (some c :: es) = readEvents ⟨.startField, F, []⟩ (some c :: es) := by
  simp [readEvents, parseProcessChar, h1, h2]

/-- The states a field's text leaves the parser in, with the field read: after a bare
field, after the closing quote, or, for an empty bare field, still at its start. -/
def AfterField (s : ParserState) (field : List Char) : Prop :=
  s = .inField ∨ s = .quoteInQuotedField ∨ (s = .startField ∧ field = [])

theorem AfterField.delimiter {s : ParserState} {F : List String} {field : List Char}
    (h : AfterField s field) :
    parseProcessChar ⟨s, F, field⟩ (some ',') = .ok ⟨.startField, F ++ [String.mk field], []⟩ := by
  rcases h with rfl | rfl | ⟨rfl, rfl⟩ <;> rfl

theorem AfterField.lineEnd {s : ParserState} {F : List String} {field : List Char} {c : Char}
    (h : AfterField s field) (hc : c = '\n' ∨ c = '\r') :
    parseProcessChar ⟨s, F, field⟩ (some c) = .ok ⟨.eatCrnl, F ++ [String.mk field], []⟩ := by
  rcases hc with rfl | rfl <;> rcases h with rfl | rfl | ⟨rfl, rfl⟩ <;> rfl

/-! ## A field -/

/-- The data of a quoted field, quotes doubled, is read into the field; the `EOL`s of the
lines it spans change nothing. -/
theorem readEvents_quotedData (F : List String) (acc data t : List Char)
    (hlen : acc.length + data.length ≤ fieldLimit) :
    readEvents ⟨.inQuotedField, F, acc⟩ (lineEvents (fileLines (data.flatMap doubleQuote ++ '"' :: t))) =
      readEvents ⟨.inQuotedField, F, acc ++ data⟩ (lineEvents (fileLines ('"' :: t))) := by
  induction data generalizing acc with
  | nil => simp
  | cons x data ih =>
    have hlt : acc.length < fieldLimit := by simp at hlen; omega
    have ih' := ih (acc ++ [x]) (by simp at hlen ⊢; omega)
    rw [List.append_assoc, List.singleton_append] at ih'
    have hrest : data.flatMap doubleQuote ++ '"' :: t ≠ [] := by simp
    rw [List.flatMap_cons, List.append_assoc]
    by_cases hq : x = '"'
    · subst hq
      rw [show doubleQuote '"' = ['"', '"'] from rfl, List.cons_append, List.cons_append, List.nil_append,
        events_join (by simp) (List.cons_ne_nil _ _), events_join (by simp) hrest,
        readEvents_some step_quote, readEvents_some (step_doubledQuote hlt)]
      exact ih'
    · have hadd := step_inQuotedField (F := F) hq hlt
      rw [show doubleQuote x = [x] from if_neg hq, List.singleton_append]
      by_cases hb : x = '\n' ∨ (x = '\r' ∧ (data.flatMap doubleQuote ++ '"' :: t).head? ≠ some '\n')
      · rw [events_break hb, readEvents_some hadd, readEvents_eol step_inQuotedField_eol (by simp)]
        exact ih'
      · rw [events_join hb hrest, readEvents_some hadd]
        exact ih'

/-- The characters of a bare field are read into the field. -/
theorem readEvents_bareData (F : List String) (acc data t : List Char)
    (hdata : ∀ x ∈ data, x ≠ ',' ∧ x ≠ '"' ∧ x ≠ '\n' ∧ x ≠ '\r') (ht : t ≠ [])
    (hlen : acc.length + data.length ≤ fieldLimit) :
    readEvents ⟨.inField, F, acc⟩ (lineEvents (fileLines (data ++ t))) =
      readEvents ⟨.inField, F, acc ++ data⟩ (lineEvents (fileLines t)) := by
  induction data generalizing acc with
  | nil => simp
  | cons x data ih =>
    obtain ⟨h1, -, h3, h4⟩ := hdata x (.head _)
    have hlt : acc.length < fieldLimit := by simp at hlen; omega
    rw [List.cons_append, events_join (by simp [h3, h4]) (by simp [ht]),
      readEvents_some (step_inField h3 h4 h1 hlt),
      ih (acc ++ [x]) (fun y hy => hdata y (.tail _ hy)) (by simp at hlen ⊢; omega)]
    simp

theorem flatMap_doubleQuote_of_not_mem {data : List Char} (h : '"' ∉ data) : data.flatMap doubleQuote = data := by
  induction data with
  | nil => rfl
  | cons x data ih =>
    simp only [List.mem_cons, not_or] at h
    simp [doubleQuote, Ne.symm h.1, ih h.2]

theorem joinAppend_eq_nil {lineterminator field : List Char} {quoted : Bool}
    (h : joinAppend lineterminator field quoted = []) : field = [] := by
  unfold joinAppend at h
  split_ifs at h
  · simp at h
  · rcases field with _ | ⟨x, field⟩
    · rfl
    · simp only [List.flatMap_cons, doubleQuote] at h
      split_ifs at h <;> simp at h

theorem fits_nil (lineterminator : List Char) : Fits lineterminator [] :=
  ⟨by simp [fieldLimit], by simp⟩

/-- The characters of a field the writer leaves bare: no delimiter, no quote, and, when
`\n` ends the lines and the field `Fits`, no line end. -/
theorem bare_chars {lineterminator field : List Char} (hlf : '\n' ∈ lineterminator)
    (hfits : Fits lineterminator field) (hany : field.any (needsQuote lineterminator) = false) :
    ∀ x ∈ field, x ≠ ',' ∧ x ≠ '"' ∧ x ≠ '\n' ∧ x ≠ '\r' := by
  intro x hx
  obtain ⟨⟨h1, h2⟩, h3⟩ : (¬x = ',' ∧ ¬x = '"') ∧ x ∉ lineterminator := by
    simpa [needsQuote] using List.any_eq_false.mp hany x hx
  refine ⟨h1, h2, fun h => h3 (h ▸ hlf), fun h => ?_⟩
  subst h
  exact absurd (hfits.2 hx) (by simp [hany])

/-- A field's text, read from the start of a field, leaves the parser after the field with
the field read. -/
theorem readEvents_joinAppend {lineterminator : List Char} (hlf : '\n' ∈ lineterminator) (F : List String)
    {field : List Char} (hfits : Fits lineterminator field) (quoted : Bool) {t : List Char} (ht : t ≠ []) :
    ∃ s, AfterField s field ∧
      readEvents ⟨.startField, F, []⟩ (lineEvents (fileLines (joinAppend lineterminator field quoted ++ t))) =
        readEvents ⟨s, F, field⟩ (lineEvents (fileLines t)) := by
  unfold joinAppend
  split_ifs with hq
  · refine ⟨.quoteInQuotedField, .inr (.inl rfl), ?_⟩
    simp only [List.cons_append, List.append_assoc, List.singleton_append, List.nil_append]
    rw [events_join (by simp) (by simp), readEvents_some step_openQuote,
      readEvents_quotedData F [] field t (by simpa using hfits.1), List.nil_append,
      events_join (by simp) ht, readEvents_some step_quote]
  · have hbare := bare_chars hlf hfits (Bool.or_eq_false_iff.mp (Bool.eq_false_iff.mpr hq)).2
    rw [flatMap_doubleQuote_of_not_mem fun h => (hbare _ h).2.1 rfl]
    rcases field with _ | ⟨x, data⟩
    · exact ⟨.startField, .inr (.inr ⟨rfl, rfl⟩), rfl⟩
    · obtain ⟨h1, h2, h3, h4⟩ := hbare x (.head _)
      refine ⟨.inField, .inl rfl, ?_⟩
      rw [List.cons_append, events_join (by simp [h3, h4]) (by simp [ht]),
        readEvents_some (step_startField h3 h4 h2 h1 (by simp [fieldLimit])), List.nil_append,
        readEvents_bareData F [x] data t (fun y hy => hbare y (.tail _ hy)) ht
          (by have := hfits.1; simp at this ⊢; omega)]
      rfl

theorem joinAppend_head {lineterminator field : List Char} (hlf : '\n' ∈ lineterminator)
    (hfits : Fits lineterminator field) (quoted : Bool) :
    ∀ c ∈ (joinAppend lineterminator field quoted).head?, c ≠ '\n' ∧ c ≠ '\r' := by
  intro c hc
  unfold joinAppend at hc
  split_ifs at hc with hq
  · simp only [List.cons_append, List.head?_cons, Option.mem_def, Option.some.injEq] at hc
    subst hc
    decide
  · have hbare := bare_chars hlf hfits (Bool.or_eq_false_iff.mp (Bool.eq_false_iff.mpr hq)).2
    rw [flatMap_doubleQuote_of_not_mem fun h => (hbare _ h).2.1 rfl] at hc
    obtain ⟨-, -, h3, h4⟩ := hbare c (List.mem_of_mem_head? hc)
    exact ⟨h3, h4⟩

/-- A record whose text starts with no line end is read from the start of a field. -/
theorem readEvents_reset_of_head {s : List Char} (hs : s ≠ []) (h : ∀ c ∈ s.head?, c ≠ '\n' ∧ c ≠ '\r') :
    readEvents Reader.reset (lineEvents (fileLines s)) = readEvents ⟨.startField, [], []⟩ (lineEvents (fileLines s)) := by
  obtain ⟨c, t, rfl⟩ := List.exists_cons_of_ne_nil hs
  obtain ⟨h1, h2⟩ := h c rfl
  obtain ⟨es, hes⟩ := events_head c t
  rw [hes]
  exact readEvents_startRecord h1 h2 es

/-! ## A record -/

theorem intercalate_one {α : Type} (sep x : List α) : sep.intercalate [x] = x := by
  simp [List.intercalate]

theorem intercalate_cons₂ {α : Type} (sep x y : List α) (ys : List (List α)) :
    sep.intercalate (x :: y :: ys) = x ++ sep ++ sep.intercalate (y :: ys) := by
  simp [List.intercalate]

section Record

variable {lineterminator : List Char} (hlt : lineterminator = ['\n'] ∨ lineterminator = ['\r', '\n'])
include hlt

theorem lf_mem_lineterminator : '\n' ∈ lineterminator := by
  rcases hlt with rfl | rfl <;> simp

/-- The line terminator ends the record, from any state a line end takes to `EAT_CRNL`. -/
theorem readEvents_lineterminator {r : Reader} {G : List String}
    (hlf : parseProcessChar r (some '\n') = .ok ⟨.eatCrnl, G, []⟩)
    (hcr : parseProcessChar r (some '\r') = .ok ⟨.eatCrnl, G, []⟩) (rest : List Char) :
    readEvents r (lineEvents (fileLines (lineterminator ++ rest))) =
      (do let records ← readEvents Reader.reset (lineEvents (fileLines rest)); pure (G :: records)) := by
  rcases hlt with rfl | rfl
  · rw [List.singleton_append, events_break (.inl rfl), readEvents_some hlf,
      readEvents_record step_eatCrnl_eol rfl]
  · rw [List.cons_append, List.singleton_append, events_join (by simp) (by simp), events_break (.inl rfl),
      readEvents_some hcr, readEvents_some (step_eatCrnl (.inl rfl)), readEvents_record step_eatCrnl_eol rfl]

/-- The fields of a record, joined by the delimiter and ended by the line terminator, are
read as the record. -/
theorem readEvents_fields (F : List String) (row : List String) (hrow : row ≠ [])
    (hfits : ∀ field ∈ row, Fits lineterminator field.data) (rest : List Char) :
    readEvents ⟨.startField, F, []⟩ (lineEvents (fileLines
        ([','].intercalate (row.map fun field => joinAppend lineterminator field.data false) ++
          lineterminator ++ rest))) =
      (do let records ← readEvents Reader.reset (lineEvents (fileLines rest)); pure ((F ++ row) :: records)) := by
  induction row generalizing F with
  | nil => exact absurd rfl hrow
  | cons field row ih =>
    have hlt' : lineterminator ≠ [] := by rcases hlt with rfl | rfl <;> simp
    rcases row with _ | ⟨next, row⟩
    · obtain ⟨s, hs, heq⟩ := readEvents_joinAppend (lf_mem_lineterminator hlt) F (hfits field (.head _)) false
        (t := lineterminator ++ rest) (by simp [hlt'])
      simp only [List.map_cons, List.map_nil, intercalate_one]
      rw [List.append_assoc, heq, readEvents_lineterminator hlt (hs.lineEnd (.inl rfl)) (hs.lineEnd (.inr rfl))]
    · have hsplit : [','].intercalate ((field :: next :: row).map fun f => joinAppend lineterminator f.data false) =
          joinAppend lineterminator field.data false ++
            ',' :: [','].intercalate ((next :: row).map fun f => joinAppend lineterminator f.data false) := by
        simp [List.intercalate, List.intersperse]
      obtain ⟨s, hs, heq⟩ := readEvents_joinAppend (lf_mem_lineterminator hlt) F (hfits field (.head _)) false
        (t := ',' :: ([','].intercalate ((next :: row).map fun f => joinAppend lineterminator f.data false) ++
          lineterminator ++ rest)) (List.cons_ne_nil _ _)
      rw [hsplit, List.append_assoc, List.append_assoc, List.cons_append, ← List.append_assoc, heq,
        events_join (by simp) (by simp [hlt']), readEvents_some hs.delimiter,
        ih _ (List.cons_ne_nil _ _) (fun f hf => hfits f (.tail _ hf))]
      simp

theorem record_head (field : String) (row : List String)
    (hfits : ∀ f ∈ field :: row, Fits lineterminator f.data) :
    ∀ c ∈ ([','].intercalate ((field :: row).map fun f => joinAppend lineterminator f.data false)).head?,
      c ≠ '\n' ∧ c ≠ '\r' := by
  have hfield := joinAppend_head (lf_mem_lineterminator hlt) (hfits field (.head _)) false
  rcases row with _ | ⟨next, row⟩
  · rwa [List.map_cons, List.map_nil, intercalate_one]
  · rw [List.map_cons, List.map_cons, intercalate_cons₂]
    rcases hj : joinAppend lineterminator field.data false with _ | ⟨c0, cs⟩
    · intro c hc
      simp only [List.nil_append, List.singleton_append, List.head?_cons, Option.mem_def,
        Option.some.injEq] at hc
      subst hc
      decide
    · rw [hj] at hfield
      simpa using hfield

/-- A row written by `csv_writerow` is read back as the row. -/
theorem readEvents_writerow (row : List String) (hfits : ∀ field ∈ row, Fits lineterminator field.data)
    (rest : List Char) :
    readEvents Reader.reset (lineEvents (fileLines (writerow lineterminator row ++ rest))) =
      (do let records ← readEvents Reader.reset (lineEvents (fileLines rest)); pure (row :: records)) := by
  have hlt' : lineterminator ≠ [] := by rcases hlt with rfl | rfl <;> simp
  rcases row with _ | ⟨field, row⟩
  · exact readEvents_lineterminator hlt (step_startRecord_lineEnd (.inl rfl)) (step_startRecord_lineEnd (.inr rfl)) rest
  · rw [writerow]
    by_cases hrec : [','].intercalate ((field :: row).map fun f => joinAppend lineterminator f.data false) = []
    · -- a record of one empty field, written `""`
      obtain ⟨rfl, rfl⟩ : field = "" ∧ row = [] := by
        rcases row with _ | ⟨next, row⟩
        · rw [List.map_cons, List.map_nil, intercalate_one] at hrec
          exact ⟨String.ext (joinAppend_eq_nil hrec), rfl⟩
        · simp [intercalate_cons₂] at hrec
      obtain ⟨s, hs, heq⟩ := readEvents_joinAppend (lf_mem_lineterminator hlt) [] (fits_nil lineterminator)
        true (t := lineterminator ++ rest) (by simp [hlt'])
      rw [if_pos ⟨List.cons_ne_nil _ _, hrec⟩, List.append_assoc,
        readEvents_reset_of_head (by simp [joinAppend]) (by simp [joinAppend]), heq,
        readEvents_lineterminator hlt (hs.lineEnd (.inl rfl)) (hs.lineEnd (.inr rfl))]
      rfl
    · rw [if_neg fun h => hrec h.2, List.append_assoc,
        readEvents_reset_of_head (by simp [hlt'])
          (by rw [List.head?_append_of_ne_nil _ hrec]; exact record_head hlt field row hfits),
        ← List.append_assoc, readEvents_fields hlt [] _ (List.cons_ne_nil _ _) hfits]
      simp

/-- **What `csv.writer` writes, `csv.reader` reads back.** Rows of `str` written with
`writer.writerows` to a file, then read with `csv.reader` over the file opened with
`newline=""`, are the rows written, when every field `Fits`. -/
theorem readCsv_writerows (rows : List (List String))
    (hfits : ∀ row ∈ rows, ∀ field ∈ row, Fits lineterminator field.data) :
    readCsv (writerows lineterminator rows) = .ok rows := by
  rw [readCsv, readRecords_eq]
  induction rows with
  | nil => rfl
  | cons row rows ih =>
    rw [writerows, List.flatMap_cons, readEvents_writerow hlt row (hfits row (.head _)), ← writerows,
      ih fun r hr => hfits r (.tail _ hr)]
    rfl

end Record

theorem joinAppend_bare {lineterminator field : List Char} (h : field.any (needsQuote lineterminator) = false) :
    joinAppend lineterminator field false = field := by
  have hq : '"' ∉ field := fun hm => by
    simpa [needsQuote] using List.any_eq_false.mp h _ hm
  simp [joinAppend, h, flatMap_doubleQuote_of_not_mem hq]

/-- With pandas' line terminator `"\n"`, a field `a\rb` that holds nothing else to quote is
written bare, and `csv.reader` reads it back as two records, `a` and `b`. -/
theorem bare_cr_splits_record {a b : List Char} (ha : a ≠ []) (hb : b ≠ [])
    (hbare : ∀ x ∈ a ++ b, x ≠ ',' ∧ x ≠ '"' ∧ x ≠ '\n' ∧ x ≠ '\r') (hlen : a.length + b.length < fieldLimit) :
    readCsv (writerow ['\n'] [String.mk (a ++ '\r' :: b)]) = .ok [[String.mk a], [String.mk b]] := by
  have hany : ∀ {l : List Char}, (∀ x ∈ l, x ≠ ',' ∧ x ≠ '"' ∧ x ≠ '\n' ∧ x ≠ '\r') →
      l.any (needsQuote ['\n']) = false := fun hl =>
    List.any_eq_false.mpr fun x hx => by simp [needsQuote, hl x hx]
  have hA : ∀ x ∈ a, x ≠ ',' ∧ x ≠ '"' ∧ x ≠ '\n' ∧ x ≠ '\r' := fun x hx => hbare x (by simp [hx])
  have hB : ∀ x ∈ b, x ≠ ',' ∧ x ≠ '"' ∧ x ≠ '\n' ∧ x ≠ '\r' := fun x hx => hbare x (by simp [hx])
  have hcr : (a ++ '\r' :: b).any (needsQuote ['\n']) = false := by
    simp [List.any_append, hany hA, hany hB, needsQuote]
  have hwb : writerow ['\n'] [String.mk b] = b ++ ['\n'] := by
    simp [writerow, joinAppend_bare (hany hB), hb, intercalate_one]
  obtain ⟨x, a', rfl⟩ := List.exists_cons_of_ne_nil ha
  obtain ⟨h1, h2, h3, h4⟩ := hA x (.head _)
  obtain ⟨y, b', rfl⟩ := List.exists_cons_of_ne_nil hb
  obtain ⟨-, -, hy, -⟩ := hB y (.head _)
  have hfb : Fits ['\n'] (y :: b') := ⟨by simp at hlen ⊢; omega, fun hm => absurd rfl (hB _ hm).2.2.2⟩
  have hwb' : y :: (b' ++ ['\n']) = writerow ['\n'] [String.mk (y :: b')] ++ [] := by
    rw [hwb, List.append_nil, List.cons_append]
  simp only [writerow, joinAppend_bare hcr, List.map_cons, List.map_nil, intercalate_one]
  rw [if_neg (by simp), readCsv, readRecords_eq]
  simp only [List.cons_append, List.append_assoc]
  rw [events_join (by simp [h3, h4]) (by simp), Reader.reset, readEvents_startRecord h3 h4,
    readEvents_some (step_startField h3 h4 h2 h1 (by simp [fieldLimit])), List.nil_append,
    readEvents_bareData [] [x] a' _ (fun z hz => hA z (.tail _ hz)) (by simp) (by simp at hlen ⊢; omega),
    events_break (.inr ⟨rfl, by simp [hy]⟩), readEvents_some (AfterField.lineEnd (.inl rfl) (.inr rfl)),
    readEvents_record step_eatCrnl_eol rfl, hwb', readEvents_writerow (.inl rfl) _ (by simpa using hfb)]
  rfl

/-- A title `Home\rPage` written with `"\n"` comes back as the records `Home` and `Page`. -/
theorem home_cr_page_splits :
    readCsv (writerow ['\n'] [String.mk ("Home".data ++ '\r' :: "Page".data)]) = .ok [["Home"], ["Page"]] :=
  bare_cr_splits_record (by decide) (by decide) (by decide) (by decide)

end Py

end SiteAuditor
