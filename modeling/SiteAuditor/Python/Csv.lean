/-
# SiteAuditor.Python.Csv — the `csv` module's writer and reader, default dialect

`export_results` writes `audit_results.csv` with `df.to_csv`, and pandas writes the file
with `csv.writer`; the other scripts' `csv.DictWriter` is the same writer. This module
follows CPython 3.11's `_csv.c` for the default dialect, `excel`: delimiter `,`, quote
character `"`, a quote inside a field doubled, no `escapechar`, `QUOTE_MINIMAL`, and
`strict` and `skipinitialspace` off. The line terminator is a parameter: `"\r\n"` is the
writer's default, pandas passes `os.linesep`, `"\n"` on POSIX.

* The writer (`csv_writerow`, `join_append_data`) quotes a field only when it holds the
  delimiter, the quote character or a character of the line terminator, and writes a
  record of one empty field as `""`.
* The reader is `parse_process_char`'s state machine, fed each line of the file and then
  `EOL`; `Reader_iternext` returns a record at the end of a line that leaves the machine
  at `START_RECORD`. Adding a character to a field that already has `field_size_limit()`
  (131072) characters raises `csv.Error`.
* A file opened with `newline=""` yields lines that end in `\n`, in `\r\n`, or in a `\r`
  no `\n` follows (`fileLines`).

Without an `escapechar` the states `ESCAPED_CHAR`, `ESCAPE_IN_QUOTED_FIELD` and
`AFTER_ESCAPED_CRNL` are never entered; they are left out.
-/
import SiteAuditor.Python.Str

namespace SiteAuditor

namespace Py

set_option autoImplicit false

/-- `field_size_limit()` at its default. -/
def fieldLimit : Nat := 131072

/-- `_csv.Error`, with its message. -/
structure CsvError where
  message : String
deriving DecidableEq, Repr

/-! ## The writer -/

/-- The characters `join_append_data` quotes a field for: the delimiter, the quote character
and those of the line terminator. -/
def needsQuote (lineterminator : List Char) (c : Char) : Bool :=
  c = ',' || c = '"' || c ∈ lineterminator

/-- `join_append_data`'s copy of one character: a quote is doubled. -/
def doubleQuote (c : Char) : List Char :=
  if c = '"' then ['"', c] else [c]

/-- `join_append(self, field, quoted)`: the field's characters, quotes doubled, in quotes
when `quoted` is asked or when one of them needs it. -/
def joinAppend (lineterminator : List Char) (field : List Char) (quoted : Bool) : List Char :=
  if quoted || field.any (needsQuote lineterminator) then '"' :: field.flatMap doubleQuote ++ ['"']
  else field.flatMap doubleQuote

/-- `csv_writerow` for a row of `str`: the fields joined by the delimiter, a record of one
empty field written as `""` (so that it is not read back as an empty line), then the line
terminator. -/
def writerow (lineterminator : List Char) (row : List String) : List Char :=
  let record := [','].intercalate (row.map fun field => joinAppend lineterminator field.data false)
  (if row ≠ [] ∧ record = [] then joinAppend lineterminator [] true else record) ++ lineterminator

/-- `writer.writerows(rows)`. -/
def writerows (lineterminator : List Char) (rows : List (List String)) : List Char :=
  rows.flatMap (writerow lineterminator)

/-! ## The reader -/

/-- The states of `parse_process_char` the default dialect enters. -/
inductive ParserState
  | startRecord
  | startField
  | inField
  | inQuotedField
  | quoteInQuotedField
  | eatCrnl
deriving DecidableEq, Repr

/-- A reader's parse: its state, the record's fields so far, and the field being read. -/
structure Reader where
  state : ParserState
  fields : List String
  field : List Char
deriving DecidableEq, Repr

/-- `parse_reset`. -/
def Reader.reset : Reader := ⟨.startRecord, [], []⟩

/-- `parse_save_field`: the field joins the record's fields and a new one begins. -/
def Reader.saveField (r : Reader) : Reader :=
  { r with fields := r.fields ++ [String.mk r.field], field := [] }

/-- `parse_add_char`, which raises once the field holds `field_size_limit()` characters. -/
def Reader.addChar (r : Reader) (c : Char) : Except CsvError Reader :=
  if fieldLimit ≤ r.field.length then .error ⟨"field larger than field limit (131072)"⟩
  else .ok { r with field := r.field ++ [c] }

/-- The `START_FIELD` case, which `START_RECORD` falls through to on a character that
begins a field. -/
def startField (r : Reader) : Option Char → Except CsvError Reader
  | none => .ok { r.saveField with state := .startRecord }
  | some c =>
    if c = '\n' ∨ c = '\r' then .ok { r.saveField with state := .eatCrnl }
    else if c = '"' then .ok { r with state := .inQuotedField }
    else if c = ',' then .ok r.saveField
    else (r.addChar c).map ({ · with state := .inField })

/-- `parse_process_char(self, c)`; `none` is `EOL`, fed after each line. -/
def parseProcessChar (r : Reader) (c : Option Char) : Except CsvError Reader :=
  match r.state with
  | .startRecord =>
    if c = none then .ok r
    else if c = some '\n' ∨ c = some '\r' then .ok { r with state := .eatCrnl }
    else startField { r with state := .startField } c
  | .startField => startField r c
  | .inField =>
    match c with
    | none => .ok { r.saveField with state := .startRecord }
    | some c =>
      if c = '\n' ∨ c = '\r' then .ok { r.saveField with state := .eatCrnl }
      else if c = ',' then .ok { r.saveField with state := .startField }
      else r.addChar c
  | .inQuotedField =>
    match c with
    | none => .ok r
    | some c => if c = '"' then .ok { r with state := .quoteInQuotedField } else r.addChar c
  | .quoteInQuotedField =>
    match c with
    | none => .ok { r.saveField with state := .startRecord }
    | some c =>
      if c = '"' then (r.addChar c).map ({ · with state := .inQuotedField })
      else if c = ',' then .ok { r.saveField with state := .startField }
      else if c = '\n' ∨ c = '\r' then .ok { r.saveField with state := .eatCrnl }
      else (r.addChar c).map ({ · with state := .inField })
  | .eatCrnl =>
    match c with
    | none => .ok { r with state := .startRecord }
    | some c =>
      if c = '\n' ∨ c = '\r' then .ok r
      else .error ⟨"new-line character seen in unquoted field - do you need to open the file with newline=\x27\x27?"⟩

/-- One line through the parser: its characters, then `EOL`. -/
def processLine (r : Reader) (line : List Char) : Except CsvError Reader :=
  (line.map some ++ [none]).foldlM parseProcessChar r

/-- `list(reader)`: `Reader_iternext` until the lines run out. A record starts from
`parse_reset` and takes lines until one leaves the parser at `START_RECORD`; when the lines
run out inside a record, a field begun or an open quote is saved and the record returned. -/
def readRecords (r : Reader) : List (List Char) → Except CsvError (List (List String))
  | [] => .ok (if r.field ≠ [] ∨ r.state = .inQuotedField then [r.saveField.fields] else [])
  | line :: lines => do
    let r ← processLine r line
    if r.state = .startRecord then
      let records ← readRecords Reader.reset lines
      pure (r.fields :: records)
    else readRecords r lines

/-! ## The file's lines -/

/-- The lines `for line in f` yields for a file opened with `newline=""` that holds `s`:
a line ends after a `\n`, after a `\r` that no `\n` follows, or where the text ends; any
other character belongs to the line of the characters after it. -/
def fileLines : List Char → List (List Char)
  | [] => []
  | c :: cs =>
    if c = '\n' ∨ (c = '\r' ∧ cs.head? ≠ some '\n') then [c] :: fileLines cs
    else
      match fileLines cs with
      | [] => [[c]]
      | line :: lines => (c :: line) :: lines

/-- `list(csv.reader(open(path, newline="")))` for a file holding `text`. -/
def readCsv (text : List Char) : Except CsvError (List (List String)) :=
  readRecords Reader.reset (fileLines text)

end Py

end SiteAuditor
