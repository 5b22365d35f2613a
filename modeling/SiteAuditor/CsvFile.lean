/-
# SiteAuditor.CsvFile — the text of `audit_results.csv`

`export_results` first writes the report with `json.dump` (`reportText`), and an exception
there ends it before the CSV is written (`exportResults`). It ends with
`df.to_csv(OUTPUT_CSV, index=False)`: pandas writes the header `CSV_COLUMNS`, then each row
of the sorted frame, with `csv.writer` (`lineterminator` is `os.linesep`), after turning each
column's values into text (`_get_values_for_csv`).

What a value becomes depends on its column's dtype, which `pd.DataFrame(rows)` infers
from the whole column (`maybe_convert_objects`):

* `status_code`, `load_time_ms` and `ttfb_ms` hold ints or `None`. With no `None` the
  column is `int64`, and a value is written `str(n)`; with one `None` the column is
  `float64`, every value is written as the double (`repr`, so `200.0`), and `NaN` as
  `na_rep`, `""`.
* `cls` holds the `int`s and `float`s `round(cls_value, 4)` returns, or `None`. When every
  value is an `int` the column is `int64` and a value is written `str(n)`; otherwise a value
  is written as the double, and `None` as `""`.
* The counts are `int64`: `str(n)`.
* The text columns are `object`: the string itself, or `""` for `None`.

A float is the exact rational of the model, so an int written in a `float64` column is
exact (pandas rounds one beyond 2^53 to a double), and an `int64` value is written with no
limit on its digits (an `int` beyond 64 bits makes an `object` column, whose `str(n)` is the
same text).

* `exportCsv_reads_back`: when the report is written, the file, read back with
  `csv.reader`, is the header and then one row per record, in `(category, url)` order, with
  the values above, when every value `Fits` (with pandas' `"\n"`: a value holding a `\r`
  also holds a `,`, a `"` or a `\n`).
-/
import SiteAuditor.Report
import SiteAuditor.Python.CsvRoundTrip

namespace SiteAuditor

open Py

set_option autoImplicit false

/-- `CSV_COLUMNS`. -/
def csvColumns : List String :=
  ["category", "url", "status_code", "load_time_ms", "ttfb_ms", "request_count", "total_bytes",
    "seo_title", "seo_meta_description", "seo_canonical", "seo_h1", "seo_robots",
    "images_total", "images_missing_alt", "images_broken",
    "error_count", "responsive_issue_count", "a11y_violation_count", "cls"]

/-- The dict `export_results` appends has the keys of `CSV_COLUMNS`, in that order. -/
theorem CsvRow.cells_keys (row : CsvRow) : row.cells.map Prod.fst = csvColumns := rfl

/-! ## The values of the frame -/

/-- Whether each column of optional numbers is `int64`. -/
structure IntColumns where
  statusCode : Bool
  loadTimeMs : Bool
  ttfbMs : Bool
  cls : Bool
deriving DecidableEq, Repr

/-- Whether a CLS score is an `int`. -/
def isIntScore : Option Score → Bool
  | some (.int _) => true
  | _ => false

/-- The dtypes `pd.DataFrame(rows, columns=CSV_COLUMNS)` infers for the columns of optional
numbers: `int64` when every value is an `int`. -/
def intColumns (rows : List CsvRow) : IntColumns where
  statusCode := rows.all (·.statusCode.isSome)
  loadTimeMs := rows.all (·.loadTimeMs.isSome)
  ttfbMs := rows.all (·.ttfbMs.isSome)
  cls := rows.all (isIntScore ·.cls)

/-- `str(n)`, as `to_csv` writes a value of an `int64` column. -/
def intCell (n : Int) : String :=
  String.mk (intText n)

/-- A value of a column of optional ints: `str(n)` in an `int64` column; in a `float64`
one the double's `repr`, and `na_rep`, `""`, for `NaN`. -/
def optIntCell (int64 : Bool) : Option Int → String
  | some n => if int64 then intCell n else String.mk (reprFinite n)
  | none => ""

/-- A value of an `object` column of strings: the string, or `""` for `None`. -/
def optStrCell : Option String → String
  | some s => s
  | none => ""

/-- A value of the column `cls`: `str(n)` in an `int64` column; in a `float64` one the
double's `repr`, and `na_rep`, `""`, for `NaN`. -/
def clsCell (int64 : Bool) : Option Score → String
  | some (.int n) => if int64 then intCell n else String.mk (reprFinite n)
  | some (.float x) => String.mk (reprFinite x)
  | none => ""

/-- The values `to_csv` writes for a row of a frame with the given dtypes, in `CSV_COLUMNS`
order. -/
def CsvRow.valuesForCsv (dtypes : IntColumns) (row : CsvRow) : List String :=
  [row.category, row.url, optIntCell dtypes.statusCode (row.statusCode.map Int.ofNat),
    optIntCell dtypes.loadTimeMs row.loadTimeMs, optIntCell dtypes.ttfbMs row.ttfbMs,
    intCell row.requestCount, intCell row.totalBytes, optStrCell row.seoTitle,
    optStrCell row.seoMetaDescription, optStrCell row.seoCanonical, row.seoH1,
    optStrCell row.seoRobots, intCell row.imagesTotal, intCell row.imagesMissingAlt,
    intCell row.imagesBroken, intCell row.errorCount, intCell row.responsiveIssueCount,
    intCell row.a11yViolationCount, clsCell dtypes.cls row.cls]

/-- The values of the frame's rows. -/
def valuesForCsv (rows : List CsvRow) : List (List String) :=
  rows.map (CsvRow.valuesForCsv (intColumns rows))

/-- The text of `audit_results.csv`: the header, then the sorted frame's rows, written by
`csv.writer` with `lineterminator=os.linesep`. -/
def exportCsv (linesep : List Char) (soup : String → Seo) (results : List AuditRecord) : List Char :=
  writerows linesep (csvColumns :: valuesForCsv (exportRows soup results))

/-- `export_results`: the texts of `audit_results.json` and `audit_results.csv`, or the
exception `json.dump` raises, before the CSV is written. -/
def exportResults (linesep : List Char) (soup : String → Snapshot) (results : List AuditRecord) :
    Except Exn (String × List Char) := do
  let report ← reportText soup results
  pure (report, exportCsv linesep (Snapshot.seo ∘ soup) results)

/-! ## Reading the file back -/

/-- The dtypes do not depend on the order of the rows. -/
theorem intColumns_perm {rows rows' : List CsvRow} (h : rows.Perm rows') : intColumns rows = intColumns rows' := by
  simp only [intColumns, IntColumns.mk.injEq]
  refine ⟨?_, ?_, ?_, ?_⟩ <;> exact Bool.eq_iff_iff.mpr (by simp [List.all_eq_true, h.mem_iff])

theorem csvColumns_fit {linesep : List Char} (hl : linesep = ['\n'] ∨ linesep = ['\r', '\n']) :
    ∀ name ∈ csvColumns, Fits linesep name.data := by
  rcases hl with rfl | rfl <;> decide

/-- **`audit_results.csv` reads back as the frame.** When `json.dump` writes the report (the
records' `int`s fit and no page's script reaches a lone surrogate), `export_results` goes on
to write `audit_results.csv`, which `csv.reader` reads back as `CSV_COLUMNS`, then one row per
record in `(category, url)` order, each the values pandas writes for it, when every value
`Fits`; the line terminator is pandas' `"\n"` or `"\r\n"`. -/
theorem exportCsv_reads_back {linesep : List Char} (hl : linesep = ['\n'] ∨ linesep = ['\r', '\n'])
    (soup : String → Snapshot) (results : List AuditRecord)
    (hsur : ∀ r ∈ results, ∀ html, r.seo = some html → (soup html).reachesLoneSurrogate = false)
    (hfit : ∀ r ∈ results, ∀ i ∈ r.ints, intFits i)
    (hfits : ∀ r ∈ results, ∀ value ∈ (csvRow (Snapshot.seo ∘ soup) r).valuesForCsv
      (intColumns (results.map (csvRow (Snapshot.seo ∘ soup)))), Fits linesep value.data) :
    ∃ report csv, exportResults linesep soup results = .ok (report, csv) ∧
      readCsv csv = .ok (csvColumns :: valuesForCsv (exportRows (Snapshot.seo ∘ soup) results)) := by
  refine ⟨_, _, by rw [exportResults, reportText_ok soup hsur hfit]; rfl, ?_⟩
  have hperm := (exportRows_spec (Snapshot.seo ∘ soup) results).1
  refine readCsv_writerows hl _ fun row hrow => ?_
  rcases List.mem_cons.mp hrow with rfl | hrow
  · exact csvColumns_fit hl
  · obtain ⟨row', hrow', rfl⟩ := List.mem_map.mp hrow
    obtain ⟨r, hr, rfl⟩ := List.mem_map.mp (hperm.mem_iff.mp hrow')
    rw [intColumns_perm hperm]
    exact hfits r hr

/-- A page whose title holds a comma and a line end, the one record of its crawl. -/
def contactPage : AuditRecord :=
  { AuditRecord.start "https://a.test/contact" "/contact" with
    statusCode := some 200, loadTimeMs := some 420, seo := some "contact", performanceVitals := some (some (.int 0)) }

/-- BeautifulSoup's reading of the contact page. -/
def contactSoup (_ : String) : Snapshot :=
  ⟨some "Contact, \"Home\"\nus", none, none, none, ["Contact"], [], [], []⟩

theorem contact_csv_reads_back :
    (∀ r ∈ [contactPage], ∀ html, r.seo = some html → (contactSoup html).reachesLoneSurrogate = false) ∧
      (∀ r ∈ [contactPage], ∀ i ∈ r.ints, intFits i) ∧
      (∀ r ∈ [contactPage], ∀ value ∈ (csvRow (Snapshot.seo ∘ contactSoup) r).valuesForCsv
        (intColumns ([contactPage].map (csvRow (Snapshot.seo ∘ contactSoup)))), Fits ['\n'] value.data) ∧
      ∃ report csv, exportResults ['\n'] contactSoup [contactPage] = .ok (report, csv) ∧
        readCsv csv = .ok (csvColumns :: valuesForCsv (exportRows (Snapshot.seo ∘ contactSoup) [contactPage])) :=
  ⟨fun _ _ _ _ => rfl, by decide, by decide,
    exportCsv_reads_back (.inl rfl) contactSoup [contactPage] (fun _ _ _ _ => rfl) (by decide) (by decide)⟩

/-- With every CLS score an `int`, the column is `int64`: a score of `0` is written `0`. -/
example : ((csvRow (Snapshot.seo ∘ contactSoup) contactPage).valuesForCsv
    (intColumns [csvRow (Snapshot.seo ∘ contactSoup) contactPage])).getLast? = some "0" := by decide

end SiteAuditor
