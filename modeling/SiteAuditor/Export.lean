/-
# SiteAuditor.Export — `export_results`: the CSV and the summary by category

After the crawl, `export_results` writes one CSV row per record (`CSV_COLUMNS`), sorts
the frame by `category`, then `url`, and prints a summary with one line per category.

The SEO columns read `result["seo"]`, the dict `audit_page` builds from what BeautifulSoup
finds in the page's HTML. The record keeps that HTML (`AuditRecord.seo`), and the parse is
the oracle `soup`, as the engine is for the browser. `a11y_violation_count` counts the
entries of `result["accessibility"]` with an `id` key: every violation the axe script
returns has one, the single `axe_error` entry has none.

pandas is modelled by what the code uses of it: a sort on two columns is lexicographic
and stable; `groupby` lists the groups in key order, each with its rows in the frame's
order; `count` counts the values that are not missing, `mean` averages them (`none` when
there are none), `isna` finds the missing ones. Means are exact rationals. The text of
the CSV file is `SiteAuditor.CsvFile`'s; that of the printed summary is not modelled.

* `exportRows_spec`: the CSV holds every record's row once, in `(category, url)` order.
* `export_accounts_for_every_page`: with it, the summary has one line per category of
  the results, in increasing order; each line's `pages` is the number of that category's
  records, and `ok + errors = pages`: a page with no status (its navigation failed) is
  counted as an error.
-/
import SiteAuditor.Engine
import SiteAuditor.Python.Grouping

namespace SiteAuditor

open Py

set_option autoImplicit false

/-! ## The rows of `audit_results.csv` -/

/-- What the SEO columns read of `result["seo"]`: `title`, `meta_description`,
`canonical`, `h1` and `robots`. -/
structure Seo where
  title : Option String
  metaDescription : Option String
  canonical : Option String
  h1 : List String
  robots : Option String
deriving DecidableEq, Repr

/-- `r.get("seo", {})` as the columns read it: `{}` when no snapshot was taken, else what
BeautifulSoup (`soup`) found in the page's HTML. -/
def seoOf (soup : String → Seo) (r : AuditRecord) : Seo :=
  match r.seo with
  | none => ⟨none, none, none, [], none⟩
  | some html => soup html

/-- `len([a for a in r.get("accessibility", []) if "id" in a])`. -/
def a11yViolationCount : Accessibility → Nat
  | .violations list => list.length
  | .axeError _ => 0

/-- A row of `audit_results.csv`, in `CSV_COLUMNS` order. -/
structure CsvRow where
  category : String
  url : String
  statusCode : Option Nat
  loadTimeMs : Option Int
  ttfbMs : Option Int
  requestCount : Nat
  totalBytes : Int
  seoTitle : Option String
  seoMetaDescription : Option String
  seoCanonical : Option String
  seoH1 : String
  seoRobots : Option String
  imagesTotal : Int
  imagesMissingAlt : Int
  imagesBroken : Int
  errorCount : Nat
  responsiveIssueCount : Nat
  a11yViolationCount : Nat
  cls : Option Score
deriving DecidableEq, Repr

/-- The row `export_results` appends for record `r`. -/
def csvRow (soup : String → Seo) (r : AuditRecord) : CsvRow where
  category := r.category
  url := r.url
  statusCode := r.statusCode
  loadTimeMs := r.loadTimeMs
  ttfbMs := r.ttfbMs
  requestCount := r.requestCount
  totalBytes := r.totalBytes
  seoTitle := (seoOf soup r).title
  seoMetaDescription := (seoOf soup r).metaDescription
  seoCanonical := (seoOf soup r).canonical
  seoH1 := "; ".intercalate (seoOf soup r).h1
  seoRobots := (seoOf soup r).robots
  imagesTotal := r.images.total
  imagesMissingAlt := r.images.missingAlt
  imagesBroken := r.images.broken
  errorCount := r.errors.length
  responsiveIssueCount := r.responsiveIssues.length
  a11yViolationCount := a11yViolationCount r.accessibility
  cls := r.performanceVitals.getD none

/-- The frame `export_results` writes: its rows after
`df.sort_values(["category", "url"], inplace=True)`. -/
def exportRows (soup : String → Seo) (results : List AuditRecord) : List CsvRow :=
  sortedBy (tupleLe strLt strLe) (fun row => (row.category, row.url)) (results.map (csvRow soup))

/-- The pair the CSV is sorted by, as a point of its order. -/
def CsvRow.key (row : CsvRow) : Lex (String × String) :=
  toLex (row.category, row.url)

theorem exportRows_eq (soup : String → Seo) (results : List AuditRecord) :
    exportRows soup results = (results.map (csvRow soup)).mergeSort fun a b => decide (a.key ≤ b.key) := by
  simp [exportRows, sortedBy, tupleLe, strLt_eq, strLe_eq, CsvRow.key, Prod.Lex.le_iff]

/-- The CSV holds every record's row exactly once, ordered by category, then URL; rows
with the same category and URL keep the crawl's order. -/
theorem exportRows_spec (soup : String → Seo) (results : List AuditRecord) :
    (exportRows soup results).Perm (results.map (csvRow soup)) ∧
      (exportRows soup results).Pairwise (fun a b => a.key ≤ b.key) ∧
      ∀ k, (exportRows soup results).filter (·.key = k) = (results.map (csvRow soup)).filter (·.key = k) := by
  rw [exportRows_eq]
  exact ⟨List.mergeSort_perm _ _, pairwise_mergeSort_rank CsvRow.key _,
    fun k => by convert filter_mergeSort_rank CsvRow.key _ k⟩

/-! ## The summary by category -/

/-- A line of the summary `export_results` prints. -/
structure SummaryLine where
  category : String
  pages : Nat
  ok : Nat
  errors : Nat
  avgLoadMs : Option Rat
  missingMeta : Nat
  brokenImages : Int
deriving DecidableEq, Repr

/-- pandas' `mean`: the average of the values that are not missing, `NaN` (`none`) when
none is. -/
def mean (xs : List (Option Int)) : Option Rat :=
  match xs.filterMap id with
  | [] => none
  | present => some ((present.foldr (· + ·) 0 : Int) / present.length)

/-- The aggregates of one group: `pages=("url", "count")` (a `url` is never missing),
`ok` and `errors` (`s == 200`, `s != 200`: a missing status is not `200`), `avg_load_ms`,
`missing_meta` and `broken_images`. -/
def summaryLine (category : String) (rows : List CsvRow) : SummaryLine where
  category := category
  pages := rows.length
  ok := rows.countP (·.statusCode = some 200)
  errors := rows.countP (·.statusCode ≠ some 200)
  avgLoadMs := mean (rows.map (·.loadTimeMs))
  missingMeta := rows.countP (·.seoMetaDescription = none)
  brokenImages := (rows.map (·.imagesBroken)).foldr (· + ·) 0

/-- `df.groupby("category")`: each group in key order, with its rows in the frame's order. -/
def groupByCategory (rows : List CsvRow) : List (String × List CsvRow) :=
  sortedItems (rows.foldl (fun d row => dictModify d row.category [] (· ++ [row])) [])

/-- The summary `export_results` prints, one line per group. -/
def summary (soup : String → Seo) (results : List AuditRecord) : List SummaryLine :=
  (groupByCategory (exportRows soup results)).map fun g => summaryLine g.1 g.2

theorem groupByCategory_grouped (rows : List CsvRow) :
    Grouped CsvRow.category (fun l b => b = l) rows
      (rows.foldl (fun d row => dictModify d row.category [] (· ++ [row])) []) := by
  simpa using Grouped.foldl (k := CsvRow.category) (P := fun l b => b = l) (f := fun x b => b ++ [x]) rfl
    (fun x _ _ h => congrArg (· ++ [x]) h) rows Grouped.nil

theorem summaryLine_ok_add_errors (category : String) (rows : List CsvRow) :
    (summaryLine category rows).ok + (summaryLine category rows).errors = (summaryLine category rows).pages := by
  simpa [summaryLine] using (List.length_eq_countP_add_countP (fun row : CsvRow => decide (row.statusCode = some 200)) rows).symm

/-- `export_results`' two outputs account for every page: the CSV holds each record's row
once, sorted by category, then URL; the summary has one line per category of the results,
in increasing order, whose `pages` is the number of that category's records and whose
`ok` and `errors` add up to it. -/
theorem export_accounts_for_every_page (soup : String → Seo) (results : List AuditRecord) :
    (exportRows soup results).Perm (results.map (csvRow soup)) ∧
      (exportRows soup results).Pairwise (fun a b => a.key ≤ b.key) ∧
      ((summary soup results).map (·.category)).Pairwise (· < ·) ∧
      (∀ c, c ∈ (summary soup results).map (·.category) ↔ ∃ r ∈ results, r.category = c) ∧
      ∀ line ∈ summary soup results,
        line.pages = results.countP (·.category = line.category) ∧ line.ok + line.errors = line.pages := by
  obtain ⟨hperm, hsorted, -⟩ := exportRows_spec soup results
  have h := groupByCategory_grouped (exportRows soup results)
  have hitems : ∀ {β : Type} {d : List (String × β)} {e}, e ∈ sortedItems d ↔ e ∈ d :=
    List.mem_mergeSort
  have hcat : (summary soup results).map (·.category) =
      (sortedItems ((exportRows soup results).foldl
        (fun d row => dictModify d row.category [] (· ++ [row])) [])).map (·.1) := by
    simp [summary, groupByCategory, summaryLine]
  have hcount : ∀ c, (exportRows soup results).countP (·.category = c) = results.countP (·.category = c) := by
    intro c
    rw [hperm.countP_eq, List.countP_map]
    rfl
  refine ⟨hperm, hsorted, ?_, fun c => ?_, ?_⟩
  · rw [hcat, List.pairwise_map]
    exact sortedItems_keys_lt h.nodup
  · have hkeys := h.keys c
    rw [List.mem_map] at hkeys
    rw [hcat, List.mem_map]
    simp only [hitems, hkeys, hperm.mem_iff, List.mem_map]
    simp [csvRow]
  · intro line hline
    obtain ⟨e, he, rfl⟩ := List.mem_map.mp hline
    refine ⟨?_, summaryLine_ok_add_errors _ _⟩
    rw [← hcount, List.countP_eq_length_filter]
    exact congrArg List.length (h.values e (hitems.mp he))

end SiteAuditor
