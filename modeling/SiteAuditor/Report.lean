/-
# SiteAuditor.Report — the JSON report and the CSV agree

`audit_page` returns a dict, and `export_results` writes the list of them to
`audit_results.json` with `json.dump(results, f, indent=2, ensure_ascii=False)`. It then
reads each dict with `r.get(...)` to build the rows of `audit_results.csv`. `AuditRecord` and
`csvRow` are the typed view of both; this module gives the dicts themselves:

* `recordJson`: the dict `audit_page` builds, key for key and in its order. `result["seo"]` is
  the dict of what BeautifulSoup finds in the HTML (`Snapshot`), with `structured_data`, what
  `json.loads` made of each `application/ld+json` script, and `og`, a `dict` filled tag by tag;
* `reportText`: the text `json.dump` writes, or what it raises: the `ValueError` of an `int`
  of more than 4300 digits, or, for a page one of whose scripts reaches a lone surrogate
  (`Snapshot.reachesLoneSurrogate`), the `UnicodeEncodeError` of writing the `str` CPython
  keeps there to the UTF-8 file;
* `exportRow`: the loop body of `export_results` over a dict, with the exceptions its `.get`,
  `len`, `"; ".join` and `in` raise on other values.

The theorems:

* `exportRow_recordJson`: the loop body, run on the dict of a record, appends the record's
  typed row (`CsvRow.cells` of `csvRow`), so `csvRow` refines the code;
* `Reachable.clsRounded`: every CLS `float` of every record of every run was rounded to
  four places;
* `recordJson_isPyValue` and `recordJson_intsFit`: the dict of such a record is a Python
  value, and `json.dump` writes it when its own `int`s (`AuditRecord.ints`) have at most 4300
  digits; the structured data qualifies by `loads_reloadable`;
* `report_agrees_with_csv`: in every run whose pages' scripts reach no lone surrogate and
  whose records' `int`s fit, `json.dump` writes the report, `json.loads` reads it back as the
  records' dicts, and the loop of `export_results` over what it reads gives the rows the CSV
  was written from, in the crawl's order.

When the records hold both an `int` of more than 4300 digits and a lone surrogate, CPython
raises whichever of the two `json.dump` meets first and the model the `UnicodeEncodeError`,
whose message here leaves out the character and its position.
-/
import SiteAuditor.Export
import SiteAuditor.Runs
import SiteAuditor.Python.JsonReload
import Mathlib.Data.List.Infix

namespace SiteAuditor

open Py

set_option autoImplicit false

/-! ## The dict `audit_page` returns -/

/-- What BeautifulSoup finds in a page's HTML for `result["seo"]`: the text of `<title>`, the
`content` of the description and robots meta tags, the `href` of the canonical link, the texts
of the `<h1>` and `<h2>` tags, the `property` and `content` of each `og:` meta tag, and the
`.string` of each `application/ld+json` script, in document order. -/
structure Snapshot where
  title : Option String
  metaDescription : Option String
  canonical : Option String
  robots : Option String
  h1 : List String
  h2 : List String
  og : List (String × String)
  ldJson : List (Option String)

/-- The SEO columns of the CSV read these five entries of `result["seo"]`. -/
def Snapshot.seo (snap : Snapshot) : Seo :=
  ⟨snap.title, snap.metaDescription, snap.canonical, snap.h1, snap.robots⟩

/-- A value, or `None`. -/
def optJson {α : Type} (f : α → Json) : Option α → Json
  | some a => f a
  | none => .null

/-- `tag.string or "{}"`: a script with no text, or an empty one, reads as an empty dict. -/
def scriptText : Option String → String
  | some s => if s = "" then "\x7b\x7d" else s
  | none => "\x7b\x7d"

/-- `structured_data`: what `json.loads` makes of each script's text; a script it raises on is
skipped (`except Exception: pass`). -/
def structuredData (scripts : List (Option String)) : List Json :=
  scripts.filterMap fun s =>
    match loads (scriptText s) with
    | .ok v => some v
    | .error _ => none

/-- `result["seo"]` for a page whose HTML BeautifulSoup reads as `snap`. `og_tags[property] =
content`, tag by tag from `{}`, is `dict(pairs)`. -/
def seoJson (snap : Snapshot) : Json :=
  .obj [("title", optJson .str snap.title), ("meta_description", optJson .str snap.metaDescription),
    ("canonical", optJson .str snap.canonical), ("robots", optJson .str snap.robots),
    ("h1", .arr (snap.h1.map .str)), ("h2", .arr ((snap.h2.take 5).map .str)),
    ("og", .obj (dictOf (snap.og.map fun p => (p.1, .str p.2)))),
    ("structured_data", .arr (structuredData snap.ldJson))]

/-- An entry of `result["errors"]`. -/
def errorJson (e : ErrorEntry) : Json :=
  .obj [("type", .str e.type), ("message", .str e.message)]

/-- An entry of `result["responsive_issues"]`. -/
def issueJson (i : ResponsiveIssue) : Json :=
  .obj [("viewport", .str i.viewport), ("issue", .str i.issue), ("screenshot", optJson .str i.screenshot)]

/-- A violation summary as the axe script returns it. -/
def violationJson (v : Violation) : Json :=
  .obj [("id", .str v.id), ("impact", optJson .str v.impact), ("description", .str v.description),
    ("nodes", .int v.nodes)]

/-- `result["accessibility"]`: the violations, or the one `axe_error` entry. -/
def accessibilityJson : Accessibility → Json
  | .violations list => .arr (list.map violationJson)
  | .axeError message => .arr [.obj [("type", .str "axe_error"), ("message", .str message)]]

/-- A CLS score, an `int` or a `float`. -/
def scoreJson : Score → Json
  | .int n => .int n
  | .float x => .float (.finite x)

/-- `result["performance_vitals"]`: `{}`, or `{"cls": cls}`. -/
def vitalsJson : Option (Option Score) → Json
  | none => .obj []
  | some cls => .obj [("cls", optJson scoreJson cls)]

/-- `result["live_comparison"]`. -/
def liveJson : Option LiveComparison → Json
  | none => .null
  | some (.measured liveUrl liveLoadTimeMs deltaMs) =>
    .obj [("live_url", .str liveUrl), ("live_load_time_ms", .int liveLoadTimeMs), ("delta_ms", .int deltaMs)]
  | some (.error message) => .obj [("error", .str message)]

/-- The dict `audit_page` returns for record `r`, key for key in the order it builds them;
`soup` is what BeautifulSoup finds in an HTML text. -/
def recordJson (soup : String → Snapshot) (r : AuditRecord) : Json :=
  .obj [("url", .str r.url), ("full_url", .str r.fullUrl), ("category", .str r.category),
    ("status_code", optJson (fun n : Nat => .int n) r.statusCode), ("load_time_ms", optJson .int r.loadTimeMs),
    ("ttfb_ms", optJson .int r.ttfbMs), ("request_count", .int r.requestCount),
    ("total_bytes", .int r.totalBytes),
    ("seo", match r.seo with | none => .obj [] | some html => seoJson (soup html)),
    ("images", .obj [("total", .int r.images.total), ("missing_alt", .int r.images.missingAlt),
      ("broken", .int r.images.broken)]),
    ("errors", .arr (r.errors.map errorJson)), ("responsive_issues", .arr (r.responsiveIssues.map issueJson)),
    ("accessibility", accessibilityJson r.accessibility), ("performance_vitals", vitalsJson r.performanceVitals),
    ("live_comparison", liveJson r.liveComparison)]

/-- Whether a script of the page makes `json.loads` reach a lone surrogate. -/
def Snapshot.reachesLoneSurrogate (snap : Snapshot) : Bool :=
  snap.ldJson.any fun s => Py.reachesLoneSurrogate (scriptText s)

/-- The `UnicodeEncodeError` of writing a lone surrogate to the UTF-8 report. -/
def surrogateEncodeError : Exn :=
  .error "UnicodeEncodeError: \x27utf-8\x27 codec can\x27t encode character: surrogates not allowed"

/-- What `export_results` writes to `audit_results.json`, or what `json.dump` raises there. -/
def reportText (soup : String → Snapshot) (results : List AuditRecord) : Except Exn String :=
  if results.any fun r => r.seo.any fun html => (soup html).reachesLoneSurrogate then .error surrogateEncodeError
  else dump (.arr (results.map (recordJson soup)))

/-! ## The loop body of `export_results` -/

/-- The items `str.join` concatenates, from index `i`: each must be a `str`. -/
def strItems (i : Nat) : List Json → Except Exn (List String)
  | [] => .ok []
  | .str s :: xs => (s :: ·) <$> strItems (i + 1) xs
  | x :: _ => .error (.error ("TypeError: sequence item " ++ toString i ++ ": expected str instance, " ++
      x.typeName ++ " found"))

/-- `sep.join(xs)`. -/
def joinStrs (sep : String) (xs : Json) : Except Exn String :=
  match xs.iter with
  | .error _ => .error (.error "TypeError: can only join an iterable")
  | .ok items => sep.intercalate <$> strItems 0 items

/-- `key in x` for a `str` key: a key of a dict, an item of a list, a substring of a `str`. -/
def memberOf (key : String) (x : Json) : Except Exn Bool :=
  match x with
  | .obj fields => .ok (fields.any (·.1 == key))
  | .arr elems => .ok (elems.any fun | .str s => s == key | _ => false)
  | .str s => .ok (decide (key.data <:+: s.data))
  | v => .error (.error ("TypeError: argument of type '" ++ v.typeName ++ "' is not iterable"))

/-- `len([a for a in items if key in a])`. -/
def countContaining (key : String) : List Json → Except Exn Nat
  | [] => .ok 0
  | a :: as => do
    let hit ← memberOf key a
    let n ← countContaining key as
    return (if hit then 1 else 0) + n

/-- The `seo_*` columns, from `seo = r.get("seo", {})`. -/
def seoColumns (seo : Json) : Except Exn (List (String × Json)) := do
  let title ← seo.get "title" .null
  let metaDescription ← seo.get "meta_description" .null
  let canonical ← seo.get "canonical" .null
  let h1 ← joinStrs "; " ((← seo.get "h1" .null).orElse (.arr []))
  let robots ← seo.get "robots" .null
  return [("seo_title", title), ("seo_meta_description", metaDescription), ("seo_canonical", canonical),
    ("seo_h1", .str h1), ("seo_robots", robots)]

/-- The loop body of `export_results` for one result `r`: the dict it appends to `rows`, in
`CSV_COLUMNS` order, or the exception it raises. The values are computed in the order the
dict display lists them. -/
def exportRow (r : Json) : Except Exn (List (String × Json)) := do
  let seo ← r.get "seo" (.obj [])
  let imgs ← r.get "images" (.obj [])
  let category ← r.get "category" .null
  let url ← r.get "url" .null
  let statusCode ← r.get "status_code" .null
  let loadTimeMs ← r.get "load_time_ms" .null
  let ttfbMs ← r.get "ttfb_ms" .null
  let requestCount ← r.get "request_count" .null
  let totalBytes ← r.get "total_bytes" .null
  let seoCells ← seoColumns seo
  let imagesTotal ← imgs.get "total" (.int 0)
  let imagesMissingAlt ← imgs.get "missing_alt" (.int 0)
  let imagesBroken ← imgs.get "broken" (.int 0)
  let errorCount ← (← r.get "errors" (.arr [])).len
  let responsiveIssueCount ← (← r.get "responsive_issues" (.arr [])).len
  let a11yViolationCount ← countContaining "id" (← (← r.get "accessibility" (.arr [])).iter)
  let cls ← (← r.get "performance_vitals" (.obj [])).get "cls" .null
  return [("category", category), ("url", url), ("status_code", statusCode), ("load_time_ms", loadTimeMs),
    ("ttfb_ms", ttfbMs), ("request_count", requestCount), ("total_bytes", totalBytes)] ++ seoCells ++
    [("images_total", imagesTotal), ("images_missing_alt", imagesMissingAlt), ("images_broken", imagesBroken),
      ("error_count", .int errorCount), ("responsive_issue_count", .int responsiveIssueCount),
      ("a11y_violation_count", .int a11yViolationCount), ("cls", cls)]

/-- A typed row as the dict `export_results` appends. -/
def CsvRow.cells (row : CsvRow) : List (String × Json) :=
  [("category", .str row.category), ("url", .str row.url),
    ("status_code", optJson (fun n : Nat => .int n) row.statusCode), ("load_time_ms", optJson .int row.loadTimeMs),
    ("ttfb_ms", optJson .int row.ttfbMs), ("request_count", .int row.requestCount),
    ("total_bytes", .int row.totalBytes), ("seo_title", optJson .str row.seoTitle),
    ("seo_meta_description", optJson .str row.seoMetaDescription),
    ("seo_canonical", optJson .str row.seoCanonical), ("seo_h1", .str row.seoH1),
    ("seo_robots", optJson .str row.seoRobots), ("images_total", .int row.imagesTotal),
    ("images_missing_alt", .int row.imagesMissingAlt), ("images_broken", .int row.imagesBroken),
    ("error_count", .int row.errorCount), ("responsive_issue_count", .int row.responsiveIssueCount),
    ("a11y_violation_count", .int row.a11yViolationCount),
    ("cls", optJson scoreJson row.cls)]

/-! ## The loop body computes the typed row -/

theorem strItems_map_str (l : List String) (i : Nat) : strItems i (l.map .str) = .ok l := by
  induction l generalizing i with
  | nil => rfl
  | cons s l ih => simp [strItems, ih]

theorem joinStrs_h1 (sep : String) (l : List String) :
    joinStrs sep ((Json.arr (l.map .str)).orElse (.arr [])) = .ok (sep.intercalate l) := by
  have : (Json.arr (l.map .str)).orElse (.arr []) = .arr (l.map .str) := by
    cases l <;> rfl
  rw [this]
  simp [joinStrs, Json.iter, strItems_map_str]

theorem countContaining_violations (vs : List Violation) :
    countContaining "id" (vs.map violationJson) = .ok vs.length := by
  induction vs with
  | nil => rfl
  | cons v vs ih =>
    rw [List.map_cons, countContaining, ih]
    show Except.ok (1 + vs.length) = _
    rw [Nat.add_comm]; rfl

theorem countContaining_accessibility {β : Type} (a : Accessibility) (k : Nat → Except Exn β) :
    ((accessibilityJson a).iter >>= fun items => countContaining "id" items >>= k) = k (a11yViolationCount a) := by
  cases a with
  | violations vs => exact congrArg (· >>= k) (countContaining_violations vs)
  | axeError m => rfl

theorem vitalsJson_cls (v : Option (Option Score)) :
    (vitalsJson v).get "cls" .null = .ok (optJson scoreJson (v.getD none)) := by
  cases v <;> rfl

theorem seoColumns_record (soup : String → Snapshot) (r : AuditRecord) :
    seoColumns (match r.seo with | none => .obj [] | some html => seoJson (soup html)) =
      .ok [("seo_title", optJson .str (seoOf (Snapshot.seo ∘ soup) r).title),
        ("seo_meta_description", optJson .str (seoOf (Snapshot.seo ∘ soup) r).metaDescription),
        ("seo_canonical", optJson .str (seoOf (Snapshot.seo ∘ soup) r).canonical),
        ("seo_h1", .str ("; ".intercalate (seoOf (Snapshot.seo ∘ soup) r).h1)),
        ("seo_robots", optJson .str (seoOf (Snapshot.seo ∘ soup) r).robots)] := by
  unfold seoOf
  cases r.seo with
  | none => rfl
  | some html =>
    calc seoColumns (seoJson (soup html))
        = (do
            let h1 ← joinStrs "; " ((Json.arr ((soup html).h1.map .str)).orElse (.arr []))
            pure [("seo_title", optJson .str (soup html).title),
              ("seo_meta_description", optJson .str (soup html).metaDescription),
              ("seo_canonical", optJson .str (soup html).canonical), ("seo_h1", .str h1),
              ("seo_robots", optJson .str (soup html).robots)]) := rfl
      _ = _ := by rw [joinStrs_h1]; rfl

theorem exportRow_recordJson (soup : String → Snapshot) (r : AuditRecord) :
    exportRow (recordJson soup r) = .ok (csvRow (Snapshot.seo ∘ soup) r).cells := by
  calc exportRow (recordJson soup r)
      = (do
          let seoCells ← seoColumns (match r.seo with | none => .obj [] | some html => seoJson (soup html))
          let items ← (accessibilityJson r.accessibility).iter
          let a11yViolationCount ← countContaining "id" items
          let cls ← (vitalsJson r.performanceVitals).get "cls" .null
          pure ([("category", .str r.category), ("url", .str r.url),
            ("status_code", optJson (fun n : Nat => .int n) r.statusCode), ("load_time_ms", optJson .int r.loadTimeMs),
            ("ttfb_ms", optJson .int r.ttfbMs), ("request_count", .int r.requestCount),
            ("total_bytes", .int r.totalBytes)] ++ seoCells ++
            [("images_total", .int r.images.total), ("images_missing_alt", .int r.images.missingAlt),
              ("images_broken", .int r.images.broken), ("error_count", .int (r.errors.map errorJson).length),
              ("responsive_issue_count", .int (r.responsiveIssues.map issueJson).length),
              ("a11y_violation_count", .int a11yViolationCount), ("cls", cls)])) := rfl
    _ = _ := by
      rw [seoColumns_record, ok_bind, countContaining_accessibility, vitalsJson_cls, ok_bind]
      simp [csvRow, CsvRow.cells, pure, Except.pure]

/-! ## The CLS score of every record is rounded -/

/-- Each CLS `float` `r` holds is one `round(v, 4)` returned. -/
def ClsRounded (r : AuditRecord) : Prop :=
  ∀ x, r.performanceVitals = some (some (.float x)) → ∃ v, x = round4 v

theorem isDecimal_round4 (v : Rat) : IsDecimal (round4 v) := by
  have h := fun m : Int => den_div_dvd m 10000
  simp only [Nat.cast_ofNat] at h
  exact .of_dvd (k := 4) (h _)

theorem ClsRounded.of_vitals {r r' : AuditRecord} (h : ClsRounded r) (hv : r'.performanceVitals = r.performanceVitals) :
    ClsRounded r' := fun x hx => h x (hv ▸ hx)

/-- `round(v, 4)` gives a `float` only by rounding one. -/
theorem pyRound4_float {s : Score} {x : Rat} (h : pyRound4 s = .float x) : ∃ v, x = round4 v := by
  cases s with
  | int n => cases h
  | float v => exact ⟨v, (Score.float.inj h).symm⟩

section Phases

variable {e : PageEngine} {url : String} {a a' : Audit}

theorem measureTtfb_vitals : (measureTtfb e a).record.performanceVitals = a.record.performanceVitals := by
  unfold measureTtfb; split <;> rfl

theorem measureCls_clsRounded (h : ClsRounded a.record) : ClsRounded (measureCls e a).record := by
  unfold measureCls
  split
  · intro x hx
    obtain ⟨v, -, hv⟩ := Option.map_eq_some'.mp (Option.some.inj hx)
    exact pyRound4_float hv
  · exact h

theorem extractSeo_vitals (h : extractSeo e a = .ok a') : a'.record.performanceVitals = a.record.performanceVitals := by
  unfold extractSeo at h; split at h <;> cases h; rfl

theorem auditImages_vitals : (auditImages e a).record.performanceVitals = a.record.performanceVitals := by
  unfold auditImages; split <;> rfl

theorem recordIssues_vitals {vp : ViewportSpec} {issues : List String} (h : recordIssues e vp issues a = .ok a') :
    a'.record.performanceVitals = a.record.performanceVitals := by
  unfold recordIssues at h
  split at h
  · cases h; rfl
  · split at h <;> cases h; rfl

theorem checkViewport_vitals {vp : ViewportSpec} (h : checkViewport e url a vp = .ok a') :
    a'.record.performanceVitals = a.record.performanceVitals := by
  unfold checkViewport at h
  split at h
  · cases h
  split at h
  · cases h; rfl
  split at h
  · cases h; rfl
  split at h
  · cases h; rfl
  · exact (recordIssues_vitals h).trans rfl

theorem checkResponsive_vitals (h : checkResponsive e url a = .ok a') :
    a'.record.performanceVitals = a.record.performanceVitals :=
  checkResponsive_induction (fun b => b.record.performanceVitals = a.record.performanceVitals)
    (fun _ _ _ _ hb hv => (checkViewport_vitals hb).trans hv) h rfl

theorem compareLive_vitals {compareBase : Option String} :
    (compareLive e compareBase a).record.performanceVitals = a.record.performanceVitals := by
  unfold compareLive
  repeat' split
  all_goals rfl

end Phases

theorem auditPage_clsRounded {e : PageEngine} {url baseUrl : String} {compareBase : Option String}
    {s s' : Session} {r : AuditRecord} (h : auditPage e url baseUrl compareBase s = .ok (r, s')) :
    ClsRounded r := by
  obtain ⟨path, -, ⟨tab, err, -, -, rfl⟩ | ⟨tab, response, a', -, hl, rfl, -⟩⟩ := auditPage_cases h
  · intro x hx; cases hx
  obtain ⟨b, c, d, hb, hc, hd, rfl⟩ := auditLoaded_cases hl
  have hstart : ClsRounded (recordLoad e response ⟨tab, AuditRecord.start url path⟩).record :=
    fun x hx => by cases hx
  have hb' : ClsRounded b.record :=
    (measureCls_clsRounded (hstart.of_vitals measureTtfb_vitals)).of_vitals (extractSeo_vitals hb)
  have hc' : ClsRounded c.record :=
    (hb'.of_vitals auditImages_vitals).of_vitals ((checkResponsive_vitals hc).trans rfl)
  have hd' : ClsRounded d.record := hc'.of_vitals (by rw [(resetViewport_ok hd).1])
  exact (hd'.of_vitals (rfl : (auditAccessibility e url d).record.performanceVitals = _)).of_vitals compareLive_vitals

theorem Reachable.clsRounded {E : Engine} {baseUrl : String} {compareBase : Option String}
    {seeds : List String} {c : Crawl} (hc : Reachable E baseUrl compareBase (.init seeds) c) :
    ∀ r ∈ c.results, ClsRounded r := by
  induction hc with
  | init => intro r hr; cases hr
  | iterate _ hne h ih =>
    obtain ⟨url, rest, hq⟩ := List.exists_cons_of_ne_nil hne
    rcases iterate_cases hq h with ⟨rfl, -⟩ | ⟨-, -, record, session, links, haudit, -, rfl⟩
    · exact ih
    · intro r hr
      rcases List.mem_append.mp hr with hr | hr
      · exact ih r hr
      · rw [List.mem_singleton.mp hr]
        exact auditPage_clsRounded haudit

/-! ## Every record's dict is written back -/

/-- The `int`s of a record's dict, those of its structured data apart. -/
def AuditRecord.ints (r : AuditRecord) : List Int :=
  (r.statusCode.map Int.ofNat).toList ++ r.loadTimeMs.toList ++ r.ttfbMs.toList ++
    [(r.requestCount : Int), r.totalBytes, r.images.total, r.images.missingAlt, r.images.broken] ++
    (match r.accessibility with | .violations vs => vs.map fun v : Violation => (v.nodes : Int) | .axeError _ => []) ++
    (match r.performanceVitals with | some (some (.int n)) => [n] | _ => []) ++
    (match r.liveComparison with | some (.measured _ live delta) => [live, delta] | _ => [])

theorem structuredData_reloadable (scripts : List (Option String)) : ∀ v ∈ structuredData scripts, v.Reloadable := by
  intro v hv
  obtain ⟨s, -, hs⟩ := List.mem_filterMap.mp hv
  split at hs
  · cases hs; exact loads_reloadable ‹_›
  · cases hs

theorem optJson_isPyValue {α : Type} {f : α → Json} (hf : ∀ a, (f a).isPyValue) (o : Option α) :
    (optJson f o).isPyValue := by
  cases o with
  | none => rfl
  | some a => exact hf a

theorem optJson_intsFit {α : Type} {f : α → Json} {o : Option α} (hf : ∀ a, o = some a → (f a).intsFit) :
    (optJson f o).intsFit := by
  cases o with
  | none => rfl
  | some a => exact hf a rfl

theorem seoJson_isPyValue (snap : Snapshot) : (seoJson snap).isPyValue := by
  obtain ⟨hnodup, hmem⟩ := dictOf_spec (snap.og.map fun p => (p.1, Json.str p.2))
  simp [seoJson, optJson_isPyValue]
  refine ⟨fun x hx => ?_, ⟨hnodup, fun k v hkv => ?_⟩, fun x hx => (structuredData_reloadable _ x hx).1⟩
  · obtain ⟨s, -, rfl⟩ := List.mem_map.mp (List.mem_of_mem_take hx); rfl
  · obtain ⟨p, -, hp⟩ := List.mem_map.mp (hmem _ hkv); cases hp; rfl

theorem seoJson_intsFit (snap : Snapshot) : (seoJson snap).intsFit := by
  have hmem := (dictOf_spec (snap.og.map fun p => (p.1, Json.str p.2))).2
  simp [seoJson, optJson_intsFit]
  refine ⟨fun x hx => ?_, fun k v hkv => ?_, fun x hx => (structuredData_reloadable _ x hx).2⟩
  · obtain ⟨s, -, rfl⟩ := List.mem_map.mp (List.mem_of_mem_take hx); rfl
  · obtain ⟨p, -, hp⟩ := List.mem_map.mp (hmem _ hkv); cases hp; rfl

theorem accessibilityJson_isPyValue (a : Accessibility) : (accessibilityJson a).isPyValue := by
  cases a <;> simp [accessibilityJson, violationJson, optJson_isPyValue]

theorem vitalsJson_isPyValue {v : Option (Option Score)} (h : ∀ x, v = some (some (.float x)) → ∃ w, x = round4 w) :
    (vitalsJson v).isPyValue := by
  rcases v with _ | _ | (n | x)
  · rfl
  · rfl
  · rfl
  · obtain ⟨w, rfl⟩ := h _ rfl
    simpa [vitalsJson, optJson, scoreJson] using isDecimal_round4 w

theorem liveJson_isPyValue (l : Option LiveComparison) : (liveJson l).isPyValue := by
  rcases l with _ | ⟨_, _, _⟩ | _ <;> simp [liveJson]

/-- The dict of a record whose CLS `float` was rounded is a Python value. -/
theorem recordJson_isPyValue (soup : String → Snapshot) {r : AuditRecord} (hcls : ClsRounded r) :
    (recordJson soup r).isPyValue := by
  simp [recordJson, optJson_isPyValue, errorJson, issueJson, accessibilityJson_isPyValue, vitalsJson_isPyValue hcls,
    liveJson_isPyValue]
  cases r.seo <;> simp [seoJson_isPyValue]

/-- `json.dump` writes every `int` of the dict of a record whose own `int`s have at most 4300
digits. -/
theorem recordJson_intsFit (soup : String → Snapshot) {r : AuditRecord} (hfit : ∀ i ∈ r.ints, intFits i) :
    (recordJson soup r).intsFit := by
  simp only [AuditRecord.ints, List.mem_append, Option.mem_toList, List.mem_cons, List.not_mem_nil, or_false,
    or_imp, forall_and, forall_eq] at hfit
  obtain ⟨⟨⟨⟨⟨⟨hstatus, hload⟩, httfb⟩, hcounts⟩, hacc⟩, hvit⟩, hlive⟩ := hfit
  simp only [recordJson, Json.intsFit_obj_iff, List.mem_cons, List.mem_singleton, List.not_mem_nil, or_false,
    forall_eq_or_imp, forall_eq, Json.intsFit_int]
  refine ⟨rfl, rfl, rfl, optJson_intsFit fun n hn => hstatus n (by simp [hn]), optJson_intsFit fun n hn => hload n hn,
    optJson_intsFit fun n hn => httfb n hn, hcounts.1, hcounts.2.1, ?_, by simpa using hcounts.2.2,
    by simp [errorJson], by simp [issueJson, optJson_intsFit], ?_, ?_, ?_⟩
  · cases r.seo <;> simp [seoJson_intsFit]
  · cases h : r.accessibility with
    | violations vs => rw [h] at hacc; simpa [accessibilityJson, violationJson, optJson_intsFit] using hacc
    | axeError m => simp [accessibilityJson]
  · rcases h : r.performanceVitals with _ | _ | (n | x)
    · simp [vitalsJson]
    · simp [vitalsJson, optJson]
    · rw [h] at hvit; simpa [vitalsJson, optJson, scoreJson] using hvit
    · simp [vitalsJson, optJson, scoreJson]
  · rcases h : r.liveComparison with _ | ⟨u, live, delta⟩ | m
    · simp [liveJson]
    · rw [h] at hlive; simpa [liveJson] using hlive
    · simp [liveJson]

/-! ## The report -/

theorem mapM_map_ok {α β γ ε : Type} {f : α → β} {g : β → Except ε γ} {k : α → γ} (H : ∀ a, g (f a) = .ok (k a)) :
    ∀ xs : List α, (xs.map f).mapM g = .ok (xs.map k)
  | [] => rfl
  | x :: xs => by rw [List.map_cons, List.mapM_cons, H, mapM_map_ok H xs]; rfl

/-- `json.dump` writes every `int` of the dicts of records whose own `int`s fit. -/
theorem recordsJson_intsFit (soup : String → Snapshot) {results : List AuditRecord}
    (hfit : ∀ r ∈ results, ∀ i ∈ r.ints, intFits i) : (Json.arr (results.map (recordJson soup))).intsFit := by
  simp only [Json.intsFit_arr_iff, List.mem_map]
  rintro _ ⟨r, hr, rfl⟩
  exact recordJson_intsFit soup (hfit r hr)

/-- `json.dump` writes the report of records whose `int`s fit and whose pages' scripts reach
no lone surrogate. -/
theorem reportText_ok (soup : String → Snapshot) {results : List AuditRecord}
    (hsur : ∀ r ∈ results, ∀ html, r.seo = some html → (soup html).reachesLoneSurrogate = false)
    (hfit : ∀ r ∈ results, ∀ i ∈ r.ints, intFits i) :
    reportText soup results = .ok ⟨iterencode 0 (.arr (results.map (recordJson soup)))⟩ := by
  have hno : (results.any fun r => r.seo.any fun html => (soup html).reachesLoneSurrogate) = false :=
    List.any_eq_false.mpr fun r hr => by cases hs : r.seo <;> simp [hs, hsur r hr]
  rw [reportText, hno, if_neg Bool.false_ne_true, dump, if_pos (recordsJson_intsFit soup hfit)]

theorem report_agrees_with_csv {E : Engine} {baseUrl : String} {compareBase : Option String}
    {seeds : List String} {c : Crawl} (hc : Reachable E baseUrl compareBase (.init seeds) c)
    (soup : String → Snapshot)
    (hsur : ∀ r ∈ c.results, ∀ html, r.seo = some html → (soup html).reachesLoneSurrogate = false)
    (hfit : ∀ r ∈ c.results, ∀ i ∈ r.ints, intFits i) :
    ∃ text, reportText soup c.results = .ok text ∧
      loads text = .ok (.arr (c.results.map (recordJson soup))) ∧
      (do let doc ← loads text; let rs ← doc.iter; rs.mapM exportRow) =
        .ok (c.results.map fun r => (csvRow (Snapshot.seo ∘ soup) r).cells) := by
  have hv : (Json.arr (c.results.map (recordJson soup))).isPyValue := by
    simp only [Json.isPyValue_arr_iff, List.mem_map]
    rintro _ ⟨r, hr, rfl⟩
    exact recordJson_isPyValue soup (hc.clsRounded r hr)
  have hload := loads_iterencode hv (recordsJson_intsFit soup hfit)
  refine ⟨_, reportText_ok soup hsur hfit, hload, ?_⟩
  rw [hload]
  exact mapM_map_ok (exportRow_recordJson soup) c.results

/-- A page titled `Home`, with an `og:title` and no `application/ld+json` script. -/
def homeSoup (_ : String) : Snapshot :=
  ⟨some "Home", none, none, none, ["Home"], [], [("og:title", "Home")], []⟩

/-- After the first audit of a quiet site, the report holds one record, reads back, and the
row loop gives the CSV's row. -/
theorem report_agrees_after_first_audit :
    ∃ c, Reachable (Engine.ofSite fun _ => []) "https://a.test" none (.init ["https://a.test/"]) c ∧
      c.results.length = 1 ∧
      (∀ r ∈ c.results, ∀ html, r.seo = some html → (homeSoup html).reachesLoneSurrogate = false) ∧
      (∀ r ∈ c.results, ∀ i ∈ r.ints, intFits i) ∧
      ∃ text, reportText homeSoup c.results = .ok text ∧
        loads text = .ok (.arr (c.results.map (recordJson homeSoup))) ∧
        (do let doc ← loads text; let rs ← doc.iter; rs.mapM exportRow) =
          .ok (c.results.map fun r => (csvRow (Snapshot.seo ∘ homeSoup) r).cells) := by
  have hc : Reachable (Engine.ofSite fun _ => []) "https://a.test" none (.init ["https://a.test/"]) _ :=
    .iterate .init (by decide) rfl
  exact ⟨_, hc, by decide, fun _ _ _ _ => rfl, by decide, report_agrees_with_csv hc homeSoup (fun _ _ _ _ => rfl) (by decide)⟩

end SiteAuditor
