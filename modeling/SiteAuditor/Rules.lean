/-
# SiteAuditor.Rules — the auditor's helpers, from `normalise_url` to `seed_urls_from_drush`

The pure functions of `auditor.py`, each over the Python model: `normaliseUrl`,
`isInternal`, `shouldSkip`, `pathOf`, `safeFilename`, `categorisePath` and
`seedUrlsFromDrush`. The three that parse a URL can raise `ValueError`, so they return
`Except Exn`. `Drush` stands for the two `drush sql:query` runs of
`subprocess.check_output(..., text=True)`: each prints its output, or fails with
`CalledProcessError`, which the script catches, or prints bytes the locale cannot decode,
and the `UnicodeDecodeError` that `check_output` then raises is not caught.

* `isInternal_netloc`: an href `is_internal` accepts has the base's netloc or none;
* `seedUrlsFromDrush_data`: every seed it returns is the stripped base followed by a path
  that starts with `/`.
-/
import SiteAuditor.Python.UrlParse

namespace SiteAuditor

open Py

set_option autoImplicit false

/-- `normalise_url`: `url.rstrip("/")`. -/
def normaliseUrl (url : String) : String :=
  rstrip (· = '/') url

@[simp] theorem normaliseUrl_normaliseUrl (url : String) :
    normaliseUrl (normaliseUrl url) = normaliseUrl url :=
  rstrip_rstrip _ url

/-- The href prefixes `is_internal` turns away before parsing. -/
def nonNavigablePrefixes : List String :=
  ["mailto:", "tel:", "javascript:", "#"]

/-- `is_internal(href, base)`: the href parses and, when it has a netloc, it is the base's. -/
def isInternal (href base : String) : Except Exn Bool :=
  if href = "" then .ok false
  else if nonNavigablePrefixes.any (startswith href) then .ok false
  else
    match urlparse href, urlparse base with
    | .error e, _ => .error e
    | .ok _, .error e => .error e
    | .ok parsed, .ok baseParsed => .ok !(parsed.netloc ≠ "" ∧ parsed.netloc ≠ baseParsed.netloc)

theorem isInternal_netloc {href base : String} (h : isInternal href base = .ok true) :
    ∃ p pb, urlparse href = .ok p ∧ urlparse base = .ok pb ∧ (p.netloc = "" ∨ p.netloc = pb.netloc) := by
  unfold isInternal at h
  split at h
  · cases h
  split at h
  · cases h
  split at h
  · cases h
  · cases h
  · rename_i parsed baseParsed hp hb
    refine ⟨parsed, baseParsed, hp, hb, ?_⟩
    simp only [Except.ok.injEq, Bool.not_eq_true', decide_eq_false_iff_not, not_and, not_not] at h
    by_cases he : parsed.netloc = ""
    · exact .inl he
    · exact .inr (h he)

/-- `SKIP_PREFIXES`: Drupal system and admin paths. -/
def skipPrefixes : List String :=
  ["/admin", "/core", "/modules", "/themes", "/sites/default/files", "/user", "/update.php",
    "/install.php", "/cron", "/batch", "/search", "/node/add", "/media/add"]

/-- `SKIP_EXTENSIONS`: files that are not pages. -/
def skipExtensions : List String :=
  [".jpg", ".jpeg", ".png", ".gif", ".webp", ".svg", ".pdf", ".doc", ".docx", ".xls", ".xlsx",
    ".css", ".js", ".woff", ".woff2", ".ttf", ".zip", ".gz", ".tar"]

/-- `should_skip(url)`: the lower-cased path starts with a skip prefix or ends with a skip
extension. -/
def shouldSkip (url : String) : Except Exn Bool :=
  (urlparse url).map fun parsed =>
    let path := lower parsed.path
    skipPrefixes.any (startswith path) || skipExtensions.any (endswith path)

theorem urlparse_of_shouldSkip {url : String} {b : Bool} (h : shouldSkip url = .ok b) :
    ∃ p, urlparse url = .ok p := by
  unfold shouldSkip at h
  cases hp : urlparse url with
  | error e => simp [hp, Except.map] at h
  | ok p => exact ⟨p, rfl⟩

/-- `path_of(url)`: the path, or `/` when it is empty. -/
def pathOf (url : String) : Except Exn String :=
  (urlparse url).map fun p => if p.path = "" then "/" else p.path

/-- The characters of `[a-zA-Z0-9_-]`. -/
def isFilenameChar (c : Char) : Bool :=
  c.isAlphanum || decide (c = '_' ∨ c = '-')

/-- `safe_filename(path)`: every other character of the stripped path becomes `_`, and
an empty name becomes `root`. -/
def safeFilename (path : String) : String :=
  let name : String := ⟨(strip (· = '/') path).data.map fun c => if isFilenameChar c then c else '_'⟩
  if name = "" then "root" else name

/-- `safe_filename` returns a non-empty name of `[a-zA-Z0-9_-]` characters. -/
theorem safeFilename_chars (path : String) :
    (safeFilename path).data ≠ [] ∧ ∀ c ∈ (safeFilename path).data, isFilenameChar c := by
  unfold safeFilename
  dsimp only
  split
  · exact ⟨by decide, by decide⟩
  · rename_i hname
    refine ⟨fun h => hname (String.ext h), fun c hc => ?_⟩
    obtain ⟨d, -, rfl⟩ := List.mem_map.mp hc
    split
    · assumption
    · decide

/-- `categorise_path(path)`: the first non-empty segment, or `homepage`. -/
def categorisePath (path : String) : String :=
  match ((strip (· = '/') path).data.splitOn '/').filter (· ≠ []) with
  | [] => "homepage"
  | part :: _ => ⟨part⟩

example : categorisePath "/about/team/" = "about" := by decide
example : safeFilename "/" = "root" := by decide

/-- How one `drush sql:query` run ends under `check_output(..., text=True)`. -/
inductive DrushRun
  /-- The command's standard output, decoded. -/
  | output (text : String)
  /-- A nonzero exit status with decodable output: `CalledProcessError`. -/
  | calledProcessError
  /-- Output the locale's encoding cannot decode: `check_output` raises `UnicodeDecodeError`
  while it reads the output, before it looks at the exit status. -/
  | undecodable (message : String)

/-- The `drush` command and how its two `sql:query` runs end. -/
structure Drush where
  cmd : String
  aliasQuery : DrushRun
  nodeQuery : DrushRun

/-- The stripped lines of a run's output: none after a `CalledProcessError`, which the
script catches; a `UnicodeDecodeError` escapes. -/
def DrushRun.lines : DrushRun → Except Exn (List String)
  | .output text => .ok ((splitlines text).map (strip isSpace))
  | .calledProcessError => .ok []
  | .undecodable message => .error (.error message)

/-- An output line of the alias query, stripped: the URL it seeds, unless it is empty or
the `alias` header. -/
def aliasSeed (base line : String) : Option String :=
  if line ≠ "" ∧ startswith line "alias" = false then
    some (base ++ if startswith line "/" then line else "/" ++ line)
  else none

/-- An output line of the node query, stripped: `{base}/node/{line}` for a number. -/
def nodeSeed (base line : String) : Option String :=
  if isdigit line then some (base ++ "/node/" ++ line) else none

/-- `seed_urls_from_drush(drush_cmd, base_url)`: the alias query runs first, and an
exception there ends the function before the node query. -/
def seedUrlsFromDrush (d : Drush) (baseUrl : String) : Except Exn (List String) := do
  let base := rstrip (· = '/') baseUrl
  let aliasLines ← d.aliasQuery.lines
  let nodeLines ← d.nodeQuery.lines
  pure (aliasLines.filterMap (aliasSeed base) ++ nodeLines.filterMap (nodeSeed base))

/-- Every seed is the stripped base followed by a path that starts with `/`. -/
theorem seedUrlsFromDrush_data {d : Drush} {baseUrl s : String} {seeds : List String}
    (h : seedUrlsFromDrush d baseUrl = .ok seeds) (hs : s ∈ seeds) :
    ∃ w, s.data = (rstrip (· = '/') baseUrl).data ++ '/' :: w := by
  unfold seedUrlsFromDrush at h
  cases ha : d.aliasQuery.lines <;> cases hn : d.nodeQuery.lines <;> simp only [ha, hn] at h <;> cases h
  simp only [List.mem_append, List.mem_filterMap] at hs
  rcases hs with ⟨line, -, hs⟩ | ⟨line, -, hs⟩
  · unfold aliasSeed at hs
    split at hs
    · cases hs
      split
      · rename_i hslash
        obtain ⟨w, hw⟩ := List.isPrefixOf_iff_prefix.mp hslash
        exact ⟨w, by simp [← hw]⟩
      · exact ⟨line.data, by simp⟩
    · cases hs
  · unfold nodeSeed at hs
    split at hs
    · cases hs
      exact ⟨"node/".data ++ line.data, by simp⟩
    · cases hs

end SiteAuditor
