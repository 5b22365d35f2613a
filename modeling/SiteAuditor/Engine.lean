/-
# SiteAuditor.Engine — the rendering engine's answers, and the record `audit_page` builds

The rendering engine is the collaborator whose behaviour the auditor does not decide,
so every call the auditor awaits is answered from outside the model. A `Reply` gives
the events the engine delivers while the call is awaited (console messages, page errors,
responses: the listeners `audit_page` registers run then) and the call's value or
exception. `PageEngine` holds the replies to the calls of one `audit_page`, one per
call site, and those of the responsive sweep once per viewport; every call site runs at
most once per viewport, so this covers every behaviour of the engine over one call. It
also holds the two clock readings and the file system's answer to `mkdir`.

`Session` is what the tab carries from one call to the next: the URL it shows and its
viewport. A context created without a viewport starts at Playwright's 1280x720.

`AuditRecord` is the dict `audit_page` builds, field for field. `seo` is kept as what
determines it: the HTML that BeautifulSoup reads (the snapshot is a pure function of it).
The CLS score is the JavaScript number the page script resolves, an exact rational here:
Playwright hands an integral one below `10^21` over as an `int` (its JSON text has no
fraction) and any other as a `float` (`jsNumber`), and `round(v, 4)` returns an `int` as it
is (`pyRound4`). A `float` is rounded exactly (`round4`), not as a double.
-/
import SiteAuditor.Rules
import SiteAuditor.Python.Int
import Mathlib.Data.Rat.Defs

namespace SiteAuditor

set_option autoImplicit false

/-- A viewport size. -/
structure Viewport where
  width : Nat
  height : Nat
deriving DecidableEq, Repr

/-- Playwright's viewport for a context created without one. -/
def Viewport.playwrightDefault : Viewport := ⟨1280, 720⟩

/-- The size `audit_page` restores after its responsive sweep. -/
def Viewport.desktop : Viewport := ⟨1440, 900⟩

/-- The tab's state between two calls. -/
structure Session where
  shown : String
  viewport : Viewport
deriving DecidableEq, Repr

/-- `context.new_page()` on a context created without a viewport. -/
def Session.blank : Session := ⟨"about:blank", .playwrightDefault⟩

/-- An entry of `VIEWPORTS`. -/
structure ViewportSpec where
  width : Nat
  height : Nat
  label : String
deriving DecidableEq, Repr

/-- `VIEWPORTS`: mobile, tablet and desktop. -/
def viewports : List ViewportSpec :=
  [⟨375, 812, "375"⟩, ⟨768, 1024, "768"⟩, ⟨1440, 900, "1440"⟩]

/-- What the engine delivers to a page's listeners. -/
inductive Event
  /-- A `console` message, with `msg.type` and `msg.text`. -/
  | console (type text : String)
  /-- A `pageerror`, with `str(err)`. -/
  | pageError (message : String)
  /-- A `response`, with the `content-length` header its handler read, or `none` when
  `response.all_headers()` raised. -/
  | response (url : String) (headers : Option (Option String))
deriving DecidableEq, Repr

/-- The engine's answer to one awaited call. -/
structure Reply (α : Type) where
  events : List Event
  outcome : Except Exn α

/-- A navigation's `Response`. -/
structure Response where
  status : Nat
deriving DecidableEq, Repr

/-- What the image script returns. -/
structure Images where
  total : Int
  missingAlt : Int
  broken : Int
deriving DecidableEq, Repr

/-- A violation summary the axe script returns. -/
structure Violation where
  id : String
  impact : Option String
  description : String
  nodes : Nat
deriving DecidableEq, Repr

/-- The answers to one `audit_page` call, in the order the calls are made. -/
structure PageEngine where
  /-- `page.goto(url, wait_until="networkidle", timeout=30_000)` -/
  goto : Reply (Option Response)
  /-- the fallback `page.goto(url, wait_until="domcontentloaded", timeout=15_000)` -/
  retry : Reply (Option Response)
  /-- `int((time.perf_counter() - t0) * 1000)` after the navigation -/
  loadMs : Int
  ttfb : Reply (Option Int)
  /-- the CLS script's `cls`, the sum of the layout shifts -/
  cls : Reply (Option Rat)
  /-- `page.content()` -/
  content : Reply String
  images : Reply Images
  resize : ViewportSpec → Reply Unit
  reload : ViewportSpec → Reply (Option Response)
  overflow : ViewportSpec → Reply Bool
  fixedOverflow : ViewportSpec → Reply Bool
  /-- `SCREENSHOTS_DIR.mkdir(exist_ok=True)` -/
  mkdir : ViewportSpec → Except Exn Unit
  screenshot : ViewportSpec → Reply Unit
  /-- `page.set_viewport_size({"width": 1440, "height": 900})` after the sweep -/
  reset : Reply Unit
  axeGoto : Reply (Option Response)
  axeScript : Reply Unit
  axeWait : Reply Unit
  axeRun : Reply (List Violation)
  /-- `page.goto(live_url, wait_until="networkidle", timeout=30_000)` -/
  liveGoto : Reply (Option Response)
  liveMs : Int

/-- An entry of `result["errors"]`. -/
structure ErrorEntry where
  type : String
  message : String
deriving DecidableEq, Repr

/-- An entry of `result["responsive_issues"]`. -/
structure ResponsiveIssue where
  viewport : String
  issue : String
  screenshot : Option String
deriving DecidableEq, Repr

/-- `result["accessibility"]`: the violations, or the one `axe_error` entry. -/
inductive Accessibility
  | violations (list : List Violation)
  | axeError (message : String)
deriving DecidableEq, Repr

/-- `result["live_comparison"]` once the comparison ran. -/
inductive LiveComparison
  | measured (liveUrl : String) (liveLoadTimeMs deltaMs : Int)
  | error (message : String)
deriving DecidableEq, Repr

/-- A Python number: a CLS score as `round(cls_value, 4)` leaves it. -/
inductive Score
  | int (n : Int)
  | float (x : Rat)
deriving DecidableEq, Repr

/-- The dict `audit_page` returns. `seo` is `none` for `{}` and `some html` for the
snapshot of `html`; `performanceVitals` is `none` for `{}` and `some cls` for `{"cls": cls}`. -/
structure AuditRecord where
  url : String
  fullUrl : String
  category : String
  statusCode : Option Nat
  loadTimeMs : Option Int
  ttfbMs : Option Int
  requestCount : Nat
  totalBytes : Int
  seo : Option String
  images : Images
  errors : List ErrorEntry
  responsiveIssues : List ResponsiveIssue
  accessibility : Accessibility
  performanceVitals : Option (Option Score)
  liveComparison : Option LiveComparison
deriving DecidableEq, Repr

/-- The record as `audit_page` first builds it, for `url` with path `path`. -/
def AuditRecord.start (url path : String) : AuditRecord where
  url := path
  fullUrl := url
  category := categorisePath path
  statusCode := none
  loadTimeMs := none
  ttfbMs := none
  requestCount := 0
  totalBytes := 0
  seo := none
  images := ⟨0, 0, 0⟩
  errors := []
  responsiveIssues := []
  accessibility := .violations []
  performanceVitals := none
  liveComparison := none

/-- `round(v, 4)` on the exact value: to the nearest multiple of `1/10000`, ties to even. -/
def round4 (v : Rat) : Rat :=
  let x := v * 10000
  let n := x.floor
  let r : Int :=
    if x - n < 1 / 2 then n else if x - n > 1 / 2 then n + 1 else if n % 2 = 0 then n else n + 1
  r / 10000

/-- The Python value Playwright returns for the JavaScript number `x`: an `int` for an
integral `x` below `10^21`, which `JSON.stringify` writes without a fraction or exponent,
and a `float` otherwise. -/
def jsNumber (x : Rat) : Score :=
  if x.den = 1 ∧ x.num.natAbs < 1000000000000000000000 then .int x.num else .float x

/-- `round(v, 4)` on a Python number: an `int` comes back as it is. -/
def pyRound4 : Score → Score
  | .int n => .int n
  | .float x => .float (round4 x)

end SiteAuditor
