/-
# SiteAuditor.AuditPage — `audit_page`, phase by phase

`audit_page` registers its listeners, navigates, and then runs its phases in the order
of the source's section comments: TTFB, CLS, SEO extraction, image audit, the copy of
`js_errors` into the record, the responsive checks, the viewport reset, accessibility
and the live comparison. `Tab` is the call's local state: the session, `js_errors` and
`request_sizes`. Awaiting a call first hands the reply's events to the listeners and
then returns or raises, so a call that raises still leaves its events behind. A phase
the source wraps in `try/except Exception` is a total function here; one with an
engine call outside any `try` returns `Except Exn`, and its exception leaves
`audit_page`.

The lemmas below the definitions say, per phase, what it leaves alone (`RecordFrame`,
the URL the tab shows, the viewport); the spec lemmas at the end assemble them:

* `auditPage_fullUrl`: the record's `full_url` is the URL audited;
* `auditPage_viewport`: the call leaves the viewport at 1440x900 when it got past its
  navigation (its record has a load time), and where it found it otherwise;
* `auditPage_shown`: without a comparison base, a call that got past its navigation
  leaves the tab showing the URL it audited.
-/
import SiteAuditor.Engine

namespace SiteAuditor

open Py

set_option autoImplicit false

/-! ## The tab and its listeners -/

/-- `audit_page`'s local state: the session and what its listeners have gathered. -/
structure Tab where
  session : Session
  jsErrors : List ErrorEntry
  requestSizes : List (String × Int)

/-- `request_sizes[url] = size` on an insertion-ordered dict. -/
def setSize (sizes : List (String × Int)) (url : String) (size : Int) : List (String × Int) :=
  if sizes.any (·.1 = url) then sizes.map fun entry => if entry.1 = url then (url, size) else entry
  else sizes ++ [(url, size)]

/-- `on_response`'s size for a `content-length` header: `int(cl) if cl else 0`, or
`none` when `int` raises and the handler passes. -/
def contentLengthSize : Option String → Option Int
  | none => some 0
  | some cl => if cl = "" then some 0 else (pyInt cl).toOption

/-- The entry `on_console` or `on_pageerror` appends for an event, if any. -/
def errorEntry : Event → Option ErrorEntry
  | .console type text => if type = "error" ∨ type = "warning" then some ⟨type, text⟩ else none
  | .pageError message => some ⟨"js_error", message⟩
  | .response _ _ => none

/-- The three listeners' work on one event. -/
def Tab.deliver (t : Tab) (event : Event) : Tab where
  session := t.session
  jsErrors := t.jsErrors ++ (errorEntry event).toList
  requestSizes :=
    match event with
    | .response url (some cl) => ((contentLengthSize cl).map (setSize t.requestSizes url)).getD t.requestSizes
    | _ => t.requestSizes

/-- The listeners' work on the events of one awaited call. -/
def Tab.receive (t : Tab) (events : List Event) : Tab :=
  events.foldl Tab.deliver t

/-- The tab after `page.goto(url)`: a navigation that returns leaves it showing `url`. -/
def Tab.goto {α : Type} (t : Tab) (url : String) (r : Reply α) : Tab :=
  let t := t.receive r.events
  match r.outcome with
  | .ok _ => { t with session := { t.session with shown := url } }
  | .error _ => t

/-- The tab after `page.set_viewport_size(size)`. -/
def Tab.setViewportSize (t : Tab) (size : Viewport) (r : Reply Unit) : Tab :=
  let t := t.receive r.events
  match r.outcome with
  | .ok _ => { t with session := { t.session with viewport := size } }
  | .error _ => t

@[simp] theorem Tab.receive_session (t : Tab) (events : List Event) :
    (t.receive events).session = t.session := by
  induction events generalizing t with
  | nil => rfl
  | cons event events ih => exact ih (t.deliver event)

@[simp] theorem Tab.receive_jsErrors (t : Tab) (events : List Event) :
    (t.receive events).jsErrors = t.jsErrors ++ events.filterMap errorEntry := by
  induction events generalizing t with
  | nil => simp [Tab.receive]
  | cons event events ih =>
      simp only [Tab.receive, List.foldl_cons] at ih ⊢
      rw [ih]
      cases h : errorEntry event <;> simp [Tab.deliver, h, List.filterMap_cons]

@[simp] theorem Tab.goto_viewport {α : Type} (t : Tab) (url : String) (r : Reply α) :
    (t.goto url r).session.viewport = t.session.viewport := by
  unfold Tab.goto; split <;> simp

@[simp] theorem Tab.goto_jsErrors {α : Type} (t : Tab) (url : String) (r : Reply α) :
    (t.goto url r).jsErrors = t.jsErrors ++ r.events.filterMap errorEntry := by
  unfold Tab.goto; split <;> simp

theorem Tab.goto_shown {α : Type} (t : Tab) (url : String) (r : Reply α) :
    (t.goto url r).session.shown = match r.outcome with | .ok _ => url | .error _ => t.session.shown := by
  unfold Tab.goto; split <;> simp_all

/-- A navigation to the URL the tab shows keeps it showing that URL. -/
theorem Tab.goto_shown_self {α : Type} {t : Tab} {url : String} (r : Reply α)
    (h : t.session.shown = url) : (t.goto url r).session.shown = url := by
  rw [Tab.goto_shown]; split <;> simp [h]

@[simp] theorem Tab.setViewportSize_shown (t : Tab) (size : Viewport) (r : Reply Unit) :
    (t.setViewportSize size r).session.shown = t.session.shown := by
  unfold Tab.setViewportSize; split <;> simp

/-! ## The phases -/

/-- The call in progress: the tab and the record being filled. -/
structure Audit where
  tab : Tab
  record : AuditRecord

/-- How the navigation ended. -/
inductive Navigation
  /-- One of the two attempts returned this response (or `None`). -/
  | loaded (tab : Tab) (response : Option Response)
  /-- The strict attempt timed out and the fallback raised `err`. -/
  | failed (tab : Tab) (err : Exn)
  /-- The strict attempt raised `err`, which is not a timeout: nothing catches it. -/
  | raised (err : Exn)

/-- The events of the fallback navigation, which runs when the strict one times out. -/
def PageEngine.retryEvents (e : PageEngine) : List Event :=
  match e.goto.outcome with
  | .error (.timeout _) => e.retry.events
  | _ => []

/-- The exception that ends the navigation when the strict attempt times out and the
fallback raises. -/
def PageEngine.navigationFailure (e : PageEngine) : Option Exn :=
  match e.goto.outcome, e.retry.outcome with
  | .error (.timeout _), .error err => some err
  | _, _ => none

/-- `---- Navigate ----`: the strict attempt, and on a timeout the relaxed one. -/
def navigate (e : PageEngine) (url : String) (t : Tab) : Navigation :=
  match e.goto.outcome with
  | .ok response => .loaded (t.goto url e.goto) response
  | .error (.timeout _) =>
      match e.retry.outcome with
      | .ok response => .loaded ((t.goto url e.goto).goto url e.retry) response
      | .error err => .failed ((t.goto url e.goto).goto url e.retry) err
  | .error err => .raised err

/-- After the navigation: the status code, the load time and the request accounting. -/
def recordLoad (e : PageEngine) (response : Option Response) (a : Audit) : Audit :=
  ⟨a.tab, { a.record with
    statusCode := match response with | some r => some r.status | none => a.record.statusCode
    loadTimeMs := some e.loadMs
    requestCount := a.tab.requestSizes.length
    totalBytes := (a.tab.requestSizes.map (·.2)).foldr (· + ·) 0 }⟩

/-- `---- TTFB ----` -/
def measureTtfb (e : PageEngine) (a : Audit) : Audit :=
  let tab := a.tab.receive e.ttfb.events
  match e.ttfb.outcome with
  | .ok ttfb => ⟨tab, { a.record with ttfbMs := ttfb }⟩
  | .error _ => ⟨tab, a.record⟩

/-- `---- CLS ----` -/
def measureCls (e : PageEngine) (a : Audit) : Audit :=
  let tab := a.tab.receive e.cls.events
  match e.cls.outcome with
  | .ok cls => ⟨tab, { a.record with performanceVitals := some (cls.map fun x => pyRound4 (jsNumber x)) }⟩
  | .error _ => ⟨tab, a.record⟩

/-- `---- SEO extraction ----`: `page.content()` stands outside any `try`. -/
def extractSeo (e : PageEngine) (a : Audit) : Except Exn Audit :=
  match e.content.outcome with
  | .ok html => .ok ⟨a.tab.receive e.content.events, { a.record with seo := some html }⟩
  | .error err => .error err

/-- `---- Image audit ----` -/
def auditImages (e : PageEngine) (a : Audit) : Audit :=
  let tab := a.tab.receive e.images.events
  match e.images.outcome with
  | .ok images => ⟨tab, { a.record with images }⟩
  | .error _ => ⟨tab, a.record⟩

/-- `result["errors"].extend(js_errors)`: a copy of the log as it stands. -/
def copyErrors (a : Audit) : Audit :=
  ⟨a.tab, { a.record with errors := a.record.errors ++ a.tab.jsErrors }⟩

/-- The issues one viewport's two layout predicates raise. -/
def issuesOf (overflow fixedOverflow : Bool) : List String :=
  (if overflow then ["horizontal_overflow"] else []) ++
    (if fixedOverflow then ["fixed_element_overflow"] else [])

/-- Recording a viewport's issues: `mkdir`, the screenshot (its failure leaves the
reference `None`) and one entry per issue. The file name uses `path_of(url)`, which is
the record's `url`. -/
def recordIssues (e : PageEngine) (vp : ViewportSpec) (issues : List String) (a : Audit) :
    Except Exn Audit :=
  if issues = [] then .ok a
  else
    match e.mkdir vp with
    | .error err => .error err
    | .ok _ =>
      let fname := safeFilename a.record.url ++ "_" ++ vp.label ++ ".png"
      let screenshot := match (e.screenshot vp).outcome with
        | .ok _ => some ("screenshots/" ++ fname)
        | .error _ => none
      .ok ⟨a.tab.receive (e.screenshot vp).events, { a.record with
        responsiveIssues := a.record.responsiveIssues ++ issues.map fun issue => ⟨vp.label, issue, screenshot⟩ }⟩

/-- One viewport of `---- Responsive checks ----`: `set_viewport_size` stands outside any
`try`; a failed re-navigation or evaluation skips the viewport (`continue`). -/
def checkViewport (e : PageEngine) (url : String) (a : Audit) (vp : ViewportSpec) : Except Exn Audit :=
  match (e.resize vp).outcome with
  | .error err => .error err
  | .ok _ =>
    let tab := (a.tab.setViewportSize ⟨vp.width, vp.height⟩ (e.resize vp)).goto url (e.reload vp)
    match (e.reload vp).outcome with
    | .error _ => .ok ⟨tab, a.record⟩
    | .ok _ =>
      let tab := tab.receive (e.overflow vp).events
      match (e.overflow vp).outcome with
      | .error _ => .ok ⟨tab, a.record⟩
      | .ok overflow =>
        let tab := tab.receive (e.fixedOverflow vp).events
        match (e.fixedOverflow vp).outcome with
        | .error _ => .ok ⟨tab, a.record⟩
        | .ok fixedOverflow => recordIssues e vp (issuesOf overflow fixedOverflow) ⟨tab, a.record⟩

/-- `---- Responsive checks ----`: `for vp in VIEWPORTS`. -/
def checkResponsive (e : PageEngine) (url : String) (a : Audit) : Except Exn Audit :=
  viewports.foldlM (checkViewport e url) a

/-- `# Reset viewport`, outside any `try`. -/
def resetViewport (e : PageEngine) (a : Audit) : Except Exn Audit :=
  match e.reset.outcome with
  | .ok _ => .ok ⟨a.tab.setViewportSize .desktop e.reset, a.record⟩
  | .error err => .error err

/-- The four calls of the accessibility phase, up to the first that raises. -/
def runAxe (e : PageEngine) (url : String) (t : Tab) : Tab × Except Exn (List Violation) :=
  let t := t.goto url e.axeGoto
  match e.axeGoto.outcome with
  | .error err => (t, .error err)
  | .ok _ =>
    let t := t.receive e.axeScript.events
    match e.axeScript.outcome with
    | .error err => (t, .error err)
    | .ok _ =>
      let t := t.receive e.axeWait.events
      match e.axeWait.outcome with
      | .error err => (t, .error err)
      | .ok _ => (t.receive e.axeRun.events, e.axeRun.outcome)

/-- `---- Accessibility via axe-core ----`: any failure becomes the one `axe_error` entry. -/
def auditAccessibility (e : PageEngine) (url : String) (a : Audit) : Audit :=
  let run := runAxe e url a.tab
  ⟨run.1, { a.record with
    accessibility := match run.2 with
      | .ok violations => .violations violations
      | .error err => .axeError err.message }⟩

/-- `---- Live comparison ----`, when `compare_base` is truthy. `path_of(url)` is the
record's `url`. -/
def compareLive (e : PageEngine) (compareBase : Option String) (a : Audit) : Audit :=
  match compareBase with
  | some base =>
    if base = "" then a
    else
      let liveUrl := normaliseUrl base ++ a.record.url
      let tab := a.tab.goto liveUrl e.liveGoto
      match e.liveGoto.outcome with
      | .ok _ => ⟨tab, { a.record with
          liveComparison := some (.measured liveUrl e.liveMs (e.liveMs - a.record.loadTimeMs.getD 0)) }⟩
      | .error err => ⟨tab, { a.record with liveComparison := some (.error err.message) }⟩
  | none => a

/-- The phases after a navigation that returned. -/
def auditLoaded (e : PageEngine) (url : String) (compareBase : Option String) (a : Audit) :
    Except Exn Audit :=
  match extractSeo e (measureCls e (measureTtfb e a)) with
  | .error err => .error err
  | .ok a =>
    match checkResponsive e url (copyErrors (auditImages e a)) with
    | .error err => .error err
    | .ok a =>
      match resetViewport e a with
      | .error err => .error err
      | .ok a => .ok (compareLive e compareBase (auditAccessibility e url a))

/-- `audit_page(page, url, base_url, compare_base)` on a tab in session `s`: the record,
and the session the tab is left in. `base_url` is not read. -/
def auditPage (e : PageEngine) (url _baseUrl : String) (compareBase : Option String) (s : Session) :
    Except Exn (AuditRecord × Session) :=
  match pathOf url with
  | .error err => .error err
  | .ok path =>
    let record := AuditRecord.start url path
    match navigate e url ⟨s, [], []⟩ with
    | .raised err => .error err
    | .failed tab err =>
        .ok ({ record with errors := record.errors ++ [⟨"navigation_error", err.message⟩] }, tab.session)
    | .loaded tab response =>
        (auditLoaded e url compareBase (recordLoad e response ⟨tab, record⟩)).map
          fun a => (a.record, a.tab.session)

/-! ## What each phase leaves alone -/

/-- A record of the same page with the same load time, request accounting and error log:
what every phase but the load accounting and the copy of the log keeps. -/
structure RecordFrame (r r' : AuditRecord) : Prop where
  fullUrl : r'.fullUrl = r.fullUrl
  loadTimeMs : r'.loadTimeMs = r.loadTimeMs
  requestCount : r'.requestCount = r.requestCount
  totalBytes : r'.totalBytes = r.totalBytes
  errors : r'.errors = r.errors

theorem RecordFrame.refl (r : AuditRecord) : RecordFrame r r := ⟨rfl, rfl, rfl, rfl, rfl⟩

theorem RecordFrame.trans {r r' r'' : AuditRecord} (h : RecordFrame r r') (h' : RecordFrame r' r'') :
    RecordFrame r r'' :=
  ⟨h'.fullUrl.trans h.fullUrl, h'.loadTimeMs.trans h.loadTimeMs, h'.requestCount.trans h.requestCount,
    h'.totalBytes.trans h.totalBytes, h'.errors.trans h.errors⟩

section Phases

variable {e : PageEngine} {url : String} {a a' : Audit}

theorem navigate_loaded {t tab : Tab} {response : Option Response}
    (h : navigate e url t = .loaded tab response) :
    tab.session.shown = url ∧ tab.session.viewport = t.session.viewport ∧
      tab.jsErrors = t.jsErrors ++ (e.goto.events ++ e.retryEvents).filterMap errorEntry ∧
      e.navigationFailure = none := by
  unfold navigate at h
  split at h
  · cases h; rename_i heq
    simp [Tab.goto_shown, heq, PageEngine.retryEvents, PageEngine.navigationFailure]
  · split at h <;> cases h
    rename_i heq _ heq'
    simp [Tab.goto_shown, heq, heq', PageEngine.retryEvents, PageEngine.navigationFailure]
  · cases h

theorem navigate_failed {t tab : Tab} {err : Exn} (h : navigate e url t = .failed tab err) :
    tab.session = t.session ∧ e.navigationFailure = some err := by
  unfold navigate at h
  split at h
  · cases h
  · split at h <;> cases h
    rename_i msg heq _ heq'
    refine ⟨?_, by simp [PageEngine.navigationFailure, heq, heq']⟩
    unfold Tab.goto
    simp [heq, heq']
  · cases h

@[simp] theorem measureTtfb_tab : (measureTtfb e a).tab = a.tab.receive e.ttfb.events := by
  unfold measureTtfb; split <;> rfl

theorem measureTtfb_frame : RecordFrame a.record (measureTtfb e a).record := by
  unfold measureTtfb; split <;> exact ⟨rfl, rfl, rfl, rfl, rfl⟩

@[simp] theorem measureCls_tab : (measureCls e a).tab = a.tab.receive e.cls.events := by
  unfold measureCls; split <;> rfl

theorem measureCls_frame : RecordFrame a.record (measureCls e a).record := by
  unfold measureCls; split <;> exact ⟨rfl, rfl, rfl, rfl, rfl⟩

theorem extractSeo_ok (h : extractSeo e a = .ok a') :
    a'.tab = a.tab.receive e.content.events ∧ RecordFrame a.record a'.record := by
  unfold extractSeo at h
  split at h <;> cases h
  exact ⟨rfl, rfl, rfl, rfl, rfl, rfl⟩

@[simp] theorem auditImages_tab : (auditImages e a).tab = a.tab.receive e.images.events := by
  unfold auditImages; split <;> rfl

theorem auditImages_frame : RecordFrame a.record (auditImages e a).record := by
  unfold auditImages; split <;> exact ⟨rfl, rfl, rfl, rfl, rfl⟩

theorem recordIssues_ok {vp : ViewportSpec} {issues : List String} (h : recordIssues e vp issues a = .ok a') :
    RecordFrame a.record a'.record ∧ a'.tab.session = a.tab.session := by
  unfold recordIssues at h
  split at h
  · cases h; exact ⟨.refl _, rfl⟩
  · split at h <;> cases h
    exact ⟨⟨rfl, rfl, rfl, rfl, rfl⟩, by simp⟩

/-- One viewport of the sweep keeps the record's frame, and a tab showing `url` still
shows it: every navigation of the sweep is to `url`. -/
theorem checkViewport_ok {vp : ViewportSpec} (h : checkViewport e url a vp = .ok a') :
    RecordFrame a.record a'.record ∧ (a.tab.session.shown = url → a'.tab.session.shown = url) := by
  have shows : a.tab.session.shown = url →
      ((a.tab.setViewportSize ⟨vp.width, vp.height⟩ (e.resize vp)).goto url (e.reload vp)).session.shown = url :=
    fun hs => Tab.goto_shown_self _ (by simpa using hs)
  unfold checkViewport at h
  split at h
  · cases h
  split at h
  · cases h; exact ⟨.refl _, shows⟩
  split at h
  · cases h; exact ⟨.refl _, by simpa using shows⟩
  split at h
  · cases h; exact ⟨.refl _, by simpa using shows⟩
  · obtain ⟨frame, session⟩ := recordIssues_ok h
    exact ⟨frame, fun hs => by simpa [session] using shows hs⟩

/-- What every viewport's check keeps, the sweep keeps. -/
theorem checkResponsive_induction (P : Audit → Prop)
    (step : ∀ vp ∈ viewports, ∀ b b', checkViewport e url b vp = .ok b' → P b → P b')
    (h : checkResponsive e url a = .ok a') (ha : P a) : P a' := by
  have sweep : ∀ (vps : List ViewportSpec), (∀ vp ∈ vps, vp ∈ viewports) → ∀ b, P b → ∀ b',
      vps.foldlM (checkViewport e url) b = .ok b' → P b' := by
    intro vps
    induction vps with
    | nil => intro _ b hb b' h; cases h; exact hb
    | cons vp vps ih =>
      intro hvps b hb b' h
      rw [List.foldlM_cons] at h
      cases hc : checkViewport e url b vp with
      | error err => rw [hc] at h; cases h
      | ok c =>
        rw [hc] at h
        exact ih (fun v hv => hvps v (.tail _ hv)) c (step vp (hvps vp (.head _)) b c hc hb) b' h
  exact sweep viewports (fun _ h => h) a ha a' h

theorem checkResponsive_ok (h : checkResponsive e url a = .ok a') :
    RecordFrame a.record a'.record ∧ (a.tab.session.shown = url → a'.tab.session.shown = url) :=
  checkResponsive_induction (fun b => RecordFrame a.record b.record ∧ (a.tab.session.shown = url → b.tab.session.shown = url))
    (fun _ _ _ _ hb ⟨frame, shows⟩ =>
      let ⟨frame', shows'⟩ := checkViewport_ok hb
      ⟨frame.trans frame', shows' ∘ shows⟩)
    h ⟨.refl _, id⟩

theorem resetViewport_ok (h : resetViewport e a = .ok a') :
    a'.record = a.record ∧ a'.tab.session.viewport = .desktop ∧
      a'.tab.session.shown = a.tab.session.shown := by
  unfold resetViewport at h
  split at h <;> cases h
  rename_i heq
  simp [Tab.setViewportSize, heq]

theorem runAxe_session (t : Tab) :
    (runAxe e url t).1.session.viewport = t.session.viewport ∧
      (t.session.shown = url → (runAxe e url t).1.session.shown = url) := by
  have shows := fun hs : t.session.shown = url => Tab.goto_shown_self e.axeGoto hs
  unfold runAxe
  repeat' split
  all_goals simp_all

theorem auditAccessibility_frame (e : PageEngine) (url : String) (a : Audit) :
    RecordFrame a.record (auditAccessibility e url a).record ∧
      (auditAccessibility e url a).tab.session.viewport = a.tab.session.viewport ∧
      (a.tab.session.shown = url → (auditAccessibility e url a).tab.session.shown = url) :=
  ⟨⟨rfl, rfl, rfl, rfl, rfl⟩, runAxe_session a.tab⟩

theorem compareLive_frame (e : PageEngine) (compareBase : Option String) (a : Audit) :
    RecordFrame a.record (compareLive e compareBase a).record ∧
      (compareLive e compareBase a).tab.session.viewport = a.tab.session.viewport := by
  unfold compareLive
  repeat' split
  all_goals exact ⟨⟨rfl, rfl, rfl, rfl, rfl⟩, by simp⟩

end Phases

/-! ## `audit_page` -/

section Spec

variable {e : PageEngine} {url baseUrl : String} {compareBase : Option String}

/-- The phases after the navigation, taken apart at the three that can raise. -/
theorem auditLoaded_cases {a a' : Audit} (h : auditLoaded e url compareBase a = .ok a') :
    ∃ b c d, extractSeo e (measureCls e (measureTtfb e a)) = .ok b ∧
      checkResponsive e url (copyErrors (auditImages e b)) = .ok c ∧
      resetViewport e c = .ok d ∧ a' = compareLive e compareBase (auditAccessibility e url d) := by
  unfold auditLoaded at h
  split at h
  · cases h
  split at h
  · cases h
  split at h
  · cases h
  · cases h; exact ⟨_, _, _, ‹_›, ‹_›, ‹_›, rfl⟩

/-- `audit_page` taken apart at its navigation. -/
theorem auditPage_cases {s s' : Session} {r : AuditRecord}
    (h : auditPage e url baseUrl compareBase s = .ok (r, s')) :
    ∃ path, pathOf url = .ok path ∧
      ((∃ tab err, navigate e url ⟨s, [], []⟩ = .failed tab err ∧ s' = tab.session ∧
          r = { AuditRecord.start url path with errors := [⟨"navigation_error", err.message⟩] }) ∨
        (∃ tab response a', navigate e url ⟨s, [], []⟩ = .loaded tab response ∧
          auditLoaded e url compareBase (recordLoad e response ⟨tab, AuditRecord.start url path⟩) = .ok a' ∧
          r = a'.record ∧ s' = a'.tab.session)) := by
  unfold auditPage at h
  split at h
  · cases h
  rename_i path hpath
  refine ⟨path, hpath, ?_⟩
  split at h
  · cases h
  · cases h; exact .inl ⟨_, _, ‹_›, rfl, rfl⟩
  · rename_i tab response hnav
    dsimp only at h
    cases hl : auditLoaded e url compareBase (recordLoad e response ⟨tab, AuditRecord.start url path⟩) with
    | error err => rw [hl] at h; cases h
    | ok a' => rw [hl] at h; cases h; exact .inr ⟨tab, response, a', hnav, hl, rfl, rfl⟩

/-- The phases after the navigation keep the page and the load time, copy the events
of the calls up to the image audit into the error log, leave the viewport at 1440x900,
and, without a comparison, leave a tab that showed `url` showing it. -/
theorem auditLoaded_ok {a a' : Audit} (h : auditLoaded e url compareBase a = .ok a') :
    a'.record.fullUrl = a.record.fullUrl ∧ a'.record.loadTimeMs = a.record.loadTimeMs ∧
      a'.record.errors = a.record.errors ++ a.tab.jsErrors ++
        (e.ttfb.events ++ e.cls.events ++ e.content.events ++ e.images.events).filterMap errorEntry ∧
      a'.tab.session.viewport = .desktop ∧
      (compareBase = none → a.tab.session.shown = url → a'.tab.session.shown = url) ∧
      a'.record.requestCount = a.record.requestCount ∧ a'.record.totalBytes = a.record.totalBytes := by
  obtain ⟨b, c, d, hb, hc, hd, rfl⟩ := auditLoaded_cases h
  obtain ⟨tb, fb⟩ := extractSeo_ok hb
  obtain ⟨fc, sc⟩ := checkResponsive_ok hc
  obtain ⟨rd, vd, sd⟩ := resetViewport_ok hd
  obtain ⟨fx, vx, sx⟩ := auditAccessibility_frame e url d
  obtain ⟨fl, vl⟩ := compareLive_frame e compareBase (auditAccessibility e url d)
  have before : RecordFrame a.record (auditImages e b).record :=
    ((measureTtfb_frame.trans measureCls_frame).trans fb).trans auditImages_frame
  have after : RecordFrame (copyErrors (auditImages e b)).record
      (compareLive e compareBase (auditAccessibility e url d)).record :=
    (fc.trans (rd ▸ fx)).trans fl
  refine ⟨after.fullUrl.trans before.fullUrl, after.loadTimeMs.trans before.loadTimeMs, ?_,
    vl.trans (vx.trans vd), ?_, after.requestCount.trans before.requestCount,
    after.totalBytes.trans before.totalBytes⟩
  · rw [after.errors]
    simp [copyErrors, before.errors, tb]
  · rintro rfl hs
    exact sx (sd ▸ sc (by simpa [copyErrors, tb] using hs))

variable {s s' : Session} {r : AuditRecord}

/-- The record is the page's: its `full_url` is the URL audited. -/
theorem auditPage_fullUrl (h : auditPage e url baseUrl compareBase s = .ok (r, s')) : r.fullUrl = url := by
  obtain ⟨path, -, ⟨tab, err, -, -, rfl⟩ | ⟨tab, response, a', -, hl, rfl, -⟩⟩ := auditPage_cases h
  · rfl
  · exact (auditLoaded_ok hl).1

/-- The call leaves the viewport at 1440x900 when it got past its navigation (its record
has a load time), and where it found it otherwise. -/
theorem auditPage_viewport (h : auditPage e url baseUrl compareBase s = .ok (r, s')) :
    s'.viewport = if r.loadTimeMs.isSome then .desktop else s.viewport := by
  obtain ⟨path, -, ⟨tab, err, hnav, rfl, rfl⟩ | ⟨tab, response, a', -, hl, rfl, rfl⟩⟩ := auditPage_cases h
  · simp [AuditRecord.start, (navigate_failed hnav).1]
  · obtain ⟨-, hload, -, hview, -⟩ := auditLoaded_ok hl
    simp [hload, recordLoad, hview]

/-- Without a comparison base, a call that got past its navigation leaves the tab
showing the URL it audited. -/
theorem auditPage_shown (h : auditPage e url baseUrl none s = .ok (r, s')) (hload : r.loadTimeMs.isSome) :
    s'.shown = url := by
  obtain ⟨path, -, ⟨tab, err, -, -, rfl⟩ | ⟨tab, response, a', hnav, hl, rfl, rfl⟩⟩ := auditPage_cases h
  · simp [AuditRecord.start] at hload
  · exact (auditLoaded_ok hl).2.2.2.2.1 rfl (navigate_loaded hnav).1

/-- A call whose strict navigation returns gets past its navigation. -/
theorem auditPage_loadTimeMs {response : Option Response} (hgoto : e.goto.outcome = .ok response)
    (h : auditPage e url baseUrl compareBase s = .ok (r, s')) : r.loadTimeMs.isSome := by
  obtain ⟨path, -, ⟨tab, err, hnav, -, -⟩ | ⟨tab, response, a', -, hl, rfl, -⟩⟩ := auditPage_cases h
  · have hfail := (navigate_failed hnav).2
    simp [PageEngine.navigationFailure, hgoto] at hfail
  · simp [(auditLoaded_ok hl).2.1, recordLoad]

/-- The events delivered from the start of a call to the copy of its error log: those of
the navigation and its fallback, and of the TTFB, CLS, content and image calls. -/
def PageEngine.eventsBeforeCopy (e : PageEngine) : List Event :=
  e.goto.events ++ e.retryEvents ++ e.ttfb.events ++ e.cls.events ++ e.content.events ++ e.images.events

/-- The error log of a record `audit_page` returns: the one `navigation_error` entry when
both navigation attempts fail, and otherwise the console errors and warnings and the page
errors delivered up to the copy, in the order they were delivered. -/
theorem auditPage_errors (h : auditPage e url baseUrl compareBase s = .ok (r, s')) :
    r.errors = match e.navigationFailure with
      | some err => [⟨"navigation_error", err.message⟩]
      | none => e.eventsBeforeCopy.filterMap errorEntry := by
  obtain ⟨path, -, ⟨tab, err, hnav, -, rfl⟩ | ⟨tab, response, a', hnav, hl, rfl, -⟩⟩ := auditPage_cases h
  · simp [(navigate_failed hnav).2]
  · obtain ⟨-, -, hjs, hnone⟩ := navigate_loaded hnav
    simp [(auditLoaded_ok hl).2.2.1, hnone, recordLoad, AuditRecord.start, hjs,
      PageEngine.eventsBeforeCopy, List.filterMap_append]

end Spec

/-! ## A quiet engine -/

/-- An engine under which every call returns at once, with no events: status 200, no
TTFB or CLS value, empty content, no images, no layout issue, no violation. -/
def PageEngine.quiet : PageEngine where
  goto := ⟨[], .ok (some ⟨200⟩)⟩
  retry := ⟨[], .ok (some ⟨200⟩)⟩
  loadMs := 0
  ttfb := ⟨[], .ok none⟩
  cls := ⟨[], .ok none⟩
  content := ⟨[], .ok ""⟩
  images := ⟨[], .ok ⟨0, 0, 0⟩⟩
  resize _ := ⟨[], .ok ()⟩
  reload _ := ⟨[], .ok (some ⟨200⟩)⟩
  overflow _ := ⟨[], .ok false⟩
  fixedOverflow _ := ⟨[], .ok false⟩
  mkdir _ := .ok ()
  screenshot _ := ⟨[], .ok ()⟩
  reset := ⟨[], .ok ()⟩
  axeGoto := ⟨[], .ok (some ⟨200⟩)⟩
  axeScript := ⟨[], .ok ()⟩
  axeWait := ⟨[], .ok ()⟩
  axeRun := ⟨[], .ok []⟩
  liveGoto := ⟨[], .ok (some ⟨200⟩)⟩
  liveMs := 0

/-- The quiet engine, except that the mobile re-navigation of the responsive sweep
delivers a console error. -/
def PageEngine.lateConsoleError : PageEngine :=
  { PageEngine.quiet with
    reload := fun vp => ⟨if vp.label = "375" then [.console "error" "late"] else [], .ok (some ⟨200⟩)⟩ }

/-- A console error delivered during the responsive sweep is missing from the record's
error log. -/
theorem auditPage_drops_sweep_event :
    ∃ r s', auditPage .lateConsoleError "https://a.test/" "https://a.test" none .blank = .ok (r, s') ∧
      (PageEngine.lateConsoleError.reload ⟨375, 812, "375"⟩).events = [.console "error" "late"] ∧
      ⟨"error", "late"⟩ ∉ r.errors :=
  ⟨_, _, rfl, rfl, by decide⟩

/-- The quiet engine, except that the strict navigation times out after a console warning
and the fallback raises. -/
def PageEngine.unreachable : PageEngine :=
  { PageEngine.quiet with
    goto := ⟨[.console "warning" "slow"], .error (.timeout "Timeout 30000ms exceeded")⟩
    retry := ⟨[], .error (.error "net::ERR_CONNECTION_REFUSED")⟩ }

/-- When both navigations fail, the record's error log is the one `navigation_error` entry,
without the warning delivered before the timeout. -/
theorem auditPage_errors_of_failed_navigation :
    ∃ r s', auditPage .unreachable "https://a.test/" "https://a.test" none .blank = .ok (r, s') ∧
      r.errors = [⟨"navigation_error", "net::ERR_CONNECTION_REFUSED"⟩] := by
  obtain ⟨r, s', h⟩ : ∃ r s', auditPage .unreachable "https://a.test/" "https://a.test" none .blank =
    .ok (r, s') := ⟨_, _, rfl⟩
  exact ⟨r, s', h, auditPage_errors h⟩

/-- Two engines that differ only in the SEO phase's one call, `page.content()`: under the
first `audit_page` returns a record, under the second it raises. -/
theorem auditPage_content_failure_escapes :
    (∃ r s', auditPage .quiet "https://a.test/" "https://a.test" none .blank = .ok (r, s')) ∧
      auditPage { PageEngine.quiet with content := ⟨[], .error (.error "Target closed")⟩ }
        "https://a.test/" "https://a.test" none .blank = .error (.error "Target closed") :=
  ⟨⟨_, _, rfl⟩, rfl⟩

end SiteAuditor
