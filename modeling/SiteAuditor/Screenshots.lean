/-
# SiteAuditor.Screenshots — the screenshots a record refers to

The responsive sweep saves the screenshot of a viewport with layout issues as
`screenshots/{safe_filename(path_of(url))}_{label}.png`, and records the reference with
each of the viewport's issues (or `None` when the screenshot raised). `ShotsNamed r`
says that every issue of `r` is at one of `VIEWPORTS` and refers to no other file than
the one for `r`'s own path at that viewport. Only `recordIssues` adds issues, and it adds
named ones; every other phase keeps the path and the issues (`SameShots`). So every
record `audit_page` returns is `ShotsNamed` (`auditPage_shotsNamed`), and so is every
record of every run (`screenshots_named`), whose name, by `safeFilename_chars`, is
non-empty and has no `/` and no `.`: no reference leaves the directory.
-/
import SiteAuditor.Runs

namespace SiteAuditor

set_option autoImplicit false

/-- Every issue of `r` is at one of `VIEWPORTS`, and its screenshot, if any, is the file
for `r`'s path at that viewport. -/
def ShotsNamed (r : AuditRecord) : Prop :=
  ∀ i ∈ r.responsiveIssues, i.viewport ∈ viewports.map (·.label) ∧
    ∀ p, i.screenshot = some p → p = "screenshots/" ++ safeFilename r.url ++ "_" ++ i.viewport ++ ".png"

/-- `r'` has the path and the responsive issues of `r`. -/
structure SameShots (r r' : AuditRecord) : Prop where
  url : r'.url = r.url
  responsiveIssues : r'.responsiveIssues = r.responsiveIssues

theorem ShotsNamed.of_sameShots {r r' : AuditRecord} (h : ShotsNamed r) (hs : SameShots r r') :
    ShotsNamed r' := by
  unfold ShotsNamed
  rw [hs.url, hs.responsiveIssues]
  exact h

theorem ShotsNamed.start (url path : String) : ShotsNamed (AuditRecord.start url path) :=
  fun _ h => by cases h

section Phases

variable {e : PageEngine} {url : String} {a a' : Audit}

theorem measureTtfb_sameShots : SameShots a.record (measureTtfb e a).record := by
  unfold measureTtfb; split <;> exact ⟨rfl, rfl⟩

theorem measureCls_sameShots : SameShots a.record (measureCls e a).record := by
  unfold measureCls; split <;> exact ⟨rfl, rfl⟩

theorem extractSeo_sameShots (h : extractSeo e a = .ok a') : SameShots a.record a'.record := by
  unfold extractSeo at h; split at h <;> cases h; exact ⟨rfl, rfl⟩

theorem auditImages_sameShots : SameShots a.record (auditImages e a).record := by
  unfold auditImages; split <;> exact ⟨rfl, rfl⟩

theorem resetViewport_sameShots (h : resetViewport e a = .ok a') : SameShots a.record a'.record := by
  unfold resetViewport at h; split at h <;> cases h; exact ⟨rfl, rfl⟩

theorem auditAccessibility_sameShots : SameShots a.record (auditAccessibility e url a).record :=
  ⟨rfl, rfl⟩

theorem compareLive_sameShots {compareBase : Option String} :
    SameShots a.record (compareLive e compareBase a).record := by
  unfold compareLive
  split
  · split
    · exact ⟨rfl, rfl⟩
    · split <;> exact ⟨rfl, rfl⟩
  · exact ⟨rfl, rfl⟩

/-- The issues `recordIssues` adds refer to the screenshot for the record's path at `vp`. -/
theorem recordIssues_shotsNamed {vp : ViewportSpec} {issues : List String} (hvp : vp ∈ viewports)
    (h : recordIssues e vp issues a = .ok a') (ha : ShotsNamed a.record) : ShotsNamed a'.record := by
  unfold recordIssues at h
  split at h
  · cases h; exact ha
  split at h
  · cases h
  cases h
  intro i hi
  rcases List.mem_append.mp hi with hi | hi
  · exact ha i hi
  obtain ⟨issue, -, rfl⟩ := List.mem_map.mp hi
  refine ⟨List.mem_map_of_mem _ hvp, fun p hp => ?_⟩
  dsimp only at hp
  split at hp
  · cases hp
    simp only [String.append_assoc]
  · cases hp

theorem checkViewport_shotsNamed {vp : ViewportSpec} (hvp : vp ∈ viewports)
    (h : checkViewport e url a vp = .ok a') (ha : ShotsNamed a.record) : ShotsNamed a'.record := by
  unfold checkViewport at h
  split at h
  · cases h
  dsimp only at h
  split at h
  · cases h; exact ha
  split at h
  · cases h; exact ha
  split at h
  · cases h; exact ha
  exact recordIssues_shotsNamed hvp h ha

theorem checkResponsive_shotsNamed (h : checkResponsive e url a = .ok a') (ha : ShotsNamed a.record) :
    ShotsNamed a'.record :=
  checkResponsive_induction (fun b => ShotsNamed b.record) (fun _ hvp _ _ hb => checkViewport_shotsNamed hvp hb) h ha

end Phases

/-- Every record `audit_page` returns refers to no screenshot but the ones the sweep saved
for its path at one of `VIEWPORTS`. -/
theorem auditPage_shotsNamed {e : PageEngine} {url baseUrl : String} {compareBase : Option String}
    {s s' : Session} {r : AuditRecord} (h : auditPage e url baseUrl compareBase s = .ok (r, s')) :
    ShotsNamed r := by
  obtain ⟨path, -, ⟨tab, err, -, -, rfl⟩ | ⟨tab, response, a', -, hl, rfl, -⟩⟩ := auditPage_cases h
  · exact (ShotsNamed.start url path).of_sameShots ⟨rfl, rfl⟩
  obtain ⟨b, c, d, hb, hc, hd, rfl⟩ := auditLoaded_cases hl
  have hstart : ShotsNamed (recordLoad e response ⟨tab, AuditRecord.start url path⟩).record :=
    (ShotsNamed.start url path).of_sameShots ⟨rfl, rfl⟩
  have hb' : ShotsNamed b.record :=
    ((hstart.of_sameShots measureTtfb_sameShots).of_sameShots measureCls_sameShots).of_sameShots
      (extractSeo_sameShots hb)
  have hc' : ShotsNamed c.record :=
    checkResponsive_shotsNamed hc ((hb'.of_sameShots auditImages_sameShots).of_sameShots ⟨rfl, rfl⟩)
  exact (((hc'.of_sameShots (resetViewport_sameShots hd)).of_sameShots
    auditAccessibility_sameShots).of_sameShots compareLive_sameShots)

theorem Reachable.shotsNamed {E : Engine} {baseUrl : String} {compareBase : Option String}
    {seeds : List String} {c : Crawl} (hc : Reachable E baseUrl compareBase (.init seeds) c) :
    ∀ r ∈ c.results, ShotsNamed r := by
  induction hc with
  | init => intro r hr; cases hr
  | iterate _ hne h ih =>
    obtain ⟨url, rest, hq⟩ := List.exists_cons_of_ne_nil hne
    rcases iterate_cases hq h with ⟨rfl, -⟩ | ⟨-, -, record, session, links, haudit, -, rfl⟩
    · exact ih
    · intro r hr
      rcases List.mem_append.mp hr with hr | hr
      · exact ih r hr
      · rw [List.mem_singleton.mp hr]
        exact auditPage_shotsNamed haudit

/-- In every run, under every engine: every responsive issue of every record is at one of
`VIEWPORTS`, and the screenshot it refers to, if any, is
`screenshots/{safe_filename(r.url)}_{viewport}.png` for the record's own path, where the
name `safe_filename` gives is non-empty and made of `[a-zA-Z0-9_-]` only. -/
theorem screenshots_named {E : Engine} {baseUrl : String} {compareBase : Option String}
    {seeds : List String} {c : Crawl} (hc : Reachable E baseUrl compareBase (.init seeds) c) :
    ∀ r ∈ c.results, ∀ i ∈ r.responsiveIssues, i.viewport ∈ viewports.map (·.label) ∧
      ∀ p, i.screenshot = some p → p = "screenshots/" ++ safeFilename r.url ++ "_" ++ i.viewport ++ ".png" ∧
        (safeFilename r.url).data ≠ [] ∧ ∀ ch ∈ (safeFilename r.url).data, isFilenameChar ch :=
  fun r hr i hi =>
    ⟨(hc.shotsNamed r hr i hi).1, fun p hp => ⟨(hc.shotsNamed r hr i hi).2 p hp, safeFilename_chars r.url⟩⟩

/-- The quiet engine, except that the page overflows horizontally at 375 pixels. -/
def PageEngine.narrowOverflow : PageEngine :=
  { PageEngine.quiet with overflow := fun vp => ⟨[], .ok (vp.label == "375")⟩ }

/-- After the first audit of a page that overflows at 375 pixels, the record holds one
issue, whose screenshot is `screenshots/root_375.png`. -/
theorem screenshots_named_of_overflow :
    ∃ c, Reachable { Engine.ofSite fun _ => [] with page := fun _ => .narrowOverflow } "https://a.test" none
        (.init ["https://a.test/"]) c ∧
      c.results.map (·.responsiveIssues) = [[⟨"375", "horizontal_overflow", some "screenshots/root_375.png"⟩]] ∧
      ∀ r ∈ c.results, ∀ i ∈ r.responsiveIssues, i.viewport ∈ viewports.map (·.label) ∧
        ∀ p, i.screenshot = some p → p = "screenshots/" ++ safeFilename r.url ++ "_" ++ i.viewport ++ ".png" ∧
          (safeFilename r.url).data ≠ [] ∧ ∀ ch ∈ (safeFilename r.url).data, isFilenameChar ch := by
  have hc : Reachable { Engine.ofSite fun _ => [] with page := fun _ => .narrowOverflow } "https://a.test" none
      (.init ["https://a.test/"]) _ := .iterate .init (by decide) rfl
  exact ⟨_, hc, by decide, screenshots_named hc⟩

/-- A site whose home page links to `/a/b` and `/a_b`. -/
def slashSite (u : String) : List String :=
  if u = "https://a.test" then ["https://a.test/a/b", "https://a.test/a_b"] else []

/-- `/a/b` and `/a_b` differ after `rstrip('/')`, yet `safe_filename` maps both to `a_b`, so
at every viewport label their screenshots get one name. In a crawl of `slashSite` whose
pages overflow at 375 pixels, the records of both pages refer to
`screenshots/a_b_375.png`: the second screenshot overwrites the first. -/
theorem screenshot_names_collide :
    Py.rstrip (· = '/') "/a/b" ≠ Py.rstrip (· = '/') "/a_b" ∧
      (∀ label : String, safeFilename "/a/b" ++ "_" ++ label ++ ".png" =
        safeFilename "/a_b" ++ "_" ++ label ++ ".png") ∧
      ∃ results, crawl { Engine.ofSite fun u => slashSite (normaliseUrl u) with page := fun _ => .narrowOverflow }
          "https://a.test" none none 10 = some (.ok results) ∧
        results.map (·.url) = ["/", "/a/b", "/a_b"] ∧
        results.map (·.responsiveIssues) =
          [[⟨"375", "horizontal_overflow", some "screenshots/root_375.png"⟩],
            [⟨"375", "horizontal_overflow", some "screenshots/a_b_375.png"⟩],
            [⟨"375", "horizontal_overflow", some "screenshots/a_b_375.png"⟩]] := by
  have hname : safeFilename "/a/b" = safeFilename "/a_b" := by decide
  exact ⟨by decide, fun label => by rw [hname], _, rfl, by decide, by decide⟩

end SiteAuditor
