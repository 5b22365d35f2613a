/-
# SiteAuditor.Runs — what holds at the start of every iteration of the crawl loop

Two invariants of `while queue:`, each proved for one iteration from `iterate_cases`
and carried over every run by induction on `Reachable`:

* `Frontier`: `visited` is the list of the records' normalised URLs (newest first),
  one record per URL, and no record's URL is skipped. `frontier_invariant` states it as
  sets and counts: `visited` is the set of the records' normalised URLs, no two records
  share one, and no record's URL is one `should_skip` accepts.
* `ViewportInvariant`: the tab is at 1440x900 once some audit got past its navigation,
  and at Playwright's 1280x720 before (`viewport_at_audit`, for every run). The context is
  created without a viewport, so the first audit of a run starts at 1280x720, while the
  audits after one that loaded start at the 1440x900 that `audit_page` restores
  (`first_audit_viewport`).
-/
import SiteAuditor.Crawl
import Mathlib.Data.List.Nodup

namespace SiteAuditor

set_option autoImplicit false

section Runs

variable {E : Engine} {baseUrl : String} {compareBase : Option String}

/-- The key of a record in `visited`. -/
def AuditRecord.key (r : AuditRecord) : String :=
  normaliseUrl r.fullUrl

/-- The frontier invariant. -/
structure Frontier (c : Crawl) : Prop where
  visited_eq : c.visited = (c.results.map AuditRecord.key).reverse
  nodup : (c.results.map AuditRecord.key).Nodup
  not_skipped : ∀ r ∈ c.results, shouldSkip r.fullUrl = .ok false

theorem Frontier.init (queue : List String) : Frontier (Crawl.init queue) :=
  ⟨rfl, .nil, by simp [Crawl.init]⟩

theorem iterate_nil {c c' : Crawl} (hq : c.queue = []) (h : c.iterate E baseUrl compareBase = .ok c') :
    c' = c := by
  unfold Crawl.iterate at h
  rw [hq] at h
  cases h; rfl

theorem Frontier.iterate {c c' : Crawl} (hc : Frontier c) (h : c.iterate E baseUrl compareBase = .ok c') :
    Frontier c' := by
  cases hq : c.queue with
  | nil => exact iterate_nil hq h ▸ hc
  | cons url rest =>
    rcases iterate_cases hq h with ⟨rfl, -⟩ | ⟨hnew, hskip, record, session, links, haudit, -, rfl⟩
    · exact ⟨hc.visited_eq, hc.nodup, hc.not_skipped⟩
    · have hkey : record.key = normaliseUrl url := by rw [AuditRecord.key, auditPage_fullUrl haudit]
      rw [hc.visited_eq, List.mem_reverse] at hnew
      refine ⟨by simp [Crawl.visit, hc.visited_eq, hkey], ?_, ?_⟩
      · simpa [Crawl.visit, List.nodup_append, hkey, hnew] using hc.nodup
      · intro r hr
        rcases List.mem_append.mp hr with hr | hr
        · exact hc.not_skipped r hr
        · rw [List.mem_singleton.mp hr, auditPage_fullUrl haudit]
          exact hskip

theorem Reachable.frontier {seeds : List String} {c : Crawl}
    (hc : Reachable E baseUrl compareBase (.init seeds) c) : Frontier c := by
  induction hc with
  | init => exact .init seeds
  | iterate _ _ h ih => exact ih.iterate h

/-- At the start of every iteration of every run, from every seed list and under every
engine: `visited` is the set of the records' normalised URLs, no two records share one
(so `visited` has as many members as there are records), and no record's URL is one
`should_skip` accepts. -/
theorem frontier_invariant {seeds : List String} {c : Crawl}
    (hc : Reachable E baseUrl compareBase (.init seeds) c) :
    (∀ v, v ∈ c.visited ↔ ∃ r ∈ c.results, normaliseUrl r.fullUrl = v) ∧
      (c.results.map fun r => normaliseUrl r.fullUrl).Nodup ∧
      c.visited.length = c.results.length ∧
      ∀ r ∈ c.results, shouldSkip r.fullUrl = .ok false := by
  obtain ⟨visited_eq, nodup, not_skipped⟩ := hc.frontier
  refine ⟨fun v => ?_, nodup, by simp [visited_eq], not_skipped⟩
  simp [visited_eq, AuditRecord.key]

/-- After the first iteration of a crawl of `https://a.test` whose pages all link to
`/about`, the frontier invariant holds with one record. -/
theorem frontier_after_first_audit :
    ∃ c, Reachable (.ofSite fun _ => ["https://a.test/about"]) "https://a.test" none
        (.init ["https://a.test/"]) c ∧ c.results.length = 1 ∧
      (∀ v, v ∈ c.visited ↔ ∃ r ∈ c.results, normaliseUrl r.fullUrl = v) ∧
      (c.results.map fun r => normaliseUrl r.fullUrl).Nodup ∧
      c.visited.length = c.results.length ∧
      ∀ r ∈ c.results, shouldSkip r.fullUrl = .ok false := by
  have hc : Reachable (.ofSite fun _ => ["https://a.test/about"]) "https://a.test" none
      (.init ["https://a.test/"]) _ := .iterate .init (by decide) rfl
  exact ⟨_, hc, rfl, frontier_invariant hc⟩

/-! ## The viewport -/

/-- Whether some audit of the run got past its navigation. -/
def Crawl.loadedOnce (c : Crawl) : Bool :=
  c.results.any (·.loadTimeMs.isSome)

/-- The tab's viewport: 1440x900 once an audit got past its navigation, 1280x720 before. -/
def ViewportInvariant (c : Crawl) : Prop :=
  c.session.viewport = if c.loadedOnce then .desktop else .playwrightDefault

theorem ViewportInvariant.iterate {c c' : Crawl} (hc : ViewportInvariant c)
    (h : c.iterate E baseUrl compareBase = .ok c') : ViewportInvariant c' := by
  cases hq : c.queue with
  | nil => exact iterate_nil hq h ▸ hc
  | cons url rest =>
    rcases iterate_cases hq h with ⟨rfl, -⟩ | ⟨-, -, record, session, links, haudit, -, rfl⟩
    · exact hc
    · have hv := auditPage_viewport haudit
      unfold ViewportInvariant at hc ⊢
      rw [hc] at hv
      by_cases hload : record.loadTimeMs.isSome <;>
        simp [Crawl.visit, Crawl.loadedOnce, hload, hv]

/-- **The viewport at every iteration.** In every run, under every engine, the tab is at
1440x900 once some audit got past its navigation, and at Playwright's 1280x720 until then:
each audit starts from the viewport this gives for the records before it. -/
theorem viewport_at_audit {seeds : List String} {c : Crawl}
    (hc : Reachable E baseUrl compareBase (.init seeds) c) :
    c.session.viewport = if c.loadedOnce then .desktop else .playwrightDefault := by
  induction hc with
  | init => simp [Crawl.loadedOnce, Crawl.init, Session.blank]
  | iterate _ _ h ih => exact ViewportInvariant.iterate ih h

end Runs

/-- The crawl of `https://a.test` before its first iteration. -/
def aboutSiteStart : Crawl :=
  Crawl.init (seedQueue "https://a.test" none)

/-- The crawl of `https://a.test`, whose pages all link to `/about`, audits `https://a.test/`
(neither visited nor skipped) on a tab at 1280x720, and `https://a.test/about`, after the
first audit got past its navigation, on a tab at 1440x900: the two pages are measured at
different viewports. -/
theorem first_audit_viewport :
    aboutSiteStart.queue = ["https://a.test/"] ∧ normaliseUrl "https://a.test/" ∉ aboutSiteStart.visited ∧
      shouldSkip "https://a.test/" = .ok false ∧ aboutSiteStart.session.viewport = .playwrightDefault ∧
      ∃ c', aboutSiteStart.iterate (.ofSite fun _ => ["https://a.test/about"]) "https://a.test" none = .ok c' ∧
        c'.queue = ["https://a.test/about"] ∧ normaliseUrl "https://a.test/about" ∉ c'.visited ∧
        shouldSkip "https://a.test/about" = .ok false ∧ c'.session.viewport = .desktop :=
  ⟨rfl, by decide, by decide, rfl, _, rfl, rfl, by decide, by decide, rfl⟩

end SiteAuditor
