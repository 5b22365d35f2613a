/-
# SiteAuditor.Site — crawling a fixed site

A site reports, for the page a tab shows, the hrefs on it; here they depend only on
the page's normalised URL (`Engine.Serves`), and every engine call of every audit
returns (`PageEngine.Succeeds`). Without a comparison base an audit ends with the tab on
the audited URL, so the iteration queues exactly the links `discover_links` finds on
that URL's page (`visit_links`).

* `crawl_finds_exactly`: a crawl that returns has audited exactly `Found`, the least set
  holding the normalised non-skipped seeds and closed under discovered links; the proof
  is an invariant over the loop (`FoundInvariant`) whose closure half needs the queue
  empty.
* `compare_base_changes_crawl`: with a comparison base the last navigation of an audit
  is to the live host, so `discover_links` reads the live page and its links are not
  internal: the same site is crawled differently.
-/
import SiteAuditor.Runs

namespace SiteAuditor

set_option autoImplicit false

/-- The awaited call returns. -/
def Reply.Returns {α : Type} (r : Reply α) : Prop :=
  ∃ v, r.outcome = .ok v

/-- Every rendering-engine call of an audit returns. -/
structure PageEngine.Succeeds (e : PageEngine) : Prop where
  goto : e.goto.Returns
  retry : e.retry.Returns
  ttfb : e.ttfb.Returns
  cls : e.cls.Returns
  content : e.content.Returns
  images : e.images.Returns
  resize : ∀ vp, (e.resize vp).Returns
  reload : ∀ vp, (e.reload vp).Returns
  overflow : ∀ vp, (e.overflow vp).Returns
  fixedOverflow : ∀ vp, (e.fixedOverflow vp).Returns
  screenshot : ∀ vp, (e.screenshot vp).Returns
  reset : e.reset.Returns
  axeGoto : e.axeGoto.Returns
  axeScript : e.axeScript.Returns
  axeWait : e.axeWait.Returns
  axeRun : e.axeRun.Returns
  liveGoto : e.liveGoto.Returns

/-- The link script reports `links u` on a tab showing a page whose normalised URL is `u`. -/
def Engine.Serves (E : Engine) (links : String → List String) : Prop :=
  ∀ k s, E.links k s = .ok (links (normaliseUrl s.shown))

theorem PageEngine.quiet_succeeds : PageEngine.quiet.Succeeds where
  goto := ⟨_, rfl⟩
  retry := ⟨_, rfl⟩
  ttfb := ⟨_, rfl⟩
  cls := ⟨_, rfl⟩
  content := ⟨_, rfl⟩
  images := ⟨_, rfl⟩
  resize _ := ⟨_, rfl⟩
  reload _ := ⟨_, rfl⟩
  overflow _ := ⟨_, rfl⟩
  fixedOverflow _ := ⟨_, rfl⟩
  screenshot _ := ⟨_, rfl⟩
  reset := ⟨_, rfl⟩
  axeGoto := ⟨_, rfl⟩
  axeScript := ⟨_, rfl⟩
  axeWait := ⟨_, rfl⟩
  axeRun := ⟨_, rfl⟩
  liveGoto := ⟨_, rfl⟩

/-- The engine of a site whose pages' links depend on their normalised URL serves them. -/
theorem Engine.ofSite_serves (links : String → List String) :
    (Engine.ofSite fun u => links (normaliseUrl u)).Serves links :=
  fun _ _ => rfl

section Site

variable {E : Engine} {links : String → List String} {baseUrl : String}

/-- An audit on a site without a comparison base is followed by the discovery of the
audited page's links. -/
theorem visit_links (hpages : ∀ k, (E.page k).Succeeds) (hsite : E.Serves links) {k : Nat}
    {url : String} {s session : Session} {record : AuditRecord} {found : List String}
    (haudit : auditPage (E.page k) url baseUrl none s = .ok (record, session))
    (hlinks : discoverLinks (E.links k session) baseUrl = .ok found) :
    discoverLinks (.ok (links (normaliseUrl url))) baseUrl = .ok found := by
  obtain ⟨response, hgoto⟩ := (hpages k).goto
  rwa [hsite, auditPage_shown haudit (auditPage_loadTimeMs hgoto haudit)] at hlinks

/-- The pages a crawl from `seeds` is meant to audit: the least set holding the
normalised seeds that are not skipped, and the links `discover_links` returns for the
page of each member. -/
inductive Found (links : String → List String) (baseUrl : String) (seeds : List String) : String → Prop
  | seed {s : String} : s ∈ seeds → shouldSkip s = .ok false → Found links baseUrl seeds (normaliseUrl s)
  | link {u l : String} {found : List String} : Found links baseUrl seeds u →
      discoverLinks (.ok (links u)) baseUrl = .ok found → l ∈ found → Found links baseUrl seeds l

variable {seeds : List String}

/-- `v` is visited, or queued (under some spelling) and not skipped. -/
def Crawl.Seen (c : Crawl) (v : String) : Prop :=
  v ∈ c.visited ∨ ∃ q ∈ c.queue, normaliseUrl q = v ∧ shouldSkip q = .ok false

/-- What an iteration has seen stays seen. -/
theorem Crawl.Seen.iterate {c c' : Crawl} {v : String} (hv : c.Seen v)
    (h : c.iterate E baseUrl none = .ok c') : c'.Seen v := by
  cases hq : c.queue with
  | nil => exact iterate_nil hq h ▸ hv
  | cons url rest =>
    rcases iterate_cases hq h with ⟨rfl, hdrop⟩ | ⟨-, -, record, session, found, -, -, rfl⟩
    · rcases hv with hv | ⟨q, hq', rfl, hskip⟩
      · exact .inl hv
      rcases List.mem_cons.mp (hq ▸ hq') with rfl | hr
      · rcases hdrop with hdrop | hdrop
        · exact .inl hdrop
        · rw [hskip] at hdrop; cases hdrop
      · exact .inr ⟨q, hr, rfl, hskip⟩
    · rcases hv with hv | ⟨q, hq', rfl, hskip⟩
      · exact .inl (.tail _ hv)
      rcases List.mem_cons.mp (hq ▸ hq') with rfl | hr
      · exact .inl (.head _)
      · exact .inr ⟨q, .inl hr |> List.mem_append.mpr, rfl, hskip⟩

/-- The invariant behind `crawl_finds_exactly`: what is visited or queued is `Found`, and
the seeds and the links of every visited page are seen. -/
structure FoundInvariant (links : String → List String) (baseUrl : String) (seeds : List String)
    (c : Crawl) : Prop where
  visited_found : ∀ v ∈ c.visited, Found links baseUrl seeds v
  queue_found : ∀ q ∈ c.queue, shouldSkip q = .ok false → Found links baseUrl seeds (normaliseUrl q)
  seeds_seen : ∀ s ∈ seeds, shouldSkip s = .ok false → c.Seen (normaliseUrl s)
  links_seen : ∀ u ∈ c.visited, ∀ found, discoverLinks (.ok (links u)) baseUrl = .ok found →
    ∀ l ∈ found, c.Seen l

theorem FoundInvariant.init : FoundInvariant links baseUrl seeds (.init seeds) where
  visited_found _ h := by cases h
  queue_found _ hq hskip := .seed hq hskip
  seeds_seen s hs hskip := .inr ⟨s, hs, rfl, hskip⟩
  links_seen _ h := by cases h

theorem FoundInvariant.iterate (hpages : ∀ k, (E.page k).Succeeds) (hsite : E.Serves links)
    {c c' : Crawl} (hc : FoundInvariant links baseUrl seeds c) (h : c.iterate E baseUrl none = .ok c') :
    FoundInvariant links baseUrl seeds c' := by
  have seeds_seen := fun s hs hskip => (hc.seeds_seen s hs hskip).iterate h
  cases hq : c.queue with
  | nil => exact iterate_nil hq h ▸ hc
  | cons url rest =>
    have hrest : ∀ q ∈ rest, shouldSkip q = .ok false → Found links baseUrl seeds (normaliseUrl q) :=
      fun q hr => hc.queue_found q (hq ▸ .tail _ hr)
    rcases iterate_cases hq h with ⟨rfl, -⟩ | ⟨hnew, hskip, record, session, found, haudit, hlinks, rfl⟩
    · exact ⟨hc.visited_found, hrest, seeds_seen,
        fun u hu found' hf l hl => (hc.links_seen u hu found' hf l hl).iterate h⟩
    · have hurl : Found links baseUrl seeds (normaliseUrl url) := hc.queue_found url (hq ▸ .head _) hskip
      have hfound := visit_links hpages hsite haudit hlinks
      refine
        { visited_found := fun v hv => ?visited_found
          queue_found := fun q hq' hskip' => ?queue_found
          seeds_seen := seeds_seen
          links_seen := fun u hu found' hf l hl => ?links_seen }
      case visited_found =>
        rcases List.mem_cons.mp hv with rfl | hv
        · exact hurl
        · exact hc.visited_found v hv
      case queue_found =>
        rcases Crawl.mem_visit_queue hq' with hr | hl
        · exact hrest q hr hskip'
        · rw [(discoverLinks_mem hlinks hl).1]
          exact .link hurl hfound hl
      case links_seen =>
        rcases List.mem_cons.mp hu with rfl | hu
        · rw [hfound] at hf
          cases hf
          obtain ⟨hnorm, hskipl, -⟩ := discoverLinks_mem hlinks hl
          exact (Crawl.visited_or_queued hl hnorm).imp id
            fun h => ⟨l, List.mem_append_right _ h, hnorm, hskipl⟩
        · exact (hc.links_seen u hu found' hf l hl).iterate h

/-- With the queue empty, what is seen is visited, so `Found` is. -/
theorem FoundInvariant.found_visited {c : Crawl} (hc : FoundInvariant links baseUrl seeds c)
    (hq : c.queue = []) {v : String} (hv : Found links baseUrl seeds v) : v ∈ c.visited := by
  have seen : ∀ {w}, c.Seen w → w ∈ c.visited := by
    rintro w (hw | ⟨q, hq', -⟩)
    · exact hw
    · rw [hq] at hq'; cases hq'
  induction hv with
  | seed hs hskip => exact seen (hc.seeds_seen _ hs hskip)
  | link _ hf hl ih => exact seen (hc.links_seen _ ih _ hf _ hl)

theorem Reachable.foundInvariant (hpages : ∀ k, (E.page k).Succeeds) (hsite : E.Serves links)
    {c : Crawl} (hc : Reachable E baseUrl none (.init seeds) c) : FoundInvariant links baseUrl seeds c := by
  induction hc with
  | init => exact .init
  | iterate _ _ h ih => exact ih.iterate hpages hsite h

end Site

/-- A crawl without a comparison base, on a site whose pages' links depend on their
normalised URL and where every engine call returns, audits exactly the pages `Found`
from its seeds, if it returns. -/
theorem crawl_finds_exactly {E : Engine} {links : String → List String} {baseUrl : String}
    {drush : Option Drush} {fuel : Nat} {results : List AuditRecord}
    (hpages : ∀ k, (E.page k).Succeeds) (hsite : E.Serves links)
    (h : crawl E baseUrl none drush fuel = some (.ok results)) :
    ∀ v, v ∈ results.map (fun r => normaliseUrl r.fullUrl) ↔
      Found links (normaliseUrl baseUrl) (seedQueue baseUrl drush) v := by
  obtain ⟨c, hc, hq, rfl⟩ := crawl_returns h
  have inv := hc.foundInvariant hpages hsite
  have hvisited : ∀ v, v ∈ c.visited ↔ v ∈ c.results.map (fun r => normaliseUrl r.fullUrl) := by
    simp [hc.frontier.visited_eq, AuditRecord.key]
  exact fun v => (hvisited v).symm.trans ⟨inv.visited_found v, inv.found_visited hq⟩

/-- A site where `https://a.test` links to `/about` and `/blog`, and `/about` to `/team`. -/
def treeSite (u : String) : List String :=
  if u = "https://a.test" then ["https://a.test/about", "https://a.test/blog"]
  else if u = "https://a.test/about" then ["https://a.test/team"]
  else []

/-- The crawl of `treeSite` from `https://a.test` returns four records. -/
theorem treeSite_crawl :
    ∃ results, crawl (.ofSite fun u => treeSite (normaliseUrl u)) "https://a.test" none none 10 =
        some (.ok results) ∧
      results.map AuditRecord.fullUrl =
        ["https://a.test/", "https://a.test/about", "https://a.test/blog", "https://a.test/team"] :=
  ⟨_, rfl, by decide⟩

/-- The crawl of `treeSite` audits exactly the pages `Found` from its seed. -/
theorem treeSite_finds_exactly :
    ∃ results, crawl (.ofSite fun u => treeSite (normaliseUrl u)) "https://a.test" none none 10 =
        some (.ok results) ∧
      ∀ v, v ∈ results.map (fun r => normaliseUrl r.fullUrl) ↔
        Found treeSite (normaliseUrl "https://a.test") (seedQueue "https://a.test" none) v := by
  obtain ⟨results, h, -⟩ := treeSite_crawl
  exact ⟨results, h, crawl_finds_exactly (fun _ => PageEngine.quiet_succeeds) (Engine.ofSite_serves _) h⟩

/-- The site of the comparison: `https://a.test/` links to `/about`, and so does the live
host's home page, on its own host. -/
def mirroredSite (u : String) : List String :=
  if u = "https://a.test/" then ["https://a.test/about"]
  else if u = "https://live.test/" then ["https://live.test/about"]
  else []

/-- On one site, with every engine call returning, a crawl with the comparison base
`https://live.test` audits one page where the crawl without it audits two. -/
theorem compare_base_changes_crawl :
    (crawl (.ofSite mirroredSite) "https://a.test" (some "https://live.test") none 5).map
        (·.map (·.map AuditRecord.fullUrl)) = some (.ok ["https://a.test/"]) ∧
      (crawl (.ofSite mirroredSite) "https://a.test" none none 5).map
        (·.map (·.map AuditRecord.fullUrl)) = some (.ok ["https://a.test/", "https://a.test/about"]) := by
  decide

end SiteAuditor
