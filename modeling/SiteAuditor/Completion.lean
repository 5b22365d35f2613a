/-
# SiteAuditor.Completion — when `crawl` returns its records

`audit_page` wraps most engine calls in `try`. The calls outside it are the strict
navigation (only a timeout is caught), `page.content()`, `set_viewport_size` in the
responsive sweep and after it, and `mkdir` before a screenshot; `urlparse` raises
`ValueError` in `path_of`, `should_skip` and `is_internal`. When none of these raise
(`PageEngine.ReturnsUnguarded`, `Parses`), every phase returns and so does `audit_page`
(`auditPage_returns`), `discover_links` returns (`discoverLinks_returns`), and no iteration
of the loop raises (`iterate_returns`): every URL the loop queues parses, because it has
the base's netloc or none (`Reachable.queue_parses`).

* `crawl_returns_records`: with finitely much to find, as in `crawlLoop_halts`, the
  `drush` seeding returning and nothing outside a `try` raising, some fuel makes `crawl`
  return its records (`iterations_return`, then `Covers.crawl_returns`);
* `crawl_of_finite_site_returns`: on a site with finitely many pages `Found`, the crawl
  without a comparison base returns, so the reachable-set and breadth-first theorems of
  `SiteAuditor.Site` and `SiteAuditor.Breadth` are about a crawl that ends.
-/
import SiteAuditor.Scope
import SiteAuditor.Termination
import SiteAuditor.Site

namespace SiteAuditor

open Py

set_option autoImplicit false

/-- `urlparse(url)` returns. -/
def Parses (url : String) : Prop :=
  ∃ p, urlparse url = .ok p

section Parsing

variable {url : String}

/-- A URL with the netloc of one that parses parses. -/
theorem Parses.of_netlocOf {url' : String} (h : Parses url) (same : netlocOf url'.data = netlocOf url.data) :
    Parses url' :=
  let ⟨_, hp⟩ := h
  let ⟨p', hp', _⟩ := urlparse_ok_of_netlocOf hp same
  ⟨p', hp'⟩

/-- A URL without a netloc parses. -/
theorem parses_of_netlocOf_nil (h : netlocOf url.data = []) : Parses url :=
  (urlparse_ok_iff url).mpr (by rw [h]; rfl)

theorem shouldSkip_returns (h : Parses url) : ∃ b, shouldSkip url = .ok b := by
  obtain ⟨p, hp⟩ := h
  exact ⟨_, by rw [shouldSkip, hp]; rfl⟩

theorem pathOf_returns (h : Parses url) : ∃ path, pathOf url = .ok path := by
  obtain ⟨p, hp⟩ := h
  exact ⟨_, by rw [pathOf, hp]; rfl⟩

theorem isInternal_returns {base : String} (h : Parses url) (hb : Parses base) :
    ∃ b, isInternal url base = .ok b := by
  obtain ⟨p, hp⟩ := h
  obtain ⟨pb, hpb⟩ := hb
  simp only [isInternal, hp, hpb]
  split_ifs <;> exact ⟨_, rfl⟩

theorem filterLinks_returns {base : String} (hb : Parses base) :
    ∀ {links : List String}, (∀ l ∈ links, Parses l) → ∃ found, filterLinks base links = .ok found
  | [], _ => ⟨[], rfl⟩
  | link :: links, h => by
    have hlink := h link (.head _)
    obtain ⟨found, hf⟩ := filterLinks_returns hb fun l hl => h l (.tail _ hl)
    obtain ⟨b, hin⟩ := isInternal_returns hlink hb
    obtain ⟨b', hskip⟩ := shouldSkip_returns (hlink.of_netlocOf (netlocOf_cleanLink link))
    cases b <;> cases b' <;> simp [filterLinks, hin, hskip, hf, Except.map]

/-- `discover_links` returns when the base and every href the script reports parse. -/
theorem discoverLinks_returns {hrefs : Except Exn (List String)} {base : String} (hb : Parses base)
    (h : ∀ links, hrefs = .ok links → ∀ l ∈ links, Parses l) :
    ∃ found, discoverLinks hrefs base = .ok found := by
  cases hrefs with
  | error => exact ⟨[], rfl⟩
  | ok links => exact filterLinks_returns hb (h links rfl)

end Parsing

/-! ## `audit_page` -/

/-- The calls `audit_page` makes outside any `try` return: the strict navigation raises at
most a timeout, and `page.content()`, `set_viewport_size` at each of `VIEWPORTS` and after
the sweep, and `mkdir` return. -/
structure PageEngine.ReturnsUnguarded (e : PageEngine) : Prop where
  goto : ∀ err, e.goto.outcome = .error err → ∃ message, err = .timeout message
  content : e.content.Returns
  resize : ∀ vp ∈ viewports, (e.resize vp).Returns
  mkdir : ∀ vp ∈ viewports, e.mkdir vp = .ok ()
  reset : e.reset.Returns

/-- An engine whose every call returns, and whose `mkdir` does, returns the unguarded calls. -/
theorem PageEngine.Succeeds.returnsUnguarded {e : PageEngine} (h : e.Succeeds)
    (hmkdir : ∀ vp ∈ viewports, e.mkdir vp = .ok ()) : e.ReturnsUnguarded where
  goto err herr := by
    obtain ⟨v, hv⟩ := h.goto
    rw [hv] at herr
    cases herr
  content := h.content
  resize vp _ := h.resize vp
  mkdir := hmkdir
  reset := h.reset

section AuditPage

variable {e : PageEngine} (he : e.ReturnsUnguarded)
include he

theorem navigate_ne_raised (url : String) (t : Tab) (err : Exn) : navigate e url t ≠ .raised err := by
  unfold navigate
  split
  · exact Navigation.noConfusion
  · split <;> exact Navigation.noConfusion
  · rename_i err' hnot heq
    obtain ⟨message, rfl⟩ := he.goto err' heq
    exact (hnot message rfl).elim

theorem extractSeo_returns (a : Audit) : ∃ a', extractSeo e a = .ok a' := by
  obtain ⟨html, hc⟩ := he.content
  unfold extractSeo
  rw [hc]
  exact ⟨_, rfl⟩

theorem checkViewport_returns (url : String) (a : Audit) {vp : ViewportSpec} (hvp : vp ∈ viewports) :
    ∃ a', checkViewport e url a vp = .ok a' := by
  obtain ⟨_, hr⟩ := he.resize vp hvp
  unfold checkViewport
  rw [hr]
  dsimp only
  split
  · exact ⟨_, rfl⟩
  split
  · exact ⟨_, rfl⟩
  split
  · exact ⟨_, rfl⟩
  unfold recordIssues
  split
  · exact ⟨_, rfl⟩
  rw [he.mkdir vp hvp]
  exact ⟨_, rfl⟩

theorem checkResponsive_returns (url : String) (a : Audit) : ∃ a', checkResponsive e url a = .ok a' := by
  have sweep : ∀ (vps : List ViewportSpec), (∀ vp ∈ vps, vp ∈ viewports) → ∀ a : Audit,
      ∃ a', vps.foldlM (checkViewport e url) a = .ok a' := by
    intro vps
    induction vps with
    | nil => exact fun _ a => ⟨a, rfl⟩
    | cons vp vps ih =>
      intro h a
      obtain ⟨b, hb⟩ := checkViewport_returns he url a (h vp (.head _))
      obtain ⟨c, hc⟩ := ih (fun v hv => h v (.tail _ hv)) b
      exact ⟨c, by rw [List.foldlM_cons, hb]; exact hc⟩
  exact sweep viewports (fun _ h => h) a

theorem auditLoaded_returns (url : String) (compareBase : Option String) (a : Audit) :
    ∃ a', auditLoaded e url compareBase a = .ok a' := by
  obtain ⟨b, hb⟩ := extractSeo_returns he (measureCls e (measureTtfb e a))
  obtain ⟨c, hc⟩ := checkResponsive_returns he url (copyErrors (auditImages e b))
  obtain ⟨_, hreset⟩ := he.reset
  unfold auditLoaded
  rw [hb]
  dsimp only
  rw [hc]
  dsimp only
  unfold resetViewport
  rw [hreset]
  exact ⟨_, rfl⟩

/-- `audit_page` returns a record when the URL parses and the calls outside any `try`
return, whatever the engine's other calls do. -/
theorem auditPage_returns {url : String} (hurl : Parses url) (baseUrl : String)
    (compareBase : Option String) (s : Session) :
    ∃ r s', auditPage e url baseUrl compareBase s = .ok (r, s') := by
  obtain ⟨path, hpath⟩ := pathOf_returns hurl
  unfold auditPage
  rw [hpath]
  dsimp only
  cases hnav : navigate e url ⟨s, [], []⟩ with
  | raised err => exact absurd hnav (navigate_ne_raised he url _ err)
  | failed tab err => exact ⟨_, _, rfl⟩
  | loaded tab response =>
    obtain ⟨a', ha'⟩ := auditLoaded_returns he url compareBase (recordLoad e response ⟨tab, AuditRecord.start url path⟩)
    dsimp only
    rw [ha']
    exact ⟨_, _, rfl⟩

end AuditPage

/-! ## The loop -/

/-- The link script reports hrefs that parse. -/
def Engine.HrefsParse (E : Engine) : Prop :=
  ∀ k s links, E.links k s = .ok links → ∀ l ∈ links, Parses l

section Loop

variable {E : Engine} {baseUrl : String} {compareBase : Option String}

/-- An iteration whose head parses returns, when the unguarded calls return and the base
and the reported hrefs parse. -/
theorem iterate_returns (hpages : ∀ k, (E.page k).ReturnsUnguarded) (hhrefs : E.HrefsParse)
    (hbase : Parses baseUrl) {c : Crawl} {url : String} {rest : List String} (hq : c.queue = url :: rest)
    (hurl : Parses url) : ∃ c', c.iterate E baseUrl compareBase = .ok c' := by
  obtain ⟨b, hb⟩ := shouldSkip_returns hurl
  obtain ⟨record, session, ha⟩ := auditPage_returns (hpages c.results.length) hurl baseUrl compareBase c.session
  obtain ⟨found, hf⟩ := discoverLinks_returns hbase (hhrefs c.results.length session)
  unfold Crawl.iterate
  rw [hq]
  dsimp only
  split
  · exact ⟨_, rfl⟩
  rw [hb]
  cases b
  · simp only [ha, hf]
    exact ⟨_, rfl⟩
  · exact ⟨_, rfl⟩

/-- A loop whose every iteration from a reachable state returns, and that stops on `fuel`,
returns a state. -/
theorem crawlLoop_ok {init : Crawl}
    (hit : ∀ c, Reachable E baseUrl compareBase init c → c.queue ≠ [] →
      ∃ c', c.iterate E baseUrl compareBase = .ok c') :
    ∀ (fuel : Nat) {c : Crawl}, Reachable E baseUrl compareBase init c →
      crawlLoop E baseUrl compareBase fuel c ≠ none → ∃ c', crawlLoop E baseUrl compareBase fuel c = some (.ok c')
  | 0, c, _, h => by
    by_cases hq : c.queue = []
    · exact ⟨c, by simp [crawlLoop, hq]⟩
    · simp [crawlLoop, hq] at h
  | fuel + 1, c, hc, h => by
    by_cases hq : c.queue = []
    · exact ⟨c, by simp [crawlLoop, hq]⟩
    obtain ⟨c', hit'⟩ := hit c hc hq
    have h' : crawlLoop E baseUrl compareBase fuel c' ≠ none := by simpa [crawlLoop, hq, hit'] using h
    simpa [crawlLoop, hq, hit'] using crawlLoop_ok hit fuel (hc.iterate hq hit') h'

/-- Every URL the loop queues parses, when the base parses with a host. -/
theorem Reachable.queue_parses (hbase : Parses baseUrl) (hhost : netlocOf baseUrl.data ≠ [])
    {drush : Option Drush} {c : Crawl}
    (hc : Reachable E (normaliseUrl baseUrl) compareBase (.init (seedQueue baseUrl drush)) c) :
    ∀ q ∈ c.queue, Parses q := fun q hq =>
  (hc.queueInScope hhost q hq).elim hbase.of_netlocOf parses_of_netlocOf_nil

end Loop

section Run

variable {E : Engine} {baseUrl : String} {compareBase : Option String} {drush : Option Drush}

/-- No iteration of a crawl raises, from any reachable state, when the calls outside any
`try` return, the base URL parses with a host and the reported hrefs parse. -/
theorem iterations_return {pb : ParseResult} (hpages : ∀ k, (E.page k).ReturnsUnguarded)
    (hhrefs : E.HrefsParse) (hb : urlparse baseUrl = .ok pb) (hhost : pb.netloc ≠ "") :
    ∀ c, Reachable E (normaliseUrl baseUrl) compareBase (.init (seedQueue baseUrl drush)) c →
      c.queue ≠ [] → ∃ c', c.iterate E (normaliseUrl baseUrl) compareBase = .ok c' := by
  have hhost' : netlocOf baseUrl.data ≠ [] := by
    rw [← urlparse_netloc hb]; exact fun h => hhost (String.ext h)
  have hbase : Parses (normaliseUrl baseUrl) := Parses.of_netlocOf ⟨pb, hb⟩ (netlocOf_rstrip baseUrl)
  intro c hc hne
  obtain ⟨url, rest, hq⟩ := List.exists_cons_of_ne_nil hne
  exact iterate_returns hpages hhrefs hbase hq (hc.queue_parses ⟨pb, hb⟩ hhost' url (hq ▸ .head _))

/-- A crawl returns its records on some fuel when the `drush` seeding returns, the browser
launches and closes, no iteration raises, and a finite `F` covers the run. -/
theorem Covers.crawl_returns {F : Finset String} (hseed : ∃ seeds, drushSeeds baseUrl drush = .ok seeds)
    (hlaunch : E.launch = .ok ()) (hclose : E.close = .ok ())
    (hcov : Covers E (normaliseUrl baseUrl) compareBase (.init (seedQueue baseUrl drush)) F)
    (hit : ∀ c, Reachable E (normaliseUrl baseUrl) compareBase (.init (seedQueue baseUrl drush)) c →
      c.queue ≠ [] → ∃ c', c.iterate E (normaliseUrl baseUrl) compareBase = .ok c') :
    ∃ fuel results, crawl E baseUrl compareBase drush fuel = some (.ok results) := by
  obtain ⟨fuel, hfuel⟩ := crawlLoop_halts hcov _ .init ⟨hcov.seeds, by simp [Crawl.init]⟩
  obtain ⟨c, hc⟩ := crawlLoop_ok hit fuel .init hfuel
  obtain ⟨seeds, hseed⟩ := hseed
  exact ⟨fuel, c.results, by simp [crawl, hseed, hlaunch, hclose, hc]⟩

end Run

/-- A crawl returns its records on some fuel when the `drush` seeding returns, the browser
launches and closes, the calls `audit_page` makes outside any `try` return, the base URL
parses with a host, the link script reports hrefs that parse, and a finite `F` holds the
normalised seeds and every link `discover_links` returns. -/
theorem crawl_returns_records {E : Engine} {baseUrl : String} {compareBase : Option String}
    {drush : Option Drush} {pb : ParseResult} {F : Finset String}
    (hseed : ∃ seeds, drushSeeds baseUrl drush = .ok seeds) (hlaunch : E.launch = .ok ()) (hclose : E.close = .ok ())
    (hpages : ∀ k, (E.page k).ReturnsUnguarded) (hhrefs : E.HrefsParse)
    (hb : urlparse baseUrl = .ok pb) (hhost : pb.netloc ≠ "")
    (hseeds : ∀ s ∈ seedQueue baseUrl drush, normaliseUrl s ∈ F)
    (hlinks : ∀ c links, Reachable E (normaliseUrl baseUrl) compareBase (.init (seedQueue baseUrl drush)) c →
      c.Discovers E (normaliseUrl baseUrl) compareBase links → ∀ l ∈ links, l ∈ F) :
    ∃ fuel results, crawl E baseUrl compareBase drush fuel = some (.ok results) :=
  Covers.crawl_returns hseed hlaunch hclose ⟨hseeds, hlinks⟩ (iterations_return hpages hhrefs hb hhost)

/-- A crawl with a comparison base, in which every navigation fails (the strict attempt
times out and the fallback raises), returns its records. -/
theorem unreachable_site_crawl_returns :
    ∃ fuel results, crawl { Engine.ofSite fun _ => ["https://a.test/about"] with page := fun _ => .unreachable }
      "https://a.test" (some "https://live.test") none fuel = some (.ok results) :=
  crawl_returns_records (F := {"https://a.test", "https://a.test/about"}) ⟨[], rfl⟩ rfl rfl
    (fun _ => ⟨fun _ h => by cases h; exact ⟨_, rfl⟩, ⟨_, rfl⟩, fun _ _ => ⟨_, rfl⟩, fun _ _ => rfl, ⟨_, rfl⟩⟩)
    (fun _ _ _ h l hl => by
      cases h
      rw [List.mem_singleton.mp hl]
      exact ⟨_, rfl⟩)
    (rfl : urlparse "https://a.test" = .ok ⟨"https", "a.test", "", "", "", ""⟩) (by decide) (by decide)
    fun _ _ _ hd l hl => by
      rw [discovers_const (fun _ _ => rfl) hd l hl]
      decide

/-- A crawl without a comparison base of a site with finitely many pages `Found` returns
its records on some fuel, when the `drush` seeding returns, the browser launches and
closes, every engine call and `mkdir` return, the base URL parses with a host and the
site's hrefs parse. -/
theorem crawl_of_finite_site_returns {E : Engine} {links : String → List String} {baseUrl : String}
    {drush : Option Drush} {pb : ParseResult} {F : Finset String}
    (hseed : ∃ seeds, drushSeeds baseUrl drush = .ok seeds) (hlaunch : E.launch = .ok ()) (hclose : E.close = .ok ())
    (hpages : ∀ k, (E.page k).Succeeds) (hmkdir : ∀ k, ∀ vp ∈ viewports, (E.page k).mkdir vp = .ok ())
    (hsite : E.Serves links) (hhrefs : ∀ u, ∀ l ∈ links u, Parses l)
    (hb : urlparse baseUrl = .ok pb) (hhost : pb.netloc ≠ "")
    (hfin : ∀ v, Found links (normaliseUrl baseUrl) (seedQueue baseUrl drush) v → v ∈ F) :
    ∃ fuel results, crawl E baseUrl none drush fuel = some (.ok results) := by
  refine Covers.crawl_returns (F := F ∪ ((seedQueue baseUrl drush).map normaliseUrl).toFinset)
    hseed hlaunch hclose ⟨fun s hs => ?_, ?_⟩ (iterations_return (fun k => (hpages k).returnsUnguarded (hmkdir k)) ?_ hb hhost)
  · exact Finset.mem_union_right _ (List.mem_toFinset.mpr (List.mem_map_of_mem _ hs))
  · rintro c found hc ⟨url, rest, record, session, hq, -, hskip, haudit, hlinks⟩ l hl
    have hurl := (hc.foundInvariant hpages hsite).queue_found url (hq ▸ .head _) hskip
    exact Finset.mem_union_left _ (hfin l (.link hurl (visit_links hpages hsite haudit hlinks) hl))
  · intro k s hrefs h l hl
    rw [hsite] at h
    cases h
    exact hhrefs _ l hl

/-- The crawl of the site whose pages all link to `/about`, as a site of finitely many
pages, returns its records. -/
theorem about_site_is_finite :
    ∃ fuel results, crawl (.ofSite fun _ => ["https://a.test/about"]) "https://a.test" none none fuel =
      some (.ok results) := by
  refine crawl_of_finite_site_returns (F := {"https://a.test", "https://a.test/about"}) ⟨[], rfl⟩ rfl rfl
    (fun _ => PageEngine.quiet_succeeds) (fun _ _ _ => rfl) (Engine.ofSite_serves fun _ => ["https://a.test/about"])
    (fun _ l hl => by rw [List.mem_singleton.mp hl]; exact ⟨_, rfl⟩)
    (rfl : urlparse "https://a.test" = .ok ⟨"https", "a.test", "", "", "", ""⟩) (by decide) fun v hv => ?_
  induction hv with
  | seed hs _ =>
    rw [List.mem_singleton.mp hs]
    decide
  | link _ hf hl _ =>
    obtain ⟨-, -, hrefs, hrefs_eq, link, hlink, -, rfl⟩ := discoverLinks_mem hf hl
    cases hrefs_eq
    rw [List.mem_singleton.mp hlink]
    decide

end SiteAuditor
