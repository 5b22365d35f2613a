/-
# SiteAuditor.Termination — the crawl loop ends when there is finitely much to find

The queue grows at every audit and duplicates leave it only when they are popped, so no
single quantity falls at every iteration. Let `F` hold the normalised seeds and every
link `discover_links` returns in the run (`Covers`). While every queued URL normalises
into `F` and `visited ⊆ F` (`WithinF`), the pair `(|F \ visited|, len queue)` falls in
the lexicographic order at every iteration (`iterate_measure`): an audit adds a member
of `F` to `visited`, any other iteration pops the queue. Well-founded recursion on the
pair gives `crawl_loop_terminates`: the loop stops (returning, or raising) on enough
fuel, and every call of `audit_page` finds fewer than `|F|` records.
-/
import SiteAuditor.Runs
import Mathlib.Data.Finset.Card

namespace SiteAuditor

set_option autoImplicit false

section Termination

variable (E : Engine) (baseUrl : String) (compareBase : Option String)

/-- The iteration from `c` audits the head of its queue, and `discover_links` returns
`links` after it. -/
def Crawl.Discovers (c : Crawl) (links : List String) : Prop :=
  ∃ url rest record session, c.queue = url :: rest ∧ normaliseUrl url ∉ c.visited ∧
    shouldSkip url = .ok false ∧
    auditPage (E.page c.results.length) url baseUrl compareBase c.session = .ok (record, session) ∧
    discoverLinks (E.links c.results.length session) baseUrl = .ok links

variable (init : Crawl) (F : Finset String)

/-- `F` holds the normalised seeds and every link `discover_links` returns in the run. -/
structure Covers : Prop where
  seeds : ∀ s ∈ init.queue, normaliseUrl s ∈ F
  links : ∀ c links, Reachable E baseUrl compareBase init c → c.Discovers E baseUrl compareBase links →
    ∀ l ∈ links, l ∈ F

variable {E baseUrl compareBase init F}

/-- Every queued URL normalises into `F`, and `visited ⊆ F`. -/
def WithinF (F : Finset String) (c : Crawl) : Prop :=
  (∀ q ∈ c.queue, normaliseUrl q ∈ F) ∧ ∀ v ∈ c.visited, v ∈ F

/-- The measure: the members of `F` not visited yet, then the length of the queue. -/
def crawlMeasure (F : Finset String) (c : Crawl) : Nat × Nat :=
  ((F.filter (· ∉ c.visited)).card, c.queue.length)

theorem card_filter_not_mem_cons {v : String} {visited : List String} (hv : v ∈ F) (hnew : v ∉ visited) :
    (F.filter (· ∉ v :: visited)).card < (F.filter (· ∉ visited)).card := by
  apply Finset.card_lt_card
  rw [Finset.ssubset_iff_of_subset (Finset.monotone_filter_right F fun x h hx => h (.tail _ hx))]
  exact ⟨v, Finset.mem_filter.mpr ⟨hv, hnew⟩, fun h => (Finset.mem_filter.mp h).2 (.head _)⟩

/-- An iteration from a reachable state keeps `WithinF` and lowers the measure. -/
theorem iterate_measure (hcov : Covers E baseUrl compareBase init F) {c c' : Crawl}
    (hc : Reachable E baseUrl compareBase init c) (hw : WithinF F c) {url : String} {rest : List String}
    (hq : c.queue = url :: rest) (h : c.iterate E baseUrl compareBase = .ok c') :
    WithinF F c' ∧ Prod.Lex (· < ·) (· < ·) (crawlMeasure F c') (crawlMeasure F c) := by
  have hrest : ∀ q ∈ rest, normaliseUrl q ∈ F := fun q hr => hw.1 q (hq ▸ .tail _ hr)
  rcases iterate_cases hq h with ⟨rfl, -⟩ | ⟨hnew, hskip, record, session, links, haudit, hlinks, rfl⟩
  · refine ⟨⟨hrest, hw.2⟩, .right _ ?_⟩
    simp [crawlMeasure, hq]
  · have hurl : normaliseUrl url ∈ F := hw.1 url (hq ▸ .head _)
    have hdisc := hcov.links c links hc ⟨url, rest, record, session, hq, hnew, hskip, haudit, hlinks⟩
    refine ⟨⟨fun q hq' => ?_, fun v hv => ?_⟩, .left _ _ (card_filter_not_mem_cons hurl hnew)⟩
    · rcases Crawl.mem_visit_queue hq' with hr | hl
      · exact hrest q hr
      · rw [(discoverLinks_mem hlinks hl).1]
        exact hdisc q hl
    · rcases List.mem_cons.mp hv with rfl | hv
      · exact hurl
      · exact hw.2 v hv

/-- From every reachable state within `F`, some fuel makes the loop stop. -/
theorem crawlLoop_halts (hcov : Covers E baseUrl compareBase init F) (c : Crawl)
    (hc : Reachable E baseUrl compareBase init c) (hw : WithinF F c) :
    ∃ n, crawlLoop E baseUrl compareBase n c ≠ none := by
  cases hq : c.queue with
  | nil => exact ⟨0, by simp [crawlLoop, hq]⟩
  | cons url rest =>
    cases hit : c.iterate E baseUrl compareBase with
    | error err => exact ⟨1, by simp [crawlLoop, hq, hit]⟩
    | ok c' =>
      obtain ⟨n, hn⟩ := crawlLoop_halts hcov c' (hc.iterate (by simp [hq]) hit)
        (iterate_measure hcov hc hw hq hit).1
      exact ⟨n + 1, by simpa [crawlLoop, hq, hit] using hn⟩
termination_by crawlMeasure F c
decreasing_by exact (iterate_measure hcov hc hw hq hit).2

theorem Reachable.withinF (hcov : Covers E baseUrl compareBase init F) (hinit : WithinF F init)
    {c : Crawl} (hc : Reachable E baseUrl compareBase init c) : WithinF F c := by
  induction hc with
  | init => exact hinit
  | iterate hc hne h ih =>
    obtain ⟨url, rest, hq⟩ := List.exists_cons_of_ne_nil hne
    exact (iterate_measure hcov hc ih hq h).1

/-- Before an audit, the visited URLs and the one about to be audited are distinct members
of `F`, and there are as many visited URLs as records. -/
theorem Frontier.results_length_lt {c : Crawl} (hfr : Frontier c) (hw : WithinF F c) {url : String}
    {rest : List String} (hq : c.queue = url :: rest) (hnew : normaliseUrl url ∉ c.visited) :
    c.results.length < F.card := by
  have hsub : insert (normaliseUrl url) c.visited.toFinset ⊆ F := by
    intro v hv
    rcases Finset.mem_insert.mp hv with rfl | hv
    · exact hw.1 _ (hq ▸ .head _)
    · exact hw.2 v (List.mem_toFinset.mp hv)
  have hcard := Finset.card_le_card hsub
  rw [Finset.card_insert_of_not_mem (by simpa using hnew),
    List.toFinset_card_of_nodup (hfr.visited_eq ▸ List.nodup_reverse.mpr hfr.nodup)] at hcard
  have hlen : c.visited.length = c.results.length := by simp [hfr.visited_eq]
  omega

end Termination

/-- The crawl loop terminates when there are finitely many pages to find: for every
seed list and every engine under which a finite `F` holds the normalised seeds and every
link `discover_links` returns, some fuel makes the loop stop, and every call of
`audit_page` is made with fewer than `|F|` records behind it. -/
theorem crawl_loop_terminates {E : Engine} {baseUrl : String} {compareBase : Option String}
    {seeds : List String} {F : Finset String} (hseeds : ∀ s ∈ seeds, normaliseUrl s ∈ F)
    (hlinks : ∀ c links, Reachable E baseUrl compareBase (.init seeds) c →
      c.Discovers E baseUrl compareBase links → ∀ l ∈ links, l ∈ F) :
    (∃ n, crawlLoop E baseUrl compareBase n (.init seeds) ≠ none) ∧
      ∀ c url rest, Reachable E baseUrl compareBase (.init seeds) c → c.queue = url :: rest →
        normaliseUrl url ∉ c.visited → shouldSkip url = .ok false → c.results.length < F.card := by
  have hcov : Covers E baseUrl compareBase (.init seeds) F := ⟨hseeds, hlinks⟩
  have hinit : WithinF F (.init seeds) := ⟨hseeds, by simp [Crawl.init]⟩
  exact ⟨crawlLoop_halts hcov _ .init hinit, fun c _ _ hc hq hnew _ =>
    hc.frontier.results_length_lt (hc.withinF hcov hinit) hq hnew⟩

/-- Under a link script that always reports one href, every discovered link is its clean
form. -/
theorem discovers_const {E : Engine} {href baseUrl : String} {compareBase : Option String} {c : Crawl}
    {links : List String} (hE : ∀ k s, E.links k s = .ok [href])
    (hd : c.Discovers E baseUrl compareBase links) : ∀ l ∈ links, l = cleanLink href := by
  obtain ⟨_, _, _, session, _, _, _, _, hl⟩ := hd
  intro l hl'
  obtain ⟨-, -, hrefs, hrefs_eq, link, hlink, -, rfl⟩ := discoverLinks_mem hl hl'
  rw [hE] at hrefs_eq
  cases hrefs_eq
  rw [List.mem_singleton.mp hlink]

/-- A crawl of a site whose pages all link to `/about` stops, and audits fewer than two
pages before any audit. -/
theorem crawl_of_about_site_terminates :
    (∃ n, crawlLoop (.ofSite fun _ => ["https://a.test/about"]) "https://a.test" none n
        (.init ["https://a.test/"]) ≠ none) ∧
      ∀ c url rest, Reachable (.ofSite fun _ => ["https://a.test/about"]) "https://a.test" none
          (.init ["https://a.test/"]) c → c.queue = url :: rest → normaliseUrl url ∉ c.visited →
        shouldSkip url = .ok false → c.results.length < 2 := by
  have hF : ({"https://a.test", "https://a.test/about"} : Finset String).card = 2 := by decide
  rw [← hF]
  exact crawl_loop_terminates (by decide) fun _ _ _ hd l hl => by
    rw [discovers_const (fun _ _ => rfl) hd l hl]
    decide

end SiteAuditor
