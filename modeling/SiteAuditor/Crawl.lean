/-
# SiteAuditor.Crawl — `discover_links` and the crawl loop

`crawl` seeds a queue with the base URL and the `drush` seeds (`drushSeeds`, which can
raise before the browser starts) and runs `while queue:` over one tab. An iteration pops
the head; a URL whose normalised form was visited, or that `should_skip`, is dropped; any
other is marked visited and audited, its record appended, and the links `discover_links`
then finds on the tab are queued unless their normalised form was visited. `Crawl` is the loop's state, `Crawl.iterate` one iteration
and `crawlLoop` the loop on fuel. `Engine` answers the whole run: the `k`-th call of
`audit_page`, and the link script that follows it, which sees the tab's session.

* `discoverLinks_mem`: a discovered link is normalised, not skipped, and the clean form
  of an href `is_internal` accepted;
* `iterate_cases`: everything one iteration can do, with its guards;
* `crawlLoop_reachable`: a loop that returns ends in a reachable state with an empty queue.
-/
import SiteAuditor.AuditPage

namespace SiteAuditor

open Py

set_option autoImplicit false

/-! ## `discover_links` -/

/-- `normalise_url(link.split("#")[0].split("?")[0])`. -/
def cleanLink (link : String) : String :=
  normaliseUrl (beforeFirst '?' (beforeFirst '#' link))

/-- The `for link in links` loop of `discover_links`; `is_internal` and `should_skip`
stand outside its `try`. -/
def filterLinks (baseUrl : String) : List String → Except Exn (List String)
  | [] => .ok []
  | link :: links =>
    match isInternal link baseUrl with
    | .error err => .error err
    | .ok false => filterLinks baseUrl links
    | .ok true =>
      match shouldSkip (cleanLink link) with
      | .error err => .error err
      | .ok true => filterLinks baseUrl links
      | .ok false => (filterLinks baseUrl links).map (cleanLink link :: ·)

/-- `discover_links(page, base_url)`, given what the link script answered: a script that
raises gives no links. -/
def discoverLinks (hrefs : Except Exn (List String)) (baseUrl : String) : Except Exn (List String) :=
  match hrefs with
  | .error _ => .ok []
  | .ok links => filterLinks baseUrl links

theorem mem_filterLinks {baseUrl l : String} :
    ∀ {links found : List String}, filterLinks baseUrl links = .ok found → l ∈ found →
      ∃ link ∈ links, isInternal link baseUrl = .ok true ∧ l = cleanLink link ∧ shouldSkip l = .ok false
  | [], found, h, hl => by cases h; cases hl
  | link :: links, found, h, hl => by
      unfold filterLinks at h
      split at h
      · cases h
      · obtain ⟨x, hx, rest⟩ := mem_filterLinks h hl
        exact ⟨x, .tail _ hx, rest⟩
      · rename_i hin
        split at h
        · cases h
        · obtain ⟨x, hx, rest⟩ := mem_filterLinks h hl
          exact ⟨x, .tail _ hx, rest⟩
        · rename_i hskip
          cases hf : filterLinks baseUrl links with
          | error err => rw [hf] at h; cases h
          | ok tail =>
              rw [hf] at h
              cases h
              rcases List.mem_cons.mp hl with rfl | hl
              · exact ⟨link, .head _, hin, rfl, hskip⟩
              · obtain ⟨x, hx, rest⟩ := mem_filterLinks hf hl
                exact ⟨x, .tail _ hx, rest⟩

/-- A discovered link is normalised, is not skipped, and is the clean form of an href
of the page that `is_internal` accepted. -/
theorem discoverLinks_mem {hrefs : Except Exn (List String)} {baseUrl l : String} {found : List String}
    (h : discoverLinks hrefs baseUrl = .ok found) (hl : l ∈ found) :
    normaliseUrl l = l ∧ shouldSkip l = .ok false ∧
      ∃ links, hrefs = .ok links ∧ ∃ link ∈ links, isInternal link baseUrl = .ok true ∧ l = cleanLink link := by
  unfold discoverLinks at h
  split at h
  · cases h; cases hl
  · obtain ⟨link, hlink, hin, rfl, hskip⟩ := mem_filterLinks h hl
    exact ⟨normaliseUrl_normaliseUrl _, hskip, _, rfl, link, hlink, hin, rfl⟩

/-! ## The loop -/

/-- The answers to a whole run: the browser's launch and close, the `k`-th call of
`audit_page`, and the link script run after it on a tab in the given session. -/
structure Engine where
  launch : Except Exn Unit
  page : Nat → PageEngine
  links : Nat → Session → Except Exn (List String)
  close : Except Exn Unit

/-- The state of `while queue:`. `visited` is the set, as the list of its members. -/
structure Crawl where
  queue : List String
  visited : List String
  results : List AuditRecord
  session : Session

/-- The loop's state before its first iteration, on a new page. -/
def Crawl.init (queue : List String) : Crawl :=
  ⟨queue, [], [], .blank⟩

/-- One iteration of `while queue:` (the progress `print` is left out). -/
def Crawl.iterate (E : Engine) (baseUrl : String) (compareBase : Option String) (c : Crawl) :
    Except Exn Crawl :=
  match c.queue with
  | [] => .ok c
  | url :: queue =>
    let norm := normaliseUrl url
    if norm ∈ c.visited then .ok { c with queue }
    else
      match shouldSkip url with
      | .error err => .error err
      | .ok true => .ok { c with queue }
      | .ok false =>
        let visited := c.visited.insert norm
        match auditPage (E.page c.results.length) url baseUrl compareBase c.session with
        | .error err => .error err
        | .ok (record, session) =>
          match discoverLinks (E.links c.results.length session) baseUrl with
          | .error err => .error err
          | .ok newLinks =>
            .ok ⟨queue ++ newLinks.filter (fun link => normaliseUrl link ∉ visited), visited,
              c.results ++ [record], session⟩

/-- The loop on at most `fuel` iterations: `none` when the fuel runs out first. -/
def crawlLoop (E : Engine) (baseUrl : String) (compareBase : Option String) :
    Nat → Crawl → Option (Except Exn Crawl)
  | 0, c => if c.queue = [] then some (.ok c) else none
  | fuel + 1, c =>
    if c.queue = [] then some (.ok c)
    else
      match c.iterate E baseUrl compareBase with
      | .error err => some (.error err)
      | .ok c' => crawlLoop E baseUrl compareBase fuel c'

/-- The seeds `crawl` queues after the base URL: what `seed_urls_from_drush` returns when a
command is given, or the exception it lets through. -/
def drushSeeds (baseUrl : String) : Option Drush → Except Exn (List String)
  | some d => if d.cmd = "" then .ok [] else seedUrlsFromDrush d (normaliseUrl baseUrl)
  | none => .ok []

/-- The queue of a crawl whose seeding returned: the base URL with a slash, then the seeds.
When the seeding raises, `crawl` raises before the browser starts and builds no queue
(`crawl_of_drushSeeds_error`). -/
def seedQueue (baseUrl : String) (drush : Option Drush) : List String :=
  (normaliseUrl baseUrl ++ "/") :: match drushSeeds baseUrl drush with
    | .ok seeds => seeds
    | .error _ => []

/-- Every URL of the starting queue is the normalised base followed by a path that starts
with `/`. -/
theorem seedQueue_data {baseUrl : String} {drush : Option Drush} :
    ∀ q ∈ seedQueue baseUrl drush, ∃ w, q.data = (normaliseUrl baseUrl).data ++ '/' :: w := by
  intro q hmem
  rcases List.mem_cons.mp hmem with rfl | hq
  · exact ⟨[], by simp⟩
  clear hmem
  cases hseeds : drushSeeds baseUrl drush with
  | error => rw [hseeds] at hq; cases hq
  | ok seeds =>
    rw [hseeds] at hq
    rcases drush with _ | d
    · cases hseeds; cases hq
    by_cases hcmd : d.cmd = ""
    · rw [drushSeeds, if_pos hcmd] at hseeds
      cases hseeds; cases hq
    · rw [drushSeeds, if_neg hcmd] at hseeds
      obtain ⟨w, hw⟩ := seedUrlsFromDrush_data hseeds hq
      exact ⟨w, by rw [hw, show rstrip (· = '/') (normaliseUrl baseUrl) = normaliseUrl baseUrl from
        normaliseUrl_normaliseUrl baseUrl]⟩

/-- `crawl(base_url, compare_base, drush_cmd)` on `fuel` iterations of the loop. -/
def crawl (E : Engine) (baseUrl : String) (compareBase : Option String) (drush : Option Drush)
    (fuel : Nat) : Option (Except Exn (List AuditRecord)) :=
  match drushSeeds baseUrl drush with
  | .error err => some (.error err)
  | .ok _ =>
    match E.launch with
    | .error err => some (.error err)
    | .ok _ =>
      match crawlLoop E (normaliseUrl baseUrl) compareBase fuel (.init (seedQueue baseUrl drush)) with
      | none => none
      | some (.error err) => some (.error err)
      | some (.ok c) =>
        match E.close with
        | .error err => some (.error err)
        | .ok _ => some (.ok c.results)

/-- A seeding that raises ends the crawl before the browser starts. -/
theorem crawl_of_drushSeeds_error {E : Engine} {baseUrl : String} {compareBase : Option String}
    {drush : Option Drush} {err : Exn} (h : drushSeeds baseUrl drush = .error err) (fuel : Nat) :
    crawl E baseUrl compareBase drush fuel = some (.error err) := by
  rw [crawl, h]

/-! ## One iteration, and the runs -/

section Loop

variable {E : Engine} {baseUrl : String} {compareBase : Option String}

/-- The state after the iteration that audits the head `url` of the queue. -/
def Crawl.visit (c : Crawl) (url : String) (rest : List String) (record : AuditRecord)
    (session : Session) (links : List String) : Crawl :=
  ⟨rest ++ links.filter (fun link => normaliseUrl link ∉ normaliseUrl url :: c.visited),
    normaliseUrl url :: c.visited, c.results ++ [record], session⟩

/-- A URL queued after an audit was queued before it, or was discovered by it. -/
theorem Crawl.mem_visit_queue {c : Crawl} {url q : String} {rest : List String} {record : AuditRecord}
    {session : Session} {links : List String} (h : q ∈ (c.visit url rest record session links).queue) :
    q ∈ rest ∨ q ∈ links :=
  (List.mem_append.mp h).imp_right fun h => (List.mem_filter.mp h).1

/-- A normalised link an audit discovers is visited after it, or queued by it. -/
theorem Crawl.visited_or_queued {c : Crawl} {url l : String} {links : List String} (hl : l ∈ links)
    (hnorm : normaliseUrl l = l) :
    l ∈ normaliseUrl url :: c.visited ∨
      l ∈ links.filter fun link => normaliseUrl link ∉ normaliseUrl url :: c.visited := by
  by_cases hv : l ∈ normaliseUrl url :: c.visited
  · exact .inl hv
  · exact .inr (List.mem_filter.mpr ⟨hl, by simpa [hnorm] using hv⟩)

/-- One iteration either drops the head of the queue (visited, or skipped) or audits it
and queues what `discover_links` returns. -/
theorem iterate_cases {c c' : Crawl} {url : String} {rest : List String} (hq : c.queue = url :: rest)
    (h : c.iterate E baseUrl compareBase = .ok c') :
    (c' = { c with queue := rest } ∧ (normaliseUrl url ∈ c.visited ∨ shouldSkip url = .ok true)) ∨
      (normaliseUrl url ∉ c.visited ∧ shouldSkip url = .ok false ∧
        ∃ record session links,
          auditPage (E.page c.results.length) url baseUrl compareBase c.session = .ok (record, session) ∧
          discoverLinks (E.links c.results.length session) baseUrl = .ok links ∧
          c' = c.visit url rest record session links) := by
  unfold Crawl.iterate at h
  rw [hq] at h
  dsimp only at h
  split at h
  · cases h; exact .inl ⟨rfl, .inl ‹_›⟩
  rename_i hnew
  split at h
  · cases h
  · cases h; exact .inl ⟨rfl, .inr ‹_›⟩
  rename_i hskip
  split at h
  · cases h
  rename_i record session haudit
  split at h
  · cases h
  rename_i links hlinks
  cases h
  refine .inr ⟨hnew, hskip, record, session, links, haudit, hlinks, ?_⟩
  simp [Crawl.visit, List.insert_of_not_mem hnew]

/-- The states the loop reaches from `init`. -/
inductive Reachable (E : Engine) (baseUrl : String) (compareBase : Option String) (init : Crawl) :
    Crawl → Prop
  | init : Reachable E baseUrl compareBase init init
  | iterate {c c' : Crawl} : Reachable E baseUrl compareBase init c → c.queue ≠ [] →
      c.iterate E baseUrl compareBase = .ok c' → Reachable E baseUrl compareBase init c'

/-- A loop that returns ends in a reachable state with an empty queue. -/
theorem crawlLoop_reachable {init : Crawl} :
    ∀ (fuel : Nat) {c c' : Crawl}, Reachable E baseUrl compareBase init c →
      crawlLoop E baseUrl compareBase fuel c = some (.ok c') →
      Reachable E baseUrl compareBase init c' ∧ c'.queue = []
  | 0, c, c', hc, h => by
      unfold crawlLoop at h
      split at h <;> cases h
      exact ⟨hc, ‹_›⟩
  | fuel + 1, c, c', hc, h => by
      unfold crawlLoop at h
      split at h
      · cases h; exact ⟨hc, ‹_›⟩
      split at h
      · cases h
      · exact crawlLoop_reachable fuel (hc.iterate ‹_› ‹_›) h

/-- A `crawl` that returns gives the records of a reachable state with an empty queue. -/
theorem crawl_returns {drush : Option Drush} {fuel : Nat} {results : List AuditRecord}
    (h : crawl E baseUrl compareBase drush fuel = some (.ok results)) :
    ∃ c, Reachable E (normaliseUrl baseUrl) compareBase (.init (seedQueue baseUrl drush)) c ∧
      c.queue = [] ∧ c.results = results := by
  unfold crawl at h
  split at h
  · cases h
  split at h
  · cases h
  split at h
  · cases h
  · cases h
  · rename_i c hloop
    split at h
    · cases h
    · cases h
      exact ⟨c, (crawlLoop_reachable fuel .init hloop).1, (crawlLoop_reachable fuel .init hloop).2, rfl⟩

end Loop

/-! ## A site -/

/-- The engine of a site: every call of every audit returns at once (`PageEngine.quiet`),
and the link script reports `site u` on a tab that shows `u`. -/
def Engine.ofSite (site : String → List String) : Engine :=
  ⟨.ok (), fun _ => .quiet, fun _ s => .ok (site s.shown), .ok ()⟩

/-- A crawl aborts when `page.content()` raises on the first page: the exception leaves
`audit_page`, the loop and `crawl`. -/
theorem crawl_aborts_on_content_failure :
    crawl { Engine.ofSite (fun _ => []) with
        page := fun _ => { PageEngine.quiet with content := ⟨[], .error (.error "Target closed")⟩ } }
      "https://a.test" none none 5 = some (.error (.error "Target closed")) := by
  decide

end SiteAuditor
