/-
# SiteAuditor.Refinement — the crawl is textbook breadth-first search

`crawl` checks `visited` when it pops a URL, and queues every discovered link that is
not visited, even one already queued. The textbook search (`Bfs`) instead marks a page
when it queues it and never queues it twice. The two visit the same pages in the same
order.

`Crawl.abstract` maps a state of the loop to a state of the search. The visited pages are
the records' keys. The queue is the keys of the queued URLs that are not skipped, each
once, leaving out visited ones (`Bfs.push` folded over them). An iteration that drops
its URL leaves the abstract state unchanged. One that audits its URL is one step of the
search over the site's links (`abstract_iterate`): the popped key is the abstract
queue's head (`foldl_push_shift`), and the links that `crawl` queues again map to
nothing (`foldl_push_filter`). So every state of every run is a state of the search
(`Reachable.abstract`). When `crawl` returns, the search from the keys of the
non-skipped seeds has ended, having visited exactly the records' pages in the records'
order (`crawl_is_bfs`).
-/
import SiteAuditor.Site

namespace SiteAuditor

set_option autoImplicit false

/-! ## The search -/

/-- Breadth-first search that marks a page when it queues it: the queue, and the pages
visited, in visiting order. -/
structure Bfs where
  queue : List String
  order : List String
deriving DecidableEq, Repr

/-- Queue `w` unless it is visited or already queued. -/
def Bfs.push (b : Bfs) (w : String) : Bfs :=
  if w ∈ b.order ∨ w ∈ b.queue then b else ⟨b.queue ++ [w], b.order⟩

/-- Visit the head of the queue, and queue its links. -/
def Bfs.step (next : String → List String) (b : Bfs) : Bfs :=
  match b.queue with
  | [] => b
  | v :: rest => (next v).foldl Bfs.push ⟨rest, b.order ++ [v]⟩

/-- `n` steps of the search. -/
def Bfs.run (next : String → List String) : Nat → Bfs → Bfs
  | 0, b => b
  | n + 1, b => Bfs.run next n (b.step next)

/-- The search from `starts`, queued in order. -/
def Bfs.start (starts : List String) : Bfs :=
  starts.foldl Bfs.push ⟨[], []⟩

@[simp] theorem Bfs.push_order (b : Bfs) (w : String) : (b.push w).order = b.order := by
  unfold Bfs.push; split <;> rfl

theorem Bfs.foldl_push_order (l : List String) (b : Bfs) : (l.foldl Bfs.push b).order = b.order := by
  induction l generalizing b with
  | nil => rfl
  | cons w l ih => rw [List.foldl_cons, ih, Bfs.push_order]

/-- Pushing keeps the visited pages. -/
theorem Bfs.foldl_push_mk (l : List String) (q order : List String) :
    l.foldl Bfs.push ⟨q, order⟩ = ⟨(l.foldl Bfs.push ⟨q, order⟩).queue, order⟩ := by
  have horder := Bfs.foldl_push_order l ⟨q, order⟩
  generalize l.foldl Bfs.push ⟨q, order⟩ = b at horder ⊢
  obtain ⟨q', order'⟩ := b
  cases horder
  rfl

theorem Bfs.run_succ (next : String → List String) (n : Nat) (b : Bfs) :
    Bfs.run next (n + 1) b = (Bfs.run next n b).step next := by
  induction n generalizing b with
  | zero => rfl
  | succ n ih => exact ih (b.step next)

/-- Pushing onto a queue with head `v` is pushing onto its tail with `v` visited. -/
theorem Bfs.foldl_push_shift (l : List String) (v : String) (q order : List String) :
    l.foldl Bfs.push ⟨v :: q, order⟩ = ⟨v :: (l.foldl Bfs.push ⟨q, order ++ [v]⟩).queue, order⟩ := by
  induction l generalizing q with
  | nil => rfl
  | cons w l ih =>
    have hmem : (w ∈ order ∨ w ∈ v :: q) ↔ (w ∈ order ++ [v] ∨ w ∈ q) := by
      simp only [List.mem_cons, List.mem_append, List.mem_singleton]; tauto
    simp only [List.foldl_cons, Bfs.push, hmem]
    split
    · exact ih q
    · exact ih (q ++ [w])

/-- Links that are visited already change nothing. -/
theorem Bfs.foldl_push_filter (l : List String) (p : String → Bool) (b : Bfs)
    (hp : ∀ w ∈ l, p w = false → w ∈ b.order) : (l.filter p).foldl Bfs.push b = l.foldl Bfs.push b := by
  induction l generalizing b with
  | nil => rfl
  | cons w l ih =>
    have hl : ∀ w' ∈ l, p w' = false → w' ∈ (b.push w).order := fun w' hw' => by
      rw [Bfs.push_order]; exact hp w' (.tail _ hw')
    by_cases hw : p w
    · rw [List.filter_cons_of_pos hw, List.foldl_cons, List.foldl_cons, ih _ hl]
    · have hvisited : b.push w = b := if_pos (.inl (hp w (.head _) (by simpa using hw)))
      rw [List.filter_cons_of_neg hw, List.foldl_cons, hvisited, ih _ (hvisited ▸ hl)]

/-! ## The crawl as a search -/

/-- The keys of the queued URLs that are not skipped, in queue order. -/
def queueKeys (queue : List String) : List String :=
  (queue.filter fun q => shouldSkip q = .ok false).map normaliseUrl

/-- The search state a state of the loop stands for. -/
def Crawl.abstract (c : Crawl) : Bfs :=
  (queueKeys c.queue).foldl Bfs.push ⟨[], c.results.map AuditRecord.key⟩

/-- The site's links as `discover_links` reports them. -/
def siteLinks (links : String → List String) (baseUrl v : String) : List String :=
  match discoverLinks (.ok (links v)) baseUrl with
  | .ok found => found
  | .error _ => []

/-- Discovered links are their own keys. -/
theorem queueKeys_discovered {hrefs : Except Exn (List String)} {baseUrl : String} {found : List String}
    (h : discoverLinks hrefs baseUrl = .ok found) (p : String → Bool) :
    queueKeys (found.filter p) = found.filter p := by
  have hfound : ∀ l ∈ found.filter p, shouldSkip l = .ok false ∧ normaliseUrl l = l := fun l hl =>
    ⟨(discoverLinks_mem h (List.mem_filter.mp hl).1).2.1, (discoverLinks_mem h (List.mem_filter.mp hl).1).1⟩
  unfold queueKeys
  rw [List.filter_eq_self.mpr fun l hl => by simp [(hfound l hl).1]]
  exact List.map_congr_left (fun l hl => (hfound l hl).2) |>.trans (List.map_id _)

section Refinement

variable {E : Engine} {links : String → List String} {baseUrl : String} {c c' : Crawl}

/-- An iteration is no step of the search, when it drops its URL, or one step, when it
audits it. -/
theorem abstract_iterate (hpages : ∀ k, (E.page k).Succeeds) (hsite : E.Serves links) (hc : Frontier c)
    (h : c.iterate E baseUrl none = .ok c') :
    c'.abstract = c.abstract ∨ c'.abstract = c.abstract.step (siteLinks links baseUrl) := by
  cases hq : c.queue with
  | nil => exact .inl (by rw [iterate_nil hq h])
  | cons url rest =>
    have hvisited : ∀ v, v ∈ c.visited ↔ v ∈ c.results.map AuditRecord.key := by
      simp [hc.visited_eq]
    rcases iterate_cases hq h with ⟨rfl, hdrop⟩ | ⟨hnew, hskip, record, session, found, haudit, hlinks, rfl⟩
    · refine .inl ?_
      simp only [Crawl.abstract, hq, queueKeys, List.filter_cons]
      split
      · rename_i hkeep
        have hv : normaliseUrl url ∈ c.results.map AuditRecord.key := by
          rcases hdrop with hv | hv
          · exact (hvisited _).mp hv
          · simp [hv] at hkeep
        simp [Bfs.push, hv]
      · rfl
    · right
      have hkey : record.key = normaliseUrl url := by rw [AuditRecord.key, auditPage_fullUrl haudit]
      have hfound := visit_links hpages hsite haudit hlinks
      have hstart : Bfs.push ⟨[], c.results.map AuditRecord.key⟩ (normaliseUrl url) =
          ⟨[normaliseUrl url], c.results.map AuditRecord.key⟩ :=
        if_neg (by simpa [hvisited] using hnew)
      have hkeys : queueKeys (url :: rest) = normaliseUrl url :: queueKeys rest := by
        simp [queueKeys, hskip]
      rw [Crawl.abstract, Crawl.abstract, hq, hkeys, List.foldl_cons, hstart, Bfs.foldl_push_shift]
      simp only [Crawl.visit, Bfs.step, siteLinks, hfound, List.map_append, List.map_singleton, hkey]
      rw [queueKeys, List.filter_append, List.map_append, ← queueKeys, ← queueKeys, List.foldl_append,
        Bfs.foldl_push_mk (queueKeys rest), queueKeys_discovered hfound, Bfs.foldl_push_filter]
      intro w hw hp
      simp only [(discoverLinks_mem hfound hw).1, List.mem_cons, decide_eq_false_iff_not, not_not] at hp
      show w ∈ c.results.map AuditRecord.key ++ [normaliseUrl url]
      rw [List.mem_append, List.mem_singleton, ← hvisited]
      exact hp.symm

/-- Every state of every run from `seeds` stands for a state of the search from the
keys of the seeds that are not skipped. -/
theorem Reachable.abstract (hpages : ∀ k, (E.page k).Succeeds) (hsite : E.Serves links) {seeds : List String}
    (hc : Reachable E baseUrl none (.init seeds) c) :
    ∃ n, c.abstract = Bfs.run (siteLinks links baseUrl) n (Bfs.start (queueKeys seeds)) := by
  induction hc with
  | init => exact ⟨0, rfl⟩
  | iterate hc' _ h ih =>
    obtain ⟨n, hn⟩ := ih
    rcases abstract_iterate hpages hsite hc'.frontier h with h' | h'
    · exact ⟨n, h'.trans hn⟩
    · exact ⟨n + 1, by rw [h', hn, Bfs.run_succ]⟩

end Refinement

/-- On a site without a comparison base, where every engine call returns: whenever
`crawl` returns, the textbook breadth-first search from the keys of the seeds that are
not skipped, over the links `discover_links` reports, ends after some number of steps,
having visited exactly the normalised URLs of the records, in the records' order. -/
theorem crawl_is_bfs {E : Engine} {links : String → List String} {baseUrl : String}
    {drush : Option Drush} {fuel : Nat} {results : List AuditRecord}
    (hpages : ∀ k, (E.page k).Succeeds) (hsite : E.Serves links)
    (h : crawl E baseUrl none drush fuel = some (.ok results)) :
    ∃ n, Bfs.run (siteLinks links (normaliseUrl baseUrl)) n (Bfs.start (queueKeys (seedQueue baseUrl drush))) =
      ⟨[], results.map fun r => normaliseUrl r.fullUrl⟩ := by
  obtain ⟨c, hc, hq, rfl⟩ := crawl_returns h
  obtain ⟨n, hn⟩ := hc.abstract hpages hsite
  refine ⟨n, hn.symm.trans ?_⟩
  simp [Crawl.abstract, hq, queueKeys, AuditRecord.key]

/-- A site where `https://a.test` links to `/a` and `/b`, `/a` to `/b` and `/c`, and `/b`
to `/c`: the crawl queues `/b` and `/c` twice each. -/
def diamondSite (u : String) : List String :=
  if u = "https://a.test" then ["https://a.test/a", "https://a.test/b"]
  else if u = "https://a.test/a" then ["https://a.test/b", "https://a.test/c"]
  else if u = "https://a.test/b" then ["https://a.test/c"]
  else []

/-- The crawl of `diamondSite` audits each page once, in the order of the search. -/
theorem diamondSite_is_bfs :
    ∃ results, crawl (.ofSite fun u => diamondSite (normaliseUrl u)) "https://a.test" none none 10 =
        some (.ok results) ∧
      results.map AuditRecord.fullUrl =
        ["https://a.test/", "https://a.test/a", "https://a.test/b", "https://a.test/c"] ∧
      ∃ n, Bfs.run (siteLinks diamondSite (normaliseUrl "https://a.test")) n
          (Bfs.start (queueKeys (seedQueue "https://a.test" none))) =
        ⟨[], results.map fun r => normaliseUrl r.fullUrl⟩ := by
  have h : crawl (.ofSite fun u => diamondSite (normaliseUrl u)) "https://a.test" none none 10 =
      some (.ok _) := rfl
  exact ⟨_, h, by decide, crawl_is_bfs (fun _ => PageEngine.quiet_succeeds) (Engine.ofSite_serves _) h⟩

end SiteAuditor
