/-
# SiteAuditor.Scope — the netlocs the crawl visits

`is_internal` compares netlocs only when the href has one, so an absolute href with an
empty netloc (`sms:`, `about:`, `data:`, `file:///`) passes it, passes `should_skip`,
and is audited (`crawl_audits_sms_link`). What the crawl does keep: every URL it hands
to `audit_page` parses, and its netloc is the base's or empty (`audited_netloc`).

The invariant `QueueInScope` says so of every queued URL. The seeds keep the base's
netloc (`netlocOf_append_slash`), and a discovered link keeps the netloc of the href it
was cleaned from (`netlocOf_cleanLink`), which `is_internal` checked.
-/
import SiteAuditor.Runs

namespace SiteAuditor

open Py

set_option autoImplicit false

/-- Cleaning an href keeps its netloc. -/
theorem netlocOf_cleanLink (link : String) : netlocOf (cleanLink link).data = netlocOf link.data := by
  rw [cleanLink, normaliseUrl, netlocOf_rstrip]
  simp only [beforeFirst]
  rw [netlocOf_takeWhile (fun c h => .inr (by simpa using h)),
    netlocOf_takeWhile (fun c h => .inl (by simpa using h))]

section Scope

variable {E : Engine} {compareBase : Option String} {baseUrl : String}

/-- Every queued URL has the netloc of `baseUrl`, or none. -/
def QueueInScope (baseUrl : String) (c : Crawl) : Prop :=
  ∀ q ∈ c.queue, netlocOf q.data = netlocOf baseUrl.data ∨ netlocOf q.data = []

theorem seedQueue_inScope (hhost : netlocOf baseUrl.data ≠ []) (drush : Option Drush) :
    QueueInScope baseUrl (.init (seedQueue baseUrl drush)) := by
  have hbase : netlocOf (normaliseUrl baseUrl).data = netlocOf baseUrl.data := netlocOf_rstrip baseUrl
  intro q hq
  obtain ⟨w, hw⟩ := seedQueue_data q hq
  exact .inl (by rw [hw, netlocOf_append_slash _ _ (.inr (hbase ▸ hhost)), hbase])

/-- A link `discover_links` returns has the netloc of the base it was given, or none. -/
theorem discoverLinks_netloc {hrefs : Except Exn (List String)} {found : List String} {l : String}
    (h : discoverLinks hrefs (normaliseUrl baseUrl) = .ok found) (hl : l ∈ found) :
    netlocOf l.data = netlocOf baseUrl.data ∨ netlocOf l.data = [] := by
  obtain ⟨-, -, links, -, link, -, hin, rfl⟩ := discoverLinks_mem h hl
  obtain ⟨p, pb, hp, hpb, hnet⟩ := isInternal_netloc hin
  have hbase : netlocOf (normaliseUrl baseUrl).data = netlocOf baseUrl.data := netlocOf_rstrip baseUrl
  rw [netlocOf_cleanLink, ← urlparse_netloc hp, ← hbase, ← urlparse_netloc hpb]
  exact hnet.symm.imp (congrArg String.data) (fun h => by simp [h])

theorem QueueInScope.iterate {c c' : Crawl} (hc : QueueInScope baseUrl c)
    (h : c.iterate E (normaliseUrl baseUrl) compareBase = .ok c') : QueueInScope baseUrl c' := by
  cases hq : c.queue with
  | nil => exact iterate_nil hq h ▸ hc
  | cons url rest =>
    have hrest : ∀ q ∈ rest, _ := fun q hr => hc q (hq ▸ .tail _ hr)
    rcases iterate_cases hq h with ⟨rfl, -⟩ | ⟨-, -, record, session, links, -, hlinks, rfl⟩
    · exact hrest
    · intro q hq'
      rcases Crawl.mem_visit_queue hq' with hr | hl
      · exact hrest q hr
      · exact discoverLinks_netloc hlinks hl

theorem Reachable.queueInScope (hhost : netlocOf baseUrl.data ≠ []) {drush : Option Drush} {c : Crawl}
    (hc : Reachable E (normaliseUrl baseUrl) compareBase (.init (seedQueue baseUrl drush)) c) :
    QueueInScope baseUrl c := by
  induction hc with
  | init => exact seedQueue_inScope hhost drush
  | iterate _ _ h ih => exact ih.iterate h

/-- Every URL the crawl hands to `audit_page` parses, and its netloc is the base's or
empty: for every base URL with a host, every `drush` seeding, and every engine. -/
theorem audited_netloc {pb : ParseResult} (hb : urlparse baseUrl = .ok pb) (hhost : pb.netloc ≠ "")
    {drush : Option Drush} {c : Crawl}
    (hc : Reachable E (normaliseUrl baseUrl) compareBase (.init (seedQueue baseUrl drush)) c)
    {url : String} {rest : List String} (hq : c.queue = url :: rest)
    (hskip : shouldSkip url = .ok false) :
    ∃ p, urlparse url = .ok p ∧ (p.netloc = pb.netloc ∨ p.netloc = "") := by
  have hhost' : netlocOf baseUrl.data ≠ [] := by
    rw [← urlparse_netloc hb]; exact fun h => hhost (String.ext h)
  have inv := hc.queueInScope hhost'
  obtain ⟨p, hp⟩ := urlparse_of_shouldSkip hskip
  refine ⟨p, hp, ?_⟩
  rcases inv url (hq ▸ .head _) with h | h
  · exact .inl (String.ext (by rw [urlparse_netloc hp, urlparse_netloc hb, h]))
  · exact .inr (String.ext (by rw [urlparse_netloc hp, h]))

end Scope

/-- A site whose home page links to `sms:+40123`. -/
def smsSite (u : String) : List String :=
  if u = "https://a.test/" then ["sms:+40123"] else []

/-- After the first iteration of a crawl of `smsSite`, the head of the queue is
`sms:+40123`, which parses with an empty netloc. -/
theorem audited_netloc_of_sms :
    ∃ c, Reachable (.ofSite smsSite) (normaliseUrl "https://a.test") none
        (.init (seedQueue "https://a.test" none)) c ∧ c.queue = ["sms:+40123"] ∧
      ∃ p, urlparse "sms:+40123" = .ok p ∧ (p.netloc = "a.test" ∨ p.netloc = "") := by
  have hc : Reachable (.ofSite smsSite) (normaliseUrl "https://a.test") none
      (.init (seedQueue "https://a.test" none)) _ := .iterate .init (by decide) rfl
  exact ⟨_, hc, rfl, audited_netloc (rfl : urlparse "https://a.test" = .ok ⟨"https", "a.test", "", "", "", ""⟩)
    (by decide) hc rfl (by decide)⟩

/-- A page of `https://a.test/` linking to `sms:+40123` gets that URL audited, and its
netloc is empty, not `a.test`. -/
theorem crawl_audits_sms_link :
    (crawl (.ofSite smsSite) "https://a.test" none none 3).map (·.map (·.map AuditRecord.fullUrl)) =
      some (.ok ["https://a.test/", "sms:+40123"]) ∧
      (urlparse "sms:+40123").map (·.netloc) = .ok "" ∧
      (urlparse "https://a.test").map (·.netloc) = .ok "a.test" := by
  decide

end SiteAuditor
