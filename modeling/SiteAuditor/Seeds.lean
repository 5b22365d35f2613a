/-
# SiteAuditor.Seeds — the seeded URLs are audited first

`crawl` puts the base URL and the `drush` seeds in the queue before the loop starts, and
the loop only appends. So every seed is popped before any discovered link. A seed is
popped once; afterwards it is visited or skipped, so a discovered link with the same
text is dropped when it is popped. Hence the records of a run are the seeds' records, in
seed order, followed by records of URLs that are not seeds (`seeds_audited_first`),
under every engine.

The proof follows one ghost index, the number `i` of seeds popped so far (`SeedPhase`).
Each iteration pops the next seed while `i` is below the number of seeds, and a
discovered link afterwards (`SeedPhase.iterate`). `Reachable.seedPhase` carries the
invariant over every run.
-/
import SiteAuditor.Runs

namespace SiteAuditor

set_option autoImplicit false

/-- The run has popped the first `i` seeds, each now visited or skipped. Its records are
`pre`, records of seeds in seed order, then `post`, records of other URLs, and `post` is
empty while a seed is still queued. -/
structure SeedPhase (seeds : List String) (i : Nat) (pre post : List AuditRecord) (c : Crawl) : Prop where
  queue : (seeds.drop i).IsPrefix c.queue
  results : c.results = pre ++ post
  pre_seeds : (pre.map AuditRecord.fullUrl).Sublist (seeds.take i)
  post_fresh : ∀ r ∈ post, r.fullUrl ∉ seeds
  popped : ∀ s ∈ seeds.take i, normaliseUrl s ∈ c.visited ∨ shouldSkip s = .ok true
  pending : i < seeds.length → post = []

section Seeds

variable {E : Engine} {baseUrl : String} {compareBase : Option String} {seeds : List String}

theorem SeedPhase.init : SeedPhase seeds 0 [] [] (.init seeds) where
  queue := List.prefix_refl _
  results := rfl
  pre_seeds := List.nil_sublist _
  post_fresh _ h := by cases h
  popped _ h := by simp at h
  pending _ := rfl

variable {i : Nat} {pre post : List AuditRecord} {c c' : Crawl} {url : String} {rest : List String}

/-- While a seed is queued, the head of the queue is the next seed. -/
theorem SeedPhase.head_seed (hc : SeedPhase seeds i pre post c) (hq : c.queue = url :: rest)
    (hi : i < seeds.length) :
    seeds.take (i + 1) = seeds.take i ++ [url] ∧ (seeds.drop (i + 1)).IsPrefix rest := by
  have hpre := hc.queue
  rw [List.drop_eq_getElem_cons hi, hq] at hpre
  obtain ⟨hurl, hrest⟩ := List.cons_prefix_cons.mp hpre
  rw [List.take_succ, List.getElem?_eq_getElem hi, Option.toList_some, hurl]
  exact ⟨rfl, hrest⟩

/-- Popping the next seed, once it is visited or skipped, leaves every popped seed so. -/
theorem popped_take_succ {V : List String} (htake : seeds.take (i + 1) = seeds.take i ++ [url])
    (hpop : ∀ s ∈ seeds.take i, normaliseUrl s ∈ V ∨ shouldSkip s = .ok true)
    (hurl : normaliseUrl url ∈ V ∨ shouldSkip url = .ok true) :
    ∀ s ∈ seeds.take (i + 1), normaliseUrl s ∈ V ∨ shouldSkip s = .ok true := fun s hs =>
  (List.mem_append.mp (htake ▸ hs)).elim (hpop s) fun hs => List.mem_singleton.mp hs ▸ hurl

/-- Once every seed is popped, an audited URL is no seed. -/
theorem SeedPhase.not_seed (hc : SeedPhase seeds i pre post c) (hi : seeds.length ≤ i)
    (hnew : normaliseUrl url ∉ c.visited) (hskip : shouldSkip url = .ok false) : url ∉ seeds := by
  intro hs
  rcases hc.popped url (by rwa [List.take_of_length_le hi]) with hv | hv
  · exact hnew hv
  · cases hskip.symm.trans hv

/-- One iteration keeps the invariant, with one more seed popped while seeds remain. -/
theorem SeedPhase.iterate (hc : SeedPhase seeds i pre post c) (h : c.iterate E baseUrl compareBase = .ok c') :
    ∃ i' pre' post', SeedPhase seeds i' pre' post' c' := by
  cases hq : c.queue with
  | nil => exact ⟨i, pre, post, iterate_nil hq h ▸ hc⟩
  | cons url rest =>
    rcases iterate_cases hq h with ⟨rfl, hdrop⟩ | ⟨hnew, hskip, record, session, links, haudit, -, rfl⟩
    · by_cases hi : i < seeds.length
      · obtain ⟨htake, hrest⟩ := hc.head_seed hq hi
        exact ⟨i + 1, pre, post, ⟨hrest, hc.results, hc.pre_seeds.trans (List.take_sublist_take_left _ (Nat.le_succ i)),
          hc.post_fresh, popped_take_succ htake hc.popped hdrop, fun _ => hc.pending hi⟩⟩
      · exact ⟨i, pre, post, ⟨List.drop_of_length_le (Nat.le_of_not_lt hi) ▸ List.nil_prefix, hc.results, hc.pre_seeds,
          hc.post_fresh, hc.popped, hc.pending⟩⟩
    · have hfull := auditPage_fullUrl haudit
      have hvisit : ∀ s ∈ seeds.take i, normaliseUrl s ∈ normaliseUrl url :: c.visited ∨ shouldSkip s = .ok true :=
        fun s hs => (hc.popped s hs).imp_left (.tail _)
      by_cases hi : i < seeds.length
      · obtain ⟨htake, hrest⟩ := hc.head_seed hq hi
        refine ⟨i + 1, pre ++ [record], [], ⟨hrest.trans (List.prefix_append _ _), ?_, ?_,
          (fun _ h => by cases h), popped_take_succ htake hvisit (.inl (.head _)), fun _ => rfl⟩⟩
        · simp [Crawl.visit, hc.results, hc.pending hi]
        · rw [htake, List.map_append, List.map_singleton, hfull]
          exact hc.pre_seeds.append (List.Sublist.refl _)
      · have hi' := Nat.le_of_not_lt hi
        refine ⟨i, pre, post ++ [record], ⟨List.drop_of_length_le hi' ▸ List.nil_prefix, ?_, hc.pre_seeds, ?_, hvisit,
          fun h => absurd h hi⟩⟩
        · simp [Crawl.visit, hc.results]
        · intro r hr
          rcases List.mem_append.mp hr with hr | hr
          · exact hc.post_fresh r hr
          · rw [List.mem_singleton.mp hr, hfull]
            exact hc.not_seed hi' hnew hskip

theorem Reachable.seedPhase (hc : Reachable E baseUrl compareBase (.init seeds) c) :
    ∃ i pre post, SeedPhase seeds i pre post c := by
  induction hc with
  | init => exact ⟨0, [], [], .init⟩
  | iterate _ _ h ih =>
    obtain ⟨i, pre, post, hc⟩ := ih
    exact hc.iterate h

end Seeds

/-- Under every engine, the records `crawl` returns are those of seeded URLs (the base
URL with a slash, then the `drush` seeds), in seed order, followed by records of URLs
that are not seeds. -/
theorem seeds_audited_first {E : Engine} {baseUrl : String} {compareBase : Option String}
    {drush : Option Drush} {fuel : Nat} {results : List AuditRecord}
    (h : crawl E baseUrl compareBase drush fuel = some (.ok results)) :
    ∃ pre post, results = pre ++ post ∧ (pre.map AuditRecord.fullUrl).Sublist (seedQueue baseUrl drush) ∧
      ∀ r ∈ post, r.fullUrl ∉ seedQueue baseUrl drush := by
  obtain ⟨c, hc, -, rfl⟩ := crawl_returns h
  obtain ⟨i, pre, post, hs⟩ := hc.seedPhase
  exact ⟨pre, post, hs.results, hs.pre_seeds.trans (List.take_sublist _ _), hs.post_fresh⟩

/-- A `drush` alias query that seeds `/contact`. -/
def contactDrush : Drush := ⟨"drush", .output "alias\n/contact", .calledProcessError⟩

/-- On a site whose pages all link to `/about`, `/contact` is seeded and audited before
`/about`, which the first page discovers. -/
theorem contact_audited_before_about :
    ∃ results, crawl (.ofSite fun _ => ["https://a.test/about"]) "https://a.test" none (some contactDrush) 10 =
        some (.ok results) ∧
      results.map AuditRecord.fullUrl = ["https://a.test/", "https://a.test/contact", "https://a.test/about"] ∧
      ∃ pre post, results = pre ++ post ∧ (pre.map AuditRecord.fullUrl).Sublist (seedQueue "https://a.test" (some contactDrush)) ∧
        ∀ r ∈ post, r.fullUrl ∉ seedQueue "https://a.test" (some contactDrush) := by
  have h : crawl (.ofSite fun _ => ["https://a.test/about"]) "https://a.test" none (some contactDrush) 10 =
      some (.ok _) := rfl
  exact ⟨_, h, by decide, seeds_audited_first h⟩

end SiteAuditor
