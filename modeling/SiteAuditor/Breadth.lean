/-
# SiteAuditor.Breadth — the crawl audits pages in breadth-first order

`Chain n v` holds when `n` discovered links lead from a normalised seed that is not
skipped to `v`, and `Dist m v` when `m` is the least such `n`; the URLs some chain
reaches are the pages `Found` (`found_iff_chain`). On a site (`Engine.Serves`) where every
engine call returns, a crawl without a comparison base returns records at a distance,
in order of distance (`crawl_breadth_first`), although a URL is queued again each time it
is found and a duplicate leaves the queue only when it is popped.

The proof labels each queued URL with the length of the chain it was found along (the
queue of a breadth-first search, as ghost data) and keeps `Layered k`:

* the labels are `k` or `k + 1`, in ascending order;
* every chain shorter than `k` ends at a visited URL, and every chain of length `k` at a
  visited URL or at one queued under `k`;
* every record is at distance at most `k`, the records are in order of distance, and the
  links of a record at distance `k` are visited or queued under `k + 1`.

Dropping the head keeps it (`Layered.drop`), so does auditing it (`Layered.visit`), and
once no label `k` is left the layer moves to `k + 1` (`Layered.advance`).
-/
import SiteAuditor.Site

namespace SiteAuditor

set_option autoImplicit false

/-- `n` discovered links lead from a normalised seed that is not skipped to `v`. -/
inductive Chain (links : String → List String) (baseUrl : String) (seeds : List String) :
    Nat → String → Prop
  | seed {s : String} : s ∈ seeds → shouldSkip s = .ok false →
      Chain links baseUrl seeds 0 (normaliseUrl s)
  | link {n : Nat} {u l : String} {found : List String} : Chain links baseUrl seeds n u →
      discoverLinks (.ok (links u)) baseUrl = .ok found → l ∈ found →
      Chain links baseUrl seeds (n + 1) l

/-- `m` is the length of the shortest chain to `v`. -/
def Dist (links : String → List String) (baseUrl : String) (seeds : List String) (m : Nat)
    (v : String) : Prop :=
  Chain links baseUrl seeds m v ∧ ∀ j < m, ¬Chain links baseUrl seeds j v

section Chains

variable {links : String → List String} {baseUrl : String} {seeds : List String}

/-- The pages `Found` are those some chain reaches. -/
theorem found_iff_chain {v : String} :
    Found links baseUrl seeds v ↔ ∃ n, Chain links baseUrl seeds n v := by
  constructor
  · intro h
    induction h with
    | seed hs hskip => exact ⟨0, .seed hs hskip⟩
    | link _ hf hl ih =>
      obtain ⟨n, hn⟩ := ih
      exact ⟨n + 1, .link hn hf hl⟩
  · rintro ⟨n, h⟩
    induction h with
    | seed hs hskip => exact .seed hs hskip
    | link _ hf hl ih => exact .link ih hf hl

theorem Chain.succ_inv {n : Nat} {v : String} (h : Chain links baseUrl seeds (n + 1) v) :
    ∃ u found, Chain links baseUrl seeds n u ∧ discoverLinks (.ok (links u)) baseUrl = .ok found ∧
      v ∈ found := by
  cases h with
  | link hu hf hl => exact ⟨_, _, hu, hf, hl⟩

theorem Dist.le {m n : Nat} {v : String} (hd : Dist links baseUrl seeds m v)
    (hn : Chain links baseUrl seeds n v) : m ≤ n :=
  Nat.le_of_not_lt fun h => hd.2 n h hn

theorem Dist.unique {m n : Nat} {v : String} (hm : Dist links baseUrl seeds m v)
    (hn : Dist links baseUrl seeds n v) : m = n :=
  Nat.le_antisymm (hm.le hn.1) (hn.le hm.1)

end Chains

/-- The breadth-first invariant at layer `k`; `lq` is the queue with each URL labelled by
the length of the chain it was found along. -/
structure Layered (links : String → List String) (baseUrl : String) (seeds : List String)
    (k : Nat) (c : Crawl) (lq : List (String × Nat)) : Prop where
  /-- Without its labels, `lq` is the queue. -/
  queue_eq : lq.map Prod.fst = c.queue
  /-- Labels are `k` or `k + 1`, … -/
  label : ∀ p ∈ lq, p.2 = k ∨ p.2 = k + 1
  /-- … in ascending order. -/
  sorted : lq.Pairwise fun p q => p.2 ≤ q.2
  /-- A queued URL that is not skipped ends a chain as long as its label. -/
  chain : ∀ p ∈ lq, shouldSkip p.1 = .ok false → Chain links baseUrl seeds p.2 (normaliseUrl p.1)
  /-- Every chain shorter than `k` ends at a visited URL. -/
  below : ∀ j < k, ∀ v, Chain links baseUrl seeds j v → v ∈ c.visited
  /-- Every chain of length `k` ends at a visited URL or at one queued under `k`. -/
  current : ∀ v, Chain links baseUrl seeds k v → v ∈ c.visited ∨
    ∃ p ∈ lq, p.2 = k ∧ normaliseUrl p.1 = v ∧ shouldSkip p.1 = .ok false
  /-- Every record is at distance at most `k`, … -/
  dist : ∀ r ∈ c.results, ∃ m ≤ k, Dist links baseUrl seeds m r.key
  /-- … and the records are in order of distance. -/
  ordered : c.results.Pairwise fun a b =>
    ∀ m n, Dist links baseUrl seeds m a.key → Dist links baseUrl seeds n b.key → m ≤ n
  /-- The links of a record at distance `k` are visited or queued under `k + 1`. -/
  next : ∀ r ∈ c.results, Dist links baseUrl seeds k r.key → ∀ found,
    discoverLinks (.ok (links r.key)) baseUrl = .ok found →
    ∀ l ∈ found, l ∈ c.visited ∨ (l, k + 1) ∈ lq

section Layers

variable {links : String → List String} {baseUrl : String} {seeds : List String}

theorem Layered.init : Layered links baseUrl seeds 0 (.init seeds) (seeds.map (·, 0)) where
  queue_eq := by simp [Crawl.init, Function.comp_def]
  label := by simp
  sorted := List.pairwise_map.mpr (List.pairwise_of_forall fun _ _ => le_rfl)
  chain := by
    simp only [List.mem_map]
    rintro _ ⟨s, hs, rfl⟩ hskip
    exact .seed hs hskip
  below _ h := absurd h (Nat.not_lt_zero _)
  current v h := by
    cases h with
    | seed hs hskip => exact .inr ⟨(_, 0), List.mem_map.mpr ⟨_, hs, rfl⟩, rfl, rfl, hskip⟩
  dist _ h := by cases h
  ordered := .nil
  next _ h := by cases h

variable {k : Nat} {c : Crawl} {url : String} {rest : List String} {lrest : List (String × Nat)}

/-- The head of `lq` is not labelled `k + 1` when it is labelled `k`. -/
theorem mem_of_mem_cons_succ {l : String} (h : (l, k + 1) ∈ (url, k) :: lrest) : (l, k + 1) ∈ lrest :=
  (List.mem_cons.mp h).resolve_left fun h => Nat.succ_ne_self k (congrArg Prod.snd h)

/-- Dropping a head labelled `k` that is visited or skipped keeps the invariant. -/
theorem Layered.drop (hc : Layered links baseUrl seeds k c ((url, k) :: lrest))
    (hq : c.queue = url :: rest) (hdrop : normaliseUrl url ∈ c.visited ∨ shouldSkip url = .ok true) :
    Layered links baseUrl seeds k { c with queue := rest } lrest where
  queue_eq := by simpa [hq] using hc.queue_eq
  label p hp := hc.label p (.tail _ hp)
  sorted := (List.pairwise_cons.mp hc.sorted).2
  chain p hp := hc.chain p (.tail _ hp)
  below := hc.below
  current v hv := by
    rcases hc.current v hv with hv | ⟨p, hp, hk, rfl, hskip⟩
    · exact .inl hv
    rcases List.mem_cons.mp hp with rfl | hp
    · rcases hdrop with hdrop | hdrop
      · exact .inl hdrop
      · cases hdrop.symm.trans hskip
    · exact .inr ⟨p, hp, hk, rfl, hskip⟩
  dist := hc.dist
  ordered := hc.ordered
  next r hr hd found hf l hl := (hc.next r hr hd found hf l hl).imp_right mem_of_mem_cons_succ

/-- Auditing a head labelled `k` that is neither visited nor skipped, and queueing the
links of its page under `k + 1`, keeps the invariant. -/
theorem Layered.visit {record : AuditRecord} {session : Session} {found : List String}
    (hc : Layered links baseUrl seeds k c ((url, k) :: lrest)) (hq : c.queue = url :: rest)
    (hnew : normaliseUrl url ∉ c.visited) (hskip : shouldSkip url = .ok false)
    (hkey : record.key = normaliseUrl url)
    (hfound : discoverLinks (.ok (links (normaliseUrl url))) baseUrl = .ok found) :
    Layered links baseUrl seeds k (c.visit url rest record session found)
      (lrest ++ (found.filter fun l => normaliseUrl l ∉ normaliseUrl url :: c.visited).map (·, k + 1)) := by
  have hurl : Chain links baseUrl seeds k (normaliseUrl url) := hc.chain (url, k) (.head _) hskip
  have hdist : Dist links baseUrl seeds k (normaliseUrl url) :=
    ⟨hurl, fun j hj h => hnew (hc.below j hj _ h)⟩
  have hrest : lrest.map Prod.fst = rest := by simpa [hq] using hc.queue_eq
  have hlabel : ∀ p ∈ lrest, p.2 ≤ k + 1 := fun p hp => by rcases hc.label p (.tail _ hp) with h | h <;> omega
  refine
    { queue_eq := by simp [Crawl.visit, hrest, Function.comp_def]
      label := fun p hp => ?label
      sorted := ?sorted
      chain := fun p hp hskip' => ?chain
      below := fun j hj v h => .tail _ (hc.below j hj v h)
      current := fun v hv => ?current
      dist := fun r hr => ?dist
      ordered := ?ordered
      next := fun r hr hd found' hf l hl => ?next }
  case label =>
    rcases List.mem_append.mp hp with hp | hp
    · exact hc.label p (.tail _ hp)
    · obtain ⟨l, -, rfl⟩ := List.mem_map.mp hp
      exact .inr rfl
  case sorted =>
    refine List.pairwise_append.mpr ⟨(List.pairwise_cons.mp hc.sorted).2,
      List.pairwise_map.mpr (List.pairwise_of_forall fun _ _ => le_rfl), fun p hp q hq' => ?_⟩
    obtain ⟨l, -, rfl⟩ := List.mem_map.mp hq'
    exact hlabel p hp
  case chain =>
    rcases List.mem_append.mp hp with hp | hp
    · exact hc.chain p (.tail _ hp) hskip'
    · obtain ⟨l, hl, rfl⟩ := List.mem_map.mp hp
      have hl := (List.mem_filter.mp hl).1
      rw [(discoverLinks_mem hfound hl).1]
      exact .link hurl hfound hl
  case current =>
    rcases hc.current v hv with hv | ⟨p, hp, hk, rfl, hskip'⟩
    · exact .inl (.tail _ hv)
    rcases List.mem_cons.mp hp with rfl | hp
    · exact .inl (.head _)
    · exact .inr ⟨p, List.mem_append_left _ hp, hk, rfl, hskip'⟩
  case dist =>
    rcases List.mem_append.mp hr with hr | hr
    · exact hc.dist r hr
    · rw [List.mem_singleton.mp hr, hkey]
      exact ⟨k, le_rfl, hdist⟩
  case ordered =>
    refine List.pairwise_append.mpr ⟨hc.ordered, List.pairwise_singleton _ _, fun a ha b hb m n hm hn => ?_⟩
    rw [List.mem_singleton.mp hb, hkey] at hn
    obtain ⟨m', hm', hd⟩ := hc.dist a ha
    rw [hm.unique hd, hn.unique hdist]
    exact hm'
  case next =>
    rcases List.mem_append.mp hr with hr | hr
    · exact (hc.next r hr hd found' hf l hl).imp (.tail _)
        fun h => List.mem_append_left _ (mem_of_mem_cons_succ h)
    rw [List.mem_singleton.mp hr, hkey, hfound] at hf
    cases hf
    exact (Crawl.visited_or_queued hl (discoverLinks_mem hfound hl).1).imp id
      fun h => List.mem_append_right _ (List.mem_map.mpr ⟨l, h, rfl⟩)

/-- Once no URL is queued under `k`, the invariant holds at layer `k + 1`. -/
theorem Layered.advance {lq : List (String × Nat)} (hc : Layered links baseUrl seeds k c lq)
    (hfr : Frontier c) (hk : ∀ p ∈ lq, p.2 ≠ k) : Layered links baseUrl seeds (k + 1) c lq := by
  have upto : ∀ j ≤ k, ∀ v, Chain links baseUrl seeds j v → v ∈ c.visited := by
    intro j hj v hv
    rcases Nat.lt_or_eq_of_le hj with hj | rfl
    · exact hc.below j hj v hv
    · rcases hc.current v hv with hv | ⟨p, hp, hpk, -⟩
      · exact hv
      · exact absurd hpk (hk p hp)
  refine
    { queue_eq := hc.queue_eq
      label := fun p hp => .inl ((hc.label p hp).resolve_left (hk p hp))
      sorted := hc.sorted
      chain := hc.chain
      below := fun j hj => upto j (by omega)
      current := fun v hv => ?current
      dist := fun r hr => ?dist
      ordered := hc.ordered
      next := fun r hr hd => ?next }
  case current =>
    obtain ⟨u, found, hu, hf, hl⟩ := hv.succ_inv
    have hvis : u ∈ c.visited := upto k le_rfl u hu
    rw [hfr.visited_eq, List.mem_reverse, List.mem_map] at hvis
    obtain ⟨r, hr, rfl⟩ := hvis
    obtain ⟨m, hm, hd⟩ := hc.dist r hr
    rcases Nat.lt_or_eq_of_le hm with hm | rfl
    · exact .inl (upto (m + 1) hm _ (.link hd.1 hf hl))
    · obtain ⟨hnorm, hskip, -⟩ := discoverLinks_mem hf hl
      exact (hc.next r hr hd found hf _ hl).imp_right fun h => ⟨(_, _), h, rfl, hnorm, hskip⟩
  case dist =>
    obtain ⟨m, hm, hd⟩ := hc.dist r hr
    exact ⟨m, by omega, hd⟩
  case next =>
    obtain ⟨m, hm, hd'⟩ := hc.dist r hr
    have := hd.unique hd'
    omega

/-- The layer can be taken to be the head's label: a head labelled `k + 1` means no label
`k` is left. -/
theorem Layered.head_layer {ℓ : Nat} (hc : Layered links baseUrl seeds k c ((url, ℓ) :: lrest))
    (hfr : Frontier c) : ∃ k', Layered links baseUrl seeds k' c ((url, k') :: lrest) := by
  rcases hc.label _ (.head _) with hℓ | hℓ <;> dsimp only at hℓ <;> subst hℓ
  · exact ⟨_, hc⟩
  · refine ⟨k + 1, hc.advance hfr fun p hp => ?_⟩
    rcases List.mem_cons.mp hp with rfl | hp
    · exact Nat.succ_ne_self k
    · have := (List.pairwise_cons.mp hc.sorted).1 p hp
      dsimp only at this
      omega

end Layers

section Run

variable {E : Engine} {links : String → List String} {baseUrl : String} {seeds : List String}

/-- An iteration keeps the invariant, at the same layer or after moving to the next. -/
theorem Layered.iterate (hpages : ∀ k, (E.page k).Succeeds) (hsite : E.Serves links) {k : Nat}
    {c c' : Crawl} {lq : List (String × Nat)} (hc : Layered links baseUrl seeds k c lq)
    (hfr : Frontier c) (h : c.iterate E baseUrl none = .ok c') :
    ∃ k' lq', Layered links baseUrl seeds k' c' lq' := by
  cases hq : c.queue with
  | nil => exact ⟨k, lq, iterate_nil hq h ▸ hc⟩
  | cons url rest =>
    have hlq := hc.queue_eq
    rw [hq] at hlq
    obtain _ | ⟨⟨url', ℓ⟩, lrest⟩ := lq
    · cases hlq
    simp only [List.map_cons, List.cons.injEq] at hlq
    obtain ⟨rfl, -⟩ := hlq
    obtain ⟨k, hc⟩ := hc.head_layer hfr
    rcases iterate_cases hq h with ⟨rfl, hdrop⟩ | ⟨hnew, hskip, record, session, found, haudit, hlinks, rfl⟩
    · exact ⟨k, lrest, hc.drop hq hdrop⟩
    · have hkey : record.key = normaliseUrl url' := by rw [AuditRecord.key, auditPage_fullUrl haudit]
      exact ⟨k, _, hc.visit hq hnew hskip hkey (visit_links hpages hsite haudit hlinks)⟩

theorem Reachable.layered (hpages : ∀ k, (E.page k).Succeeds) (hsite : E.Serves links) {c : Crawl}
    (hc : Reachable E baseUrl none (.init seeds) c) : ∃ k lq, Layered links baseUrl seeds k c lq := by
  induction hc with
  | init => exact ⟨0, _, .init⟩
  | iterate hc _ h ih =>
    obtain ⟨k, lq, hl⟩ := ih
    exact hl.iterate hpages hsite hc.frontier h

end Run

/-- A crawl without a comparison base, on a site whose pages' links depend on their
normalised URL and where every engine call returns, returns records whose URLs some chain
of discovered links reaches from a seed, in order of the length of the shortest such
chain. -/
theorem crawl_breadth_first {E : Engine} {links : String → List String} {baseUrl : String}
    {drush : Option Drush} {fuel : Nat} {results : List AuditRecord}
    (hpages : ∀ k, (E.page k).Succeeds) (hsite : E.Serves links)
    (h : crawl E baseUrl none drush fuel = some (.ok results)) :
    (∀ r ∈ results, ∃ m, Dist links (normaliseUrl baseUrl) (seedQueue baseUrl drush) m
        (normaliseUrl r.fullUrl)) ∧
      results.Pairwise fun a b => ∀ m n,
        Dist links (normaliseUrl baseUrl) (seedQueue baseUrl drush) m (normaliseUrl a.fullUrl) →
        Dist links (normaliseUrl baseUrl) (seedQueue baseUrl drush) n (normaliseUrl b.fullUrl) → m ≤ n := by
  obtain ⟨c, hc, -, rfl⟩ := crawl_returns h
  obtain ⟨k, lq, hl⟩ := hc.layered hpages hsite
  exact ⟨fun r hr => (hl.dist r hr).imp fun _ h => h.2, hl.ordered⟩

/-- The crawl of `treeSite` returns its four records in order of distance. -/
theorem treeSite_breadth_first :
    ∃ results, crawl (.ofSite fun u => treeSite (normaliseUrl u)) "https://a.test" none none 10 =
        some (.ok results) ∧
      results.map AuditRecord.fullUrl =
        ["https://a.test/", "https://a.test/about", "https://a.test/blog", "https://a.test/team"] ∧
      results.Pairwise fun a b => ∀ m n,
        Dist treeSite (normaliseUrl "https://a.test") (seedQueue "https://a.test" none) m
          (normaliseUrl a.fullUrl) →
        Dist treeSite (normaliseUrl "https://a.test") (seedQueue "https://a.test" none) n
          (normaliseUrl b.fullUrl) → m ≤ n := by
  obtain ⟨results, h, hurls⟩ := treeSite_crawl
  exact ⟨results, h, hurls,
    (crawl_breadth_first (fun _ => PageEngine.quiet_succeeds) (Engine.ofSite_serves _) h).2⟩

end SiteAuditor
