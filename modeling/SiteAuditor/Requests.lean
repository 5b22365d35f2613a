/-
# SiteAuditor.Requests — the request accounting of a record

`audit_page`'s response listener runs `request_sizes[response.url] = int(cl) if cl else 0`
for every response whose headers it can read and whose `content-length` `int` accepts.
An insertion-ordered dict keeps one entry per URL, holding the size of that URL's last
response. Right after the navigation the record takes
`request_count = len(request_sizes)` and `total_bytes = sum(request_sizes.values())`, and
no later phase changes either.

`sizeAt` is the dict's lookup. `setSize` changes exactly the entry it writes
(`sizeAt_setSize`) and keeps the keys distinct (`keys_setSize_nodup`). Over the events of
a call, the dict holds, for each URL, the size of the last recorded response, else what
it held before (`Tab.receive_requestSizes`). So a record's request count is the number of
distinct URLs among the navigation's recorded responses, and its byte total is the sum of
their last sizes (`auditPage_requests`). Responses after the navigation count in
neither, and a navigation whose two attempts failed (`navigationFailure`) records zero for
both.
-/
import SiteAuditor.AuditPage
import Mathlib.Algebra.BigOperators.Group.Finset

namespace SiteAuditor

set_option autoImplicit false

/-! ## The dict -/

/-- `request_sizes.get(url)`. -/
def sizeAt : List (String × Int) → String → Option Int
  | [], _ => none
  | entry :: sizes, url => if entry.1 = url then some entry.2 else sizeAt sizes url

@[simp] theorem sizeAt_nil (url : String) : sizeAt [] url = none := rfl

@[simp] theorem sizeAt_cons (entry : String × Int) (sizes : List (String × Int)) (url : String) :
    sizeAt (entry :: sizes) url = if entry.1 = url then some entry.2 else sizeAt sizes url := rfl

theorem sizeAt_isSome (sizes : List (String × Int)) (url : String) :
    (sizeAt sizes url).isSome ↔ url ∈ sizes.map (·.1) := by
  induction sizes with
  | nil => simp
  | cons entry sizes ih =>
    by_cases h : entry.1 = url
    · simp [h]
    · simp [h, ih, Ne.symm h]

theorem sizeAt_append (sizes sizes' : List (String × Int)) (url : String) :
    sizeAt (sizes ++ sizes') url = (sizeAt sizes url).or (sizeAt sizes' url) := by
  induction sizes with
  | nil => rfl
  | cons entry sizes ih => by_cases h : entry.1 = url <;> simp [h, ih]

theorem any_key_eq (sizes : List (String × Int)) (url : String) :
    sizes.any (·.1 = url) = decide (url ∈ sizes.map (·.1)) := by
  simp [List.any_eq, eq_comm]

/-- Overwriting the entry at `url` changes that entry only, and only if it is there. -/
theorem sizeAt_map_overwrite (sizes : List (String × Int)) (url url' : String) (size : Int) :
    sizeAt (sizes.map fun entry => if entry.1 = url then (url, size) else entry) url' =
      if url' = url then (sizeAt sizes url').map fun _ => size else sizeAt sizes url' := by
  induction sizes with
  | nil => simp
  | cons entry sizes ih =>
    by_cases he : entry.1 = url <;> by_cases h' : url' = url
    · simp [he, h']
    · simp [he, h', ih, Ne.symm h']
    · subst h'; simp [he, ih]
    · simp only [List.map_cons, he, h', ite_false, sizeAt_cons, ih]

/-- `request_sizes[url] = size` changes exactly the entry at `url`. -/
theorem sizeAt_setSize (sizes : List (String × Int)) (url url' : String) (size : Int) :
    sizeAt (setSize sizes url size) url' = if url' = url then some size else sizeAt sizes url' := by
  unfold setSize
  rw [any_key_eq]
  by_cases hurl : url ∈ sizes.map (·.1)
  · obtain ⟨size', hsize'⟩ := Option.isSome_iff_exists.mp ((sizeAt_isSome sizes url).mpr hurl)
    simp only [hurl, decide_True, ite_true, sizeAt_map_overwrite]
    by_cases h' : url' = url
    · simp [h', hsize']
    · simp [h']
  · have hnone : sizeAt sizes url = none := by
      simpa [Option.not_isSome_iff_eq_none] using (sizeAt_isSome sizes url).not.mpr hurl
    by_cases h' : url' = url
    · simp [h', sizeAt_append, hnone, hurl]
    · simp [sizeAt_append, hurl, h', Ne.symm h']

theorem keys_setSize (sizes : List (String × Int)) (url : String) (size : Int) :
    (setSize sizes url size).map (·.1) =
      if url ∈ sizes.map (·.1) then sizes.map (·.1) else sizes.map (·.1) ++ [url] := by
  unfold setSize
  rw [any_key_eq]
  by_cases hurl : url ∈ sizes.map (·.1)
  · simp only [hurl, decide_True, ite_true, List.map_map]
    apply List.map_congr_left
    intro entry _
    by_cases h : entry.1 = url <;> simp [h]
  · simp [hurl]

/-- The dict never holds a URL twice. -/
theorem keys_setSize_nodup {sizes : List (String × Int)} (url : String) (size : Int)
    (h : (sizes.map (·.1)).Nodup) : ((setSize sizes url size).map (·.1)).Nodup := by
  rw [keys_setSize]
  split
  · exact h
  · rename_i hurl
    exact List.nodup_append.mpr ⟨h, List.nodup_singleton _, List.disjoint_singleton.mpr hurl⟩

/-- `sum(request_sizes.values())` over a dict with distinct keys: the sum, over its URLs,
of the size each holds. -/
theorem sum_sizes {sizes : List (String × Int)} (h : (sizes.map (·.1)).Nodup) :
    (sizes.map (·.2)).foldr (· + ·) 0 = ∑ url ∈ (sizes.map (·.1)).toFinset, (sizeAt sizes url).getD 0 := by
  induction sizes with
  | nil => rfl
  | cons entry sizes ih =>
    obtain ⟨hfresh, hrest⟩ := List.nodup_cons.mp h
    have htail : ∀ url ∈ (sizes.map (·.1)).toFinset,
        (sizeAt (entry :: sizes) url).getD 0 = (sizeAt sizes url).getD 0 := by
      intro url hurl
      have hne : entry.1 ≠ url := by rintro rfl; exact hfresh (List.mem_toFinset.mp hurl)
      simp [hne]
    simp only [List.map_cons, List.foldr_cons, List.toFinset_cons]
    rw [Finset.sum_insert (by simpa using hfresh), Finset.sum_congr rfl htail, ← ih hrest]
    simp

/-! ## The response listener -/

/-- The entry the response handler writes for an event: `none` when the event is no
response, when `response.all_headers()` raised, or when `int` raised. -/
def Event.recorded : Event → Option (String × Int)
  | .response url (some cl) => (contentLengthSize cl).map (url, ·)
  | _ => none

theorem Tab.deliver_requestSizes (t : Tab) (event : Event) :
    (t.deliver event).requestSizes =
      (event.recorded.map fun entry => setSize t.requestSizes entry.1 entry.2).getD t.requestSizes := by
  cases event with
  | response url headers =>
    cases headers with
    | none => rfl
    | some cl => simp only [Tab.deliver, Event.recorded]; cases contentLengthSize cl <;> rfl
  | _ => rfl

/-- One event: the dict keeps distinct keys, and holds the event's entry, if any, over
what it held. -/
theorem Tab.deliver_sizes {t : Tab} (event : Event) (h : (t.requestSizes.map (·.1)).Nodup) :
    ((t.deliver event).requestSizes.map (·.1)).Nodup ∧
      ∀ url, sizeAt (t.deliver event).requestSizes url =
        (sizeAt event.recorded.toList url).or (sizeAt t.requestSizes url) := by
  rw [Tab.deliver_requestSizes]
  cases event.recorded with
  | none => exact ⟨h, fun _ => rfl⟩
  | some entry =>
    refine ⟨keys_setSize_nodup _ _ h, fun url => ?_⟩
    by_cases he : entry.1 = url
    · simp [sizeAt_setSize, he]
    · simp [sizeAt_setSize, he, Ne.symm he]

/-- Over the events of a call, the dict holds for each URL the size of the last response
recorded for it, else what it held before. -/
theorem Tab.receive_requestSizes (t : Tab) (events : List Event) (h : (t.requestSizes.map (·.1)).Nodup) :
    ((t.receive events).requestSizes.map (·.1)).Nodup ∧
      ∀ url, sizeAt (t.receive events).requestSizes url =
        (sizeAt (events.filterMap Event.recorded).reverse url).or (sizeAt t.requestSizes url) := by
  induction events generalizing t with
  | nil => exact ⟨h, fun _ => rfl⟩
  | cons event events ih =>
    obtain ⟨hnodup, hsize⟩ := Tab.deliver_sizes event h
    obtain ⟨hnodup', hsize'⟩ := ih _ hnodup
    refine ⟨hnodup', fun url => ?_⟩
    have hrev : ((event :: events).filterMap Event.recorded).reverse =
        (events.filterMap Event.recorded).reverse ++ event.recorded.toList := by
      cases hr : event.recorded <;> simp [List.filterMap_cons, hr]
    rw [hrev, sizeAt_append, Option.or_assoc, ← hsize url]
    exact hsize' url

/-- The dict after a call depends on the tab only through the dict before it. -/
theorem Tab.receive_requestSizes_eq {t t' : Tab} (h : t.requestSizes = t'.requestSizes) (events : List Event) :
    (t.receive events).requestSizes = (t'.receive events).requestSizes := by
  induction events generalizing t t' with
  | nil => exact h
  | cons event events ih =>
    exact ih (by rw [Tab.deliver_requestSizes, Tab.deliver_requestSizes, h])

theorem Tab.receive_append (t : Tab) (events events' : List Event) :
    t.receive (events ++ events') = (t.receive events).receive events' :=
  List.foldl_append _ _ _ _

@[simp] theorem Tab.goto_requestSizes {α : Type} (t : Tab) (url : String) (r : Reply α) :
    (t.goto url r).requestSizes = (t.receive r.events).requestSizes := by
  unfold Tab.goto; split <;> rfl

/-- From an empty dict, `len(request_sizes)` after a call is the number of distinct URLs
the call's responses recorded, and `sum(request_sizes.values())` the sum of the size of
each one's last response. -/
theorem Tab.receive_accounting {t : Tab} (ht : t.requestSizes = []) (events : List Event) :
    (t.receive events).requestSizes.length = ((events.filterMap Event.recorded).map (·.1)).toFinset.card ∧
      ((t.receive events).requestSizes.map (·.2)).foldr (· + ·) 0 =
        ∑ u ∈ ((events.filterMap Event.recorded).map (·.1)).toFinset,
          (sizeAt (events.filterMap Event.recorded).reverse u).getD 0 := by
  obtain ⟨hnodup, hsize⟩ := Tab.receive_requestSizes t events (by simp [ht])
  simp only [ht, sizeAt_nil, Option.or_none] at hsize
  have hkeys : ((t.receive events).requestSizes.map (·.1)).toFinset =
      ((events.filterMap Event.recorded).map (·.1)).toFinset := by
    ext u
    rw [List.mem_toFinset, List.mem_toFinset, ← sizeAt_isSome, hsize, sizeAt_isSome, List.map_reverse,
      List.mem_reverse]
  refine ⟨?_, ?_⟩
  · rw [← hkeys, List.toFinset_card_of_nodup hnodup, List.length_map]
  · rw [sum_sizes hnodup, hkeys]
    exact Finset.sum_congr rfl fun u _ => by rw [hsize]

/-! ## The record -/

/-- The entries the response listener writes during the navigation, in order of arrival:
the strict attempt's responses, then, after a timeout, the fallback's. -/
def PageEngine.navigationResponses (e : PageEngine) : List (String × Int) :=
  (e.goto.events ++ e.retryEvents).filterMap Event.recorded

theorem navigate_loaded_requestSizes {e : PageEngine} {url : String} {t tab : Tab}
    {response : Option Response} (h : navigate e url t = .loaded tab response) :
    tab.requestSizes = (t.receive (e.goto.events ++ e.retryEvents)).requestSizes := by
  unfold navigate at h
  split at h
  · cases h; rename_i heq
    simp [PageEngine.retryEvents, heq]
  · split at h <;> cases h
    rename_i heq _ _
    rw [Tab.goto_requestSizes, Tab.receive_append]
    simp only [PageEngine.retryEvents, heq]
    exact Tab.receive_requestSizes_eq (Tab.goto_requestSizes ..) _
  · cases h

/-- The request accounting of every record `audit_page` returns. When both navigation
attempts failed, no load time and no requests. Otherwise `request_count` is the number of
distinct URLs among the responses recorded during the navigation, and `total_bytes` the
sum, over those URLs, of the size of each one's last response. -/
theorem auditPage_requests {e : PageEngine} {url baseUrl : String} {compareBase : Option String}
    {s s' : Session} {r : AuditRecord} (h : auditPage e url baseUrl compareBase s = .ok (r, s')) :
    match e.navigationFailure with
    | some _ => r.loadTimeMs = none ∧ r.requestCount = 0 ∧ r.totalBytes = 0
    | none =>
      r.loadTimeMs = some e.loadMs ∧
        r.requestCount = (e.navigationResponses.map (·.1)).toFinset.card ∧
        r.totalBytes = ∑ u ∈ (e.navigationResponses.map (·.1)).toFinset,
          (sizeAt e.navigationResponses.reverse u).getD 0 := by
  obtain ⟨path, -, ⟨tab, err, hnav, -, rfl⟩ | ⟨tab, response, a', hnav, hl, rfl, -⟩⟩ := auditPage_cases h
  · rw [(navigate_failed hnav).2]
    exact ⟨rfl, rfl, rfl⟩
  obtain ⟨-, hload, -, -, -, hcount, hbytes⟩ := auditLoaded_ok hl
  obtain ⟨hlen, hsum⟩ := Tab.receive_accounting (t := ⟨s, [], []⟩) rfl (e.goto.events ++ e.retryEvents)
  rw [← navigate_loaded_requestSizes hnav] at hlen hsum
  rw [(navigate_loaded hnav).2.2.2]
  exact ⟨hload, hcount.trans hlen, hbytes.trans hsum⟩

/-- The quiet engine, except that during the navigation `/a` answers twice (100 bytes,
then 40), `/b` answers without a `content-length`, `/c` with one `int` rejects, and
`/d` with headers that cannot be read; the TTFB call then receives `/e`. -/
def PageEngine.resentResponses : PageEngine :=
  { PageEngine.quiet with
    goto := ⟨[.response "https://a.test/a" (some (some "100")), .response "https://a.test/b" (some none),
      .response "https://a.test/a" (some (some "40")), .response "https://a.test/c" (some (some "x")),
      .response "https://a.test/d" none], .ok (some ⟨200⟩)⟩
    ttfb := ⟨[.response "https://a.test/e" (some (some "500"))], .ok none⟩ }

/-- Two URLs are counted, `/a` with its last size and `/b` with 0: 40 bytes. -/
theorem auditPage_requests_of_resent :
    ∃ r s', auditPage .resentResponses "https://a.test/" "https://a.test" none .blank = .ok (r, s') ∧
      r.requestCount = 2 ∧ r.totalBytes = 40 ∧
      match PageEngine.resentResponses.navigationFailure with
      | some _ => r.loadTimeMs = none ∧ r.requestCount = 0 ∧ r.totalBytes = 0
      | none =>
        r.loadTimeMs = some PageEngine.resentResponses.loadMs ∧
          r.requestCount = (PageEngine.resentResponses.navigationResponses.map (·.1)).toFinset.card ∧
          r.totalBytes = ∑ u ∈ (PageEngine.resentResponses.navigationResponses.map (·.1)).toFinset,
            (sizeAt PageEngine.resentResponses.navigationResponses.reverse u).getD 0 := by
  have h : auditPage .resentResponses "https://a.test/" "https://a.test" none .blank = .ok (_, _) := rfl
  exact ⟨_, _, h, by decide, by decide, auditPage_requests h⟩

end SiteAuditor
