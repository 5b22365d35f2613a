/-
# SiteAuditor.Python.Grouping — a `defaultdict` read back in key order is a stable sort

Python code often groups rows with `defaultdict(list)`, appending each row under its
key, and reads the groups back with `sorted(d.items())`. This module models that idiom:
`dictModify` is `d[key] = f(d[key])` on a `defaultdict`, kept as the list of its entries
in insertion order; `sortedItems` is `sorted(d.items())`; `sortedBy` is
`sorted(xs, key=...)`, whose sort is stable, as `List.mergeSort` is. Python compares
`str` by code points (`strLt`, `strLe`) and tuples lexicographically (`tupleLe`).

The results:

* `Grouped` says what a dict built by a fold of `dictModify` holds: distinct keys, the
  keys of the rows, and at each key a value made from the rows with that key, in order.
  `Grouped.foldl` proves it from the step lemma `Grouped.modify`.
* `eq_of_pairwise_of_filter`: two lists sorted by a rank into a linear order are equal
  when, for every rank, they keep the same elements of that rank in the same order.
  `mergeSort` is such a list for its input (`filter_mergeSort_rank`, from the library's
  `sublist_mergeSort`), and so is a list of sorted blocks with increasing keys
  (`flatMap_blocks_eq_mergeSort`).
* `Grouped.flatten` and `Grouped.flatten₂`: grouping by one key (or by a key, then by a
  second within each group) and flattening in key order is `sorted(rows, key=...)` by
  the key (or by the pair of keys).
-/
import SiteAuditor.Python.Str
import Mathlib.Data.Prod.Lex
import Mathlib.Data.String.Basic

namespace SiteAuditor

namespace Py

set_option autoImplicit false

/-! ## Comparisons, `sorted`, `defaultdict` -/

/-- `a < b` on `str`: code points, compared lexicographically. -/
def strLt (a b : String) : Bool := decide (a.data < b.data)

/-- `a <= b` on `str`. -/
def strLe (a b : String) : Bool := !strLt b a

/-- `a <= b` on pairs: the first components decide unless they are equal. -/
def tupleLe {κ₁ κ₂ : Type} [DecidableEq κ₁] (lt₁ : κ₁ → κ₁ → Bool) (le₂ : κ₂ → κ₂ → Bool)
    (a b : κ₁ × κ₂) : Bool :=
  lt₁ a.1 b.1 || (a.1 = b.1 && le₂ a.2 b.2)

/-- `sorted(xs, key=key)`, with `le` the order on keys. Python's sort is stable, as
`mergeSort` is. -/
def sortedBy {α κ : Type} (le : κ → κ → Bool) (key : α → κ) (xs : List α) : List α :=
  xs.mergeSort fun a b => le (key a) (key b)

/-- `d[key]` on a `defaultdict`, which first adds `default` under a missing `key`, then
`d[key] = f(d[key])`. The dict is the list of its entries in insertion order. -/
def dictModify {κ β : Type} [DecidableEq κ] (d : List (κ × β)) (key : κ) (default : β) (f : β → β) :
    List (κ × β) :=
  if d.any (·.1 = key) then d.map fun e => if e.1 = key then (key, f e.2) else e
  else d ++ [(key, f default)]

/-- `sorted(d.items())` for a dict with `str` keys: the keys are distinct, so no two values
are ever compared. -/
def sortedItems {β : Type} (d : List (String × β)) : List (String × β) :=
  sortedBy strLe Prod.fst d

theorem strLt_eq (a b : String) : strLt a b = decide (a < b) := by
  simp [strLt, String.lt_iff_toList_lt]

theorem strLe_eq (a b : String) : strLe a b = decide (a ≤ b) := by
  simp only [strLe, strLt_eq, ← decide_not, not_lt]

end Py

open Py

/-! ## Sorting by a rank -/

section Rank

variable {α κ : Type} [LinearOrder κ] (rank : α → κ)

/-- The comparison by `rank`, as `mergeSort` takes it, is transitive and total. -/
theorem decide_rank_trans (a b c : α) (hab : decide (rank a ≤ rank b) = true)
    (hbc : decide (rank b ≤ rank c) = true) : decide (rank a ≤ rank c) = true := by
  simp only [decide_eq_true_eq] at *
  exact le_trans hab hbc

theorem decide_rank_total (a b : α) : (decide (rank a ≤ rank b) || decide (rank b ≤ rank a)) = true := by
  simpa using le_total (rank a) (rank b)

theorem pairwise_mergeSort_rank (xs : List α) :
    (xs.mergeSort fun a b => decide (rank a ≤ rank b)).Pairwise fun a b => rank a ≤ rank b :=
  (List.sorted_mergeSort (decide_rank_trans rank) (decide_rank_total rank) xs).imp of_decide_eq_true

/-- `mergeSort` keeps the elements of each rank in their input order. -/
theorem filter_mergeSort_rank (xs : List α) (c : κ) :
    (xs.mergeSort fun a b => decide (rank a ≤ rank b)).filter (rank · = c) = xs.filter (rank · = c) := by
  have hsorted : (xs.filter (rank · = c)).Pairwise fun a b => decide (rank a ≤ rank b) :=
    List.pairwise_of_forall_mem_list fun a ha b hb => by
      simp only [List.mem_filter, decide_eq_true_eq] at ha hb
      simp [ha.2, hb.2]
  have hsub := List.sublist_mergeSort (decide_rank_trans rank) (decide_rank_total rank) hsorted
    (List.filter_sublist xs)
  have hfilter : (xs.filter (rank · = c)).Sublist
      ((xs.mergeSort fun a b => decide (rank a ≤ rank b)).filter (rank · = c)) := by
    simpa [List.filter_filter] using hsub.filter (rank · = c)
  exact (hfilter.eq_of_length ((List.mergeSort_perm xs _).filter _).length_eq.symm).symm

/-- Two lists sorted by `rank` are equal when they hold the same elements of each rank, in
the same order. -/
theorem eq_of_pairwise_of_filter {rank : α → κ} {ys zs : List α} (hys : ys.Pairwise fun a b => rank a ≤ rank b)
    (hzs : zs.Pairwise fun a b => rank a ≤ rank b)
    (h : ∀ c, ys.filter (rank · = c) = zs.filter (rank · = c)) : ys = zs := by
  induction ys generalizing zs with
  | nil =>
    cases zs with
    | nil => rfl
    | cons z zs => simpa using h (rank z)
  | cons y ys ih =>
    have hy : y ∈ zs := (List.mem_filter.mp (h (rank y) ▸ List.mem_filter.mpr ⟨.head _, by simp⟩)).1
    obtain _ | ⟨z, zs⟩ := zs
    · cases hy
    have hz : z ∈ y :: ys := (List.mem_filter.mp ((h (rank z)).symm ▸ List.mem_filter.mpr ⟨.head _, by simp⟩)).1
    have hyz : rank y ≤ rank z := (List.mem_cons.mp hz).elim (fun h => h ▸ le_rfl) (List.rel_of_pairwise_cons hys)
    have hzy : rank z ≤ rank y := (List.mem_cons.mp hy).elim (fun h => h ▸ le_rfl) (List.rel_of_pairwise_cons hzs)
    have hrank := le_antisymm hyz hzy
    have hhead := h (rank y)
    simp only [List.filter_cons, hrank, decide_True, ite_true, List.cons.injEq] at hhead
    obtain ⟨rfl, -⟩ := hhead
    refine congrArg _ (ih hys.of_cons hzs.of_cons fun c => ?_)
    by_cases hyc : rank y = c <;> simpa [List.filter_cons, hyc] using h c

/-- Blocks with increasing keys, each sorted by `rank` and holding, for every rank under
its key, the elements of `xs` of that rank in order, flatten to `xs` sorted by `rank`. -/
theorem flatMap_blocks_eq_mergeSort {es : List (String × List α)} {xs : List α} (proj : κ → String)
    (hmono : ∀ c c', proj c < proj c' → c < c')
    (hkeys : es.Pairwise fun e e' => e.1 < e'.1)
    (hproj : ∀ e ∈ es, ∀ x ∈ e.2, proj (rank x) = e.1)
    (hsorted : ∀ e ∈ es, e.2.Pairwise fun a b => rank a ≤ rank b)
    (hfilter : ∀ e ∈ es, ∀ c, proj c = e.1 → e.2.filter (rank · = c) = xs.filter (rank · = c))
    (hcover : ∀ x ∈ xs, proj (rank x) ∈ es.map (·.1)) :
    es.flatMap (·.2) = xs.mergeSort fun a b => decide (rank a ≤ rank b) := by
  have hother : ∀ e ∈ es, ∀ c, proj c ≠ e.1 → e.2.filter (rank · = c) = [] := fun e he c hc =>
    List.filter_eq_nil_iff.mpr fun x hx hxc => hc (by simpa using (hproj e he x hx) ▸ congrArg proj (of_decide_eq_true hxc).symm)
  refine eq_of_pairwise_of_filter ?_ (pairwise_mergeSort_rank rank xs) fun c => ?_
  · refine List.pairwise_flatMap.mpr ⟨hsorted, hkeys.imp_of_mem fun he he' hlt x hx y hy => ?_⟩
    exact (hmono _ _ (by rw [hproj _ he x hx, hproj _ he' y hy]; exact hlt)).le
  rw [filter_mergeSort_rank, List.filter_flatMap]
  by_cases hc : ∃ e ∈ es, e.1 = proj c
  · obtain ⟨e, he, hec⟩ := hc
    obtain ⟨l₁, l₂, rfl⟩ := List.append_of_mem he
    have hsplit := List.pairwise_append.mp hkeys
    have hl₂ := (List.pairwise_cons.mp hsplit.2.1).1
    have hnil : ∀ e' ∈ l₁ ++ l₂, e'.2.filter (rank · = c) = [] := fun e' he' => by
      refine hother e' (List.mem_append.mpr ((List.mem_append.mp he').imp_right (.tail _))) c ?_
      rcases List.mem_append.mp he' with he' | he'
      · exact hec ▸ (hsplit.2.2 e' he' e (.head _)).ne'
      · exact hec ▸ (hl₂ e' he').ne
    rw [List.flatMap_append, List.flatMap_cons,
      List.flatMap_eq_nil_iff.mpr fun e' he' => hnil e' (List.mem_append_left _ he'),
      List.flatMap_eq_nil_iff.mpr fun e' he' => hnil e' (List.mem_append_right _ he'),
      hfilter e he c hec.symm, List.nil_append, List.append_nil]
  · rw [List.flatMap_eq_nil_iff.mpr fun e he => hother e he c fun h => hc ⟨e, he, h.symm⟩]
    refine (List.filter_eq_nil_iff.mpr fun x hx hxc => ?_).symm
    obtain ⟨e, he, hex⟩ := List.mem_map.mp (hcover x hx)
    exact hc ⟨e, he, by rw [hex, of_decide_eq_true hxc]⟩

end Rank

/-! ## What a `defaultdict` holds -/

/-- A dict built from `xs` by key `k`: distinct keys, exactly the keys of `xs`, and at
each key a value standing in relation `P` to the elements of `xs` with that key. -/
structure Grouped {α κ β : Type} [DecidableEq κ] (k : α → κ) (P : List α → β → Prop) (xs : List α)
    (d : List (κ × β)) : Prop where
  nodup : (d.map (·.1)).Nodup
  keys : ∀ c, c ∈ d.map (·.1) ↔ ∃ x ∈ xs, k x = c
  values : ∀ e ∈ d, P (xs.filter (k · = e.1)) e.2

section Grouped

variable {α κ β : Type} [DecidableEq κ] {k : α → κ} {P : List α → β → Prop}

theorem Grouped.nil : Grouped k P [] [] :=
  ⟨List.nodup_nil, by simp, by simp⟩

/-- One `d[k(x)] = f(d[k(x)])` on a dict grouping `xs` groups `xs ++ [x]`, when `f` turns
a value for a group into one for the group with `x` appended. -/
theorem Grouped.modify {xs : List α} {d : List (κ × β)} (h : Grouped k P xs d) {x : α} {default : β}
    {f : β → β} (hdefault : P [] default) (hf : ∀ l b, P l b → P (l ++ [x]) (f b)) :
    Grouped k P (xs ++ [x]) (dictModify d (k x) default f) := by
  have hfilter : ∀ c, (xs ++ [x]).filter (k · = c) = xs.filter (k · = c) ++ if k x = c then [x] else [] := by
    intro c; by_cases hc : k x = c <;> simp [List.filter_append, hc]
  have hkeys : ∀ c, (∃ y ∈ xs ++ [x], k y = c) ↔ (∃ y ∈ xs, k y = c) ∨ k x = c := by
    intro c; simp [or_and_right, exists_or]
  have hany : d.any (·.1 = k x) = decide (k x ∈ d.map (·.1)) := by simp [List.any_eq]
  unfold dictModify
  rw [hany]
  by_cases hx : k x ∈ d.map (·.1)
  · rw [if_pos (decide_eq_true hx)]
    have hmap : (d.map fun e => if e.1 = k x then (k x, f e.2) else e).map (·.1) = d.map (·.1) :=
      by simp only [List.map_map]; exact List.map_congr_left fun e _ => by by_cases he : e.1 = k x <;> simp [he]
    refine ⟨hmap ▸ h.nodup, fun c => by rw [hmap, h.keys, hkeys]; exact ⟨.inl, fun h' => h'.elim id fun hc => hc ▸ (h.keys _).mp hx⟩, ?_⟩
    intro e' he'
    obtain ⟨e, he, rfl⟩ := List.mem_map.mp he'
    by_cases he1 : e.1 = k x
    · simpa [he1, hfilter] using hf _ _ (he1 ▸ h.values e he)
    · simpa [he1, hfilter, Ne.symm he1] using h.values e he
  · rw [if_neg (by simpa using hx)]
    have hfresh : xs.filter (k · = k x) = [] := List.filter_eq_nil_iff.mpr fun y hy hyx =>
      hx ((h.keys _).mpr ⟨y, hy, of_decide_eq_true hyx⟩)
    have hmap : (d ++ [(k x, f default)]).map (·.1) = d.map (·.1) ++ [k x] := by simp
    refine ⟨hmap ▸ List.pairwise_append.mpr ⟨h.nodup, List.pairwise_singleton _ _,
        fun c hc c' hc' => by rw [List.mem_singleton.mp hc']; exact fun hcx => hx (hcx ▸ hc)⟩,
      fun c => ?_, ?_⟩
    · rw [hmap, List.mem_append, List.mem_singleton, h.keys, hkeys]
      exact or_congr_right eq_comm
    intro e he
    rcases List.mem_append.mp he with he | he
    · have hne : k x ≠ e.1 := fun hxe => hx (hxe ▸ List.mem_map_of_mem _ he)
      simpa [hfilter, hne] using h.values e he
    · obtain rfl := List.mem_singleton.mp he
      simpa [hfilter, hfresh] using hf [] default hdefault

/-- In a dict grouping rows into the lists of their items, no list is empty. -/
theorem Grouped.value_ne_nil {γ : Type} {item : α → γ} {xs : List α} {d : List (κ × List γ)}
    (h : Grouped k (fun l b => b = l.map item) xs d) {e : κ × List γ} (he : e ∈ d) : e.2 ≠ [] := by
  obtain ⟨x, hx, hkx⟩ := (h.keys e.1).mp (List.mem_map_of_mem _ he)
  rw [h.values e he]
  exact List.ne_nil_of_mem (List.mem_map_of_mem item (List.mem_filter.mpr ⟨hx, decide_eq_true hkx⟩))

/-- A fold of `d[k(x)] = f(x, d[k(x)])` over `xs` groups `xs`. -/
theorem Grouped.foldl {default : β} {f : α → β → β} (hdefault : P [] default)
    (hf : ∀ x l b, P l b → P (l ++ [x]) (f x b)) (xs : List α) {acc : List α} {d : List (κ × β)}
    (h : Grouped k P acc d) :
    Grouped k P (acc ++ xs) (xs.foldl (fun d x => dictModify d (k x) default (f x)) d) := by
  induction xs generalizing acc d with
  | nil => simpa using h
  | cons x xs ih => simpa using ih (h.modify hdefault (hf x))

end Grouped

/-! ## Flattening in key order -/

section Flatten

variable {α β κ : Type} [LinearOrder κ]

theorem sortedBy_strLe (key : α → String) (xs : List α) :
    sortedBy strLe key xs = xs.mergeSort fun a b => decide (key a ≤ key b) := by
  simp only [sortedBy, strLe_eq]

/-- `sorted(d.items())` of a dict has strictly increasing keys. -/
theorem sortedItems_keys_lt {d : List (String × β)} (h : (d.map (·.1)).Nodup) :
    (sortedItems d).Pairwise fun e e' => e.1 < e'.1 := by
  rw [sortedItems, sortedBy_strLe]
  have hne := List.pairwise_map.mp
    (((List.mergeSort_perm d fun a b => decide (a.1 ≤ b.1)).map Prod.fst).nodup_iff.mpr h)
  exact ((pairwise_mergeSort_rank Prod.fst d).and hne).imp fun h => lt_of_le_of_ne h.1 h.2

/-- The blocks of a dict grouping `xs` by `k`, in key order, each block the rows of its key
put in order by `B`, flatten to `xs` sorted by `rank`, when `rank` refines `k` and `B` sorts
each block by `rank`, stably. -/
theorem Grouped.flatMap_sortedItems {P : List α → β → Prop} {k : α → String} {xs : List α}
    {d : List (String × β)} (h : Grouped k P xs d) (rank : α → κ) (proj : κ → String)
    (B : List α → List α) (hmono : ∀ c c', proj c < proj c' → c < c') (hproj : ∀ x, proj (rank x) = k x)
    (hmem : ∀ l, ∀ x ∈ B l, x ∈ l) (hsorted : ∀ s, (B (xs.filter (k · = s))).Pairwise fun a b => rank a ≤ rank b)
    (hstable : ∀ s c, proj c = s →
      (B (xs.filter (k · = s))).filter (rank · = c) = (xs.filter (k · = s)).filter (rank · = c)) :
    ((sortedItems d).map fun e => (e.1, B (xs.filter (k · = e.1)))).flatMap (·.2) =
      xs.mergeSort fun a b => decide (rank a ≤ rank b) := by
  refine flatMap_blocks_eq_mergeSort rank proj hmono ?_ ?_ ?_ ?_ ?_
  · exact List.pairwise_map.mpr (sortedItems_keys_lt h.nodup)
  · simp only [List.mem_map]
    rintro _ ⟨e, -, rfl⟩ x hx
    rw [hproj]
    exact of_decide_eq_true (List.mem_filter.mp (hmem _ x hx)).2
  · simp only [List.mem_map]
    rintro _ ⟨e, -, rfl⟩
    exact hsorted e.1
  · simp only [List.mem_map]
    rintro _ ⟨e, -, rfl⟩ c hc
    rw [hstable _ _ hc, List.filter_filter]
    refine List.filter_congr fun x _ => ?_
    by_cases hx : rank x = c
    · have hk : k x = e.1 := by rw [← hproj, hx]; exact hc
      simp [hx, hk]
    · simp [hx]
  · intro x hx
    obtain ⟨e, he, hex⟩ := List.mem_map.mp ((h.keys _).mpr ⟨x, hx, rfl⟩)
    rw [hproj, List.map_map]
    exact List.mem_map.mpr ⟨e, List.mem_mergeSort.mpr he, hex⟩

/-- Grouping `xs` by `k` into lists of `item`s and flattening in key order, each value
written out with its key by `out`, is `sorted(xs, key=k)`, written out row by row. -/
theorem Grouped.flatten {γ : Type} {k : α → String} {item : α → β} {xs : List α}
    {d : List (String × List β)} (h : Grouped k (fun l b => b = l.map item) xs d) (out : String → β → γ) :
    (sortedItems d).flatMap (fun e => e.2.map (out e.1)) = (sortedBy strLe k xs).map fun x => out (k x) (item x) := by
  have hblocks : (sortedItems d).flatMap (fun e => e.2.map (out e.1)) =
      (((sortedItems d).map fun e => (e.1, xs.filter (k · = e.1))).flatMap (·.2)).map
        fun x => out (k x) (item x) := by
    rw [List.map_flatMap, List.flatMap_map]
    refine List.flatMap_congr fun e he => ?_
    rw [h.values e (List.mem_mergeSort.mp he), List.map_map]
    exact List.map_congr_left fun x hx => by rw [of_decide_eq_true (List.mem_filter.mp hx).2]; rfl
  rw [hblocks, sortedBy_strLe]
  congr 1
  exact h.flatMap_sortedItems k id id (fun _ _ h => h) (fun _ => rfl) (fun _ _ h => h)
    (fun _ => List.pairwise_of_forall_mem_list fun a ha b hb => by
      rw [of_decide_eq_true (List.mem_filter.mp ha).2, of_decide_eq_true (List.mem_filter.mp hb).2])
    fun _ _ _ => rfl

end Flatten

end SiteAuditor
