import Mathlib.Data.List.Induction
import Mathlib.Data.List.Nodup
import ReadLater.Proofs.LeafOrder
import ReadLater.Proofs.Leaves
import ReadLater.Proofs.Requests

/-!
# Rank directives and sort directives

The order of a query. Its free text adds rank columns, and a directive for each, which goes in front
of those of the `sort:` tags. Of all directives with one key only the first one in reading order is
kept, so that a rank directive is lost to a `sort:` tag that names its column too early.
-/

namespace ReadLater

section FirstPerKey

variable {α : Type} (key : α → String)

/-- Appends an element, unless there is one with its key. -/
def keepNew (kept : List α) (a : α) : List α :=
  if key a ∈ kept.map key then kept else kept ++ [a]

section KeepNew

variable {key} {kept : List α} {a : α}

lemma keepNew_of_mem (h : key a ∈ kept.map key) : keepNew key kept a = kept :=
  if_pos h

lemma keepNew_of_not_mem (h : key a ∉ kept.map key) : keepNew key kept a = kept ++ [a] :=
  if_neg h

end KeepNew

/-- The elements with a key that no element before them has. -/
def firstPerKey (as : List α) : List α :=
  as.foldl (keepNew key) []

lemma firstPerKey_concat (as : List α) (a : α) :
    firstPerKey key (as ++ [a]) = keepNew key (firstPerKey key as) a := by
  rw [firstPerKey, List.foldl_append]
  rfl

lemma mem_map_keepNew {kept : List α} {a : α} {k : String} :
    k ∈ (keepNew key kept a).map key ↔ k ∈ kept.map key ∨ k = key a := by
  unfold keepNew
  split_ifs with h
  · exact ⟨.inl, fun hk => hk.elim id fun heq => heq ▸ h⟩
  · simp

lemma nodup_keepNew {kept : List α} (h : (kept.map key).Nodup) (a : α) :
    ((keepNew key kept a).map key).Nodup := by
  unfold keepNew
  split_ifs with hmem
  · exact h
  · rw [List.map_append, List.map_singleton, (List.perm_append_singleton _ _).nodup_iff]
    exact List.nodup_cons.mpr ⟨hmem, h⟩

lemma mem_map_firstPerKey {as : List α} {k : String} :
    k ∈ (firstPerKey key as).map key ↔ k ∈ as.map key := by
  induction as using List.reverseRecOn with
  | nil => rfl
  | append_singleton as a ih => simp [firstPerKey_concat, mem_map_keepNew, ih]

lemma firstPerKey_subset (as : List α) : firstPerKey key as ⊆ as := by
  induction as using List.reverseRecOn with
  | nil => exact List.Subset.refl _
  | append_singleton as a ih =>
    rw [firstPerKey_concat, keepNew]
    split_ifs
    · exact List.subset_append_of_subset_left _ ih
    · exact List.append_subset.mpr
        ⟨List.subset_append_of_subset_left _ ih, List.subset_append_right _ _⟩

lemma nodup_firstPerKey (as : List α) : ((firstPerKey key as).map key).Nodup := by
  induction as using List.reverseRecOn with
  | nil => exact .nil
  | append_singleton as a ih =>
    rw [firstPerKey_concat]
    exact nodup_keepNew key ih a

lemma firstPerKey_concat_of_mem {as : List α} {a : α} (h : key a ∈ as.map key) :
    firstPerKey key (as ++ [a]) = firstPerKey key as := by
  rw [firstPerKey_concat, keepNew_of_mem ((mem_map_firstPerKey key).mpr h)]

lemma firstPerKey_concat_of_not_mem {as : List α} {a : α} (h : key a ∉ as.map key) :
    firstPerKey key (as ++ [a]) = firstPerKey key as ++ [a] := by
  rw [firstPerKey_concat, keepNew_of_not_mem (mt (mem_map_firstPerKey key).mp h)]

lemma firstPerKey_of_nodup {as : List α} (h : (as.map key).Nodup) : firstPerKey key as = as := by
  induction as using List.reverseRecOn with
  | nil => rfl
  | append_singleton as a ih =>
    rw [List.map_append, List.map_singleton, List.nodup_append] at h
    rw [firstPerKey_concat_of_not_mem key fun hmem => h.2.2 _ hmem _ (by simp) rfl, ih h.1]

lemma firstPerKey_append (as bs : List α) :
    firstPerKey key (as ++ bs) =
      firstPerKey key as ++ firstPerKey key (bs.filter fun b => key b ∉ as.map key) := by
  induction bs using List.reverseRecOn with
  | nil => simp [firstPerKey]
  | append_singleton bs b ih =>
    rw [← List.append_assoc, List.filter_append]
    by_cases hold : key b ∈ as.map key
    · rw [firstPerKey_concat_of_mem key (by simp [hold]), ih,
        List.filter_cons_of_neg (by simpa only [decide_eq_true_eq, not_not] using hold),
        List.filter_nil, List.append_nil]
    · rw [List.filter_cons_of_pos (by simpa only [decide_eq_true_eq] using hold), List.filter_nil]
      by_cases hnew : key b ∈ bs.map key
      · rw [firstPerKey_concat_of_mem key (by simp [hnew]), ih, firstPerKey_concat_of_mem key]
        obtain ⟨c, hc, hkey⟩ := List.mem_map.mp hnew
        exact List.mem_map.mpr ⟨c, List.mem_filter.mpr ⟨hc, by rwa [decide_eq_true_eq, hkey]⟩, hkey⟩
      · have hboth : key b ∉ (as ++ bs).map key := by
          rw [List.map_append, List.mem_append]
          exact not_or.mpr ⟨hold, hnew⟩
        rw [firstPerKey_concat_of_not_mem key hboth, ih, List.append_assoc,
          firstPerKey_concat_of_not_mem key]
        exact fun hmem => hnew (List.map_subset key (List.filter_subset_self _) hmem)

end FirstPerKey

lemma contributionsFrom_orders {options : CompileOptions} {bound : Nat} {ts : List Query.Tag}
    (h : (contributionsFrom options bound ts).length = ts.length) :
    List.Forall₂ (fun t c => c.Orders t) ts (contributionsFrom options bound ts) :=
  (forall₂_contributionsFrom h).imp fun _ _ ⟨_, hc⟩ => Query.Tag.contribution_orders hc

lemma length_ranked {ts : List Query.Tag} {cs : List Contribution}
    (h : List.Forall₂ (fun t c => c.Orders t) ts cs) :
    (cs.filterMap (·.ranked)).length = ts.countP Query.Tag.isSearch := by
  induction h with
  | nil => rfl
  | @cons t c ts cs hc _ ih =>
    have hranked := hc.ranked
    split_ifs at hranked with hsearch
    · obtain ⟨name, text, hname, -⟩ := hranked
      simp [hname, hsearch, ih]
    · simp [hranked, hsearch, ih]

/-- The directive of the rank column with a number. -/
def rankDirective (k : Nat) : SortDirective :=
  ⟨numbered "rank" k, .descending, .last⟩

@[simp] lemma rankDirective_key (k : Nat) : (rankDirective k).key = numbered "rank" k := rfl

lemma rankDirective_key_injective {j k : Nat} (h : (rankDirective j).key = (rankDirective k).key) :
    j = k :=
  (numbered_injective h).2

/-- The directives of tags in reading order, each with whether it ranks. The rank columns are
numbered from `k` on. -/
def directivesFrom : Nat → List Query.Tag → List (SortDirective × Bool)
  | _, [] => []
  | k, t :: ts =>
    if t.isSearch then (rankDirective k, true) :: directivesFrom (k + 1) ts
    else (t.directive?.map (·, false)).toList ++ directivesFrom k ts

section DirectivesFrom

variable {t : Query.Tag} {k : Nat}

lemma directivesFrom_of_isSearch (h : t.isSearch = true) :
    directivesFrom k [t] = [(rankDirective k, true)] := by
  simp [directivesFrom, h]

lemma directivesFrom_of_none (h : t.isSearch = false) (hd : t.directive? = none) :
    directivesFrom k [t] = [] := by
  simp [directivesFrom, h, hd]

lemma directivesFrom_of_some {d : SortDirective} (h : t.isSearch = false)
    (hd : t.directive? = some d) : directivesFrom k [t] = [(d, false)] := by
  simp [directivesFrom, h, hd]

lemma directivesFrom_append (k : Nat) (ts us : List Query.Tag) :
    directivesFrom k (ts ++ us) =
      directivesFrom k ts ++ directivesFrom (k + ts.countP Query.Tag.isSearch) us := by
  induction ts generalizing k with
  | nil => rfl
  | cons t ts ih =>
    rw [List.cons_append, directivesFrom, directivesFrom, ih, ih]
    cases hsearch : t.isSearch with
    | true => simp [hsearch, Nat.add_assoc, Nat.add_comm 1]
    | false => simp [hsearch]

end DirectivesFrom

/-- The directives that rank. -/
def ranking (ds : List (SortDirective × Bool)) : List SortDirective :=
  (ds.filter (·.2)).map (·.1)

/-- The directives that do not rank. -/
def sorting (ds : List (SortDirective × Bool)) : List SortDirective :=
  (ds.filter (!·.2)).map (·.1)

section Directives

variable {ds : List (SortDirective × Bool)} {d : SortDirective}

@[simp] lemma ranking_concat_rank : ranking (ds ++ [(d, true)]) = ranking ds ++ [d] := by
  simp [ranking]

@[simp] lemma ranking_concat_sort : ranking (ds ++ [(d, false)]) = ranking ds := by
  simp [ranking]

@[simp] lemma sorting_concat_rank : sorting (ds ++ [(d, true)]) = sorting ds := by
  simp [sorting]

@[simp] lemma sorting_concat_sort : sorting (ds ++ [(d, false)]) = sorting ds ++ [d] := by
  simp [sorting]

lemma mem_ranking : d ∈ ranking ds ↔ (d, true) ∈ ds := by
  simp [ranking]

lemma perm_ranking_sorting (ds : List (SortDirective × Bool)) :
    (ranking ds ++ sorting ds).Perm (ds.map (·.1)) := by
  rw [ranking, sorting, ← List.map_append]
  exact (List.filter_append_perm _ ds).map _

lemma mem_keys_ranking_sorting {key : String} :
    key ∈ (ranking ds ++ sorting ds).map (·.key) ↔ key ∈ ds.map (·.1.key) := by
  rw [((perm_ranking_sorting ds).map _).mem_iff, List.map_map]
  rfl

end Directives

/-- The order of the accumulator holds the directives, those that rank in front. -/
structure Accumulator.Holds (acc : Accumulator) (kept : List (SortDirective × Bool)) : Prop where
  sort : acc.sort = ranking kept ++ sorting kept
  ranked : acc.ranked = (ranking kept).length

namespace Accumulator

variable {acc : Accumulator} {kept : List (SortDirective × Bool)}

lemma Holds.hasSort_iff (h : acc.Holds kept) (key : String) :
    acc.hasSort key = true ↔ key ∈ kept.map (·.1.key) := by
  rw [← mem_keys_ranking_sorting, ← h.sort]
  simp [hasSort]

lemma Holds.addRank (h : acc.Holds kept) (query : String) :
    (acc.addRank query).Holds (keepNew (·.1.key) kept (rankDirective acc.ranks.length, true)) := by
  have hiff := h.hasSort_iff (rankDirective acc.ranks.length).key
  unfold Accumulator.addRank
  dsimp only
  by_cases hkey : (rankDirective acc.ranks.length).key ∈ kept.map (·.1.key)
  · rw [keepNew_of_mem hkey, if_pos (by simpa using hiff.mpr hkey)]
    exact ⟨h.sort, h.ranked⟩
  · rw [keepNew_of_not_mem hkey, if_neg (by simpa using mt hiff.mp hkey)]
    exact ⟨by simp [h.sort, h.ranked, rankDirective], by simp [h.ranked]⟩

lemma Holds.addSort (h : acc.Holds kept) (d : SortDirective) :
    (acc.addSort d).Holds (keepNew (·.1.key) kept (d, false)) := by
  have hiff := h.hasSort_iff d.key
  unfold Accumulator.addSort
  by_cases hkey : d.key ∈ kept.map (·.1.key)
  · rw [keepNew_of_mem hkey, if_pos (hiff.mpr hkey)]
    exact h
  · rw [keepNew_of_not_mem hkey, if_neg (mt hiff.mp hkey)]
    exact ⟨by simp [h.sort], by simp [h.ranked]⟩

lemma Holds.bind (h : acc.Holds kept) (ps : List Parameter) : (acc.bind ps).Holds kept :=
  ⟨h.sort, h.ranked⟩

lemma Holds.add {ds : List (SortDirective × Bool)} (h : acc.Holds (firstPerKey (·.1.key) ds))
    {t : Query.Tag} {c : Contribution} (hc : c.Orders t) :
    (acc.add false c).Holds
      (firstPerKey (·.1.key) (ds ++ directivesFrom acc.ranks.length [t])) := by
  obtain ⟨hranked, hsort⟩ := hc
  obtain ⟨predicate, parameters, ranked, sort, trash⟩ := c
  dsimp only at hranked hsort
  cases hsearch : t.isSearch with
  | true =>
    rw [if_pos hsearch] at hranked
    obtain ⟨name, text, rfl, -⟩ := hranked
    rw [t.directive?_of_isSearch hsearch] at hsort
    subst hsort
    rw [directivesFrom_of_isSearch hsearch, firstPerKey_concat]
    obtain ⟨hs, hr⟩ := (h.bind parameters).addRank name
    exact ⟨hs, hr⟩
  | false =>
    rw [if_neg (by simp [hsearch])] at hranked
    subst hranked
    cases sort with
    | none =>
      rw [directivesFrom_of_none hsearch hsort.symm, List.append_nil]
      exact ⟨h.sort, h.ranked⟩
    | some d =>
      rw [directivesFrom_of_some hsearch hsort.symm, firstPerKey_concat]
      obtain ⟨hs, hr⟩ := (h.bind parameters).addSort d
      exact ⟨hs, hr⟩

lemma length_ranks_add (acc : Accumulator) {t : Query.Tag} {c : Contribution} (hc : c.Orders t) :
    (acc.add false c).ranks.length = acc.ranks.length + [t].countP Query.Tag.isSearch := by
  have hranked := hc.ranked
  rw [add_ranks]
  split_ifs at hranked with hsearch
  · obtain ⟨name, text, hname, -⟩ := hranked
    simp [hname, hsearch]
  · simp [hranked, hsearch]

lemma Holds.gather {ds : List (SortDirective × Bool)} (h : acc.Holds (firstPerKey (·.1.key) ds))
    {ts : List Query.Tag} {cs : List Contribution}
    (hcs : List.Forall₂ (fun t c => c.Orders t) ts cs) :
    (acc.gather cs).Holds (firstPerKey (·.1.key) (ds ++ directivesFrom acc.ranks.length ts)) := by
  induction hcs generalizing acc ds with
  | nil =>
    rw [directivesFrom, List.append_nil]
    exact h
  | @cons t c ts cs hc _ ih =>
    have hnext := ih (h.add hc)
    rw [acc.length_ranks_add hc, List.append_assoc, ← directivesFrom_append] at hnext
    exact hnext

end Accumulator

/-! ## Ranks before sort directives -/

/-- No `sort:` tag names the rank column of a free text that follows it. -/
def RankedFirst (ts : List Query.Tag) : Prop :=
  ∀ before t after, ts = before ++ t :: after → t.isSearch = true →
    ∀ u ∈ before, ∀ d, u.directive? = some d →
      d.key ≠ numbered "rank" (before.countP Query.Tag.isSearch)

/-- The directives of the first rank columns, in order. -/
def rankDirectives (n : Nat) : List SortDirective :=
  (List.range n).map rankDirective

lemma nodup_rankDirectives (n : Nat) : ((rankDirectives n).map (·.key)).Nodup := by
  rw [rankDirectives, List.map_map]
  exact List.Nodup.map (fun _ _ => rankDirective_key_injective) List.nodup_range

lemma RankedFirst.of_concat {ts : List Query.Tag} {t : Query.Tag} (h : RankedFirst (ts ++ [t])) :
    RankedFirst ts := by
  rintro before u after rfl
  exact h before u (after ++ [t]) (by simp)

lemma mem_directivesFrom_sort {ts : List Query.Tag} {k : Nat} {d : SortDirective} :
    (d, false) ∈ directivesFrom k ts ↔ ∃ t ∈ ts, t.directive? = some d := by
  induction ts generalizing k with
  | nil => simp [directivesFrom]
  | cons t ts ih =>
    rw [directivesFrom]
    cases hsearch : t.isSearch with
    | true => simp [ih, t.directive?_of_isSearch hsearch]
    | false => simp [ih]

lemma mem_directivesFrom_rank {ts : List Query.Tag} {k : Nat} {d : SortDirective}
    (h : (d, true) ∈ directivesFrom k ts) :
    ∃ j, j < k + ts.countP Query.Tag.isSearch ∧ d = rankDirective j := by
  induction ts generalizing k with
  | nil => cases h
  | cons t ts ih =>
    rw [directivesFrom] at h
    cases hsearch : t.isSearch with
    | true =>
      rw [if_pos hsearch] at h
      rcases List.mem_cons.mp h with heq | hmem
      · exact ⟨k, by simp [hsearch], congrArg Prod.fst heq⟩
      · obtain ⟨j, hj, hd⟩ := ih hmem
        rw [List.countP_cons_of_pos hsearch]
        exact ⟨j, by omega, hd⟩
    | false =>
      have hmem : (d, true) ∈ directivesFrom k ts := by simpa [hsearch] using h
      rw [List.countP_cons_of_neg (by simp [hsearch])]
      exact ih hmem

/-- A tag names the rank column of a later free text just when its key is there before that rank. -/
lemma mem_keys_directivesFrom {ts : List Query.Tag} :
    numbered "rank" (ts.countP Query.Tag.isSearch) ∈ (directivesFrom 0 ts).map (·.1.key) ↔
      ∃ u ∈ ts, ∃ d, u.directive? = some d ∧
        d.key = numbered "rank" (ts.countP Query.Tag.isSearch) := by
  constructor
  · rintro hmem
    obtain ⟨⟨d, ranks⟩, hd, hkey⟩ := List.mem_map.mp hmem
    cases ranks with
    | true =>
      obtain ⟨j, hj, rfl⟩ := mem_directivesFrom_rank hd
      have := rankDirective_key_injective (k := ts.countP Query.Tag.isSearch) hkey
      omega
    | false =>
      obtain ⟨u, hu, hdirective⟩ := mem_directivesFrom_sort.mp hd
      exact ⟨u, hu, d, hdirective, hkey⟩
  · rintro ⟨u, hu, d, hd, hkey⟩
    exact List.mem_map.mpr ⟨(d, false), mem_directivesFrom_sort.mpr ⟨u, hu, hd⟩, hkey⟩

lemma rankDirectives_succ (n : Nat) :
    rankDirectives (n + 1) = rankDirectives n ++ [rankDirective n] := by
  simp [rankDirectives, List.range_succ]

lemma firstPerKey_rankDirectives_append (n : Nat) (ds : List SortDirective) :
    firstPerKey (·.key) (rankDirectives n ++ ds) =
      rankDirectives n ++
        firstPerKey (·.key) (ds.filter fun d => d.key ∉ (rankDirectives n).map (·.key)) := by
  rw [firstPerKey_append, firstPerKey_of_nodup _ (nodup_rankDirectives n)]

/-- If no rank column is named too early, every rank is kept, in front of the directives of the
`sort:` tags. -/
lemma ranking_append_sorting {ts : List Query.Tag} (h : RankedFirst ts) :
    let kept := firstPerKey (·.1.key) (directivesFrom 0 ts)
    let ranks := rankDirectives (ts.countP Query.Tag.isSearch)
    ranking kept = ranks ∧
      ranking kept ++ sorting kept =
        firstPerKey (·.key) (ranks ++ ts.filterMap Query.Tag.directive?) := by
  induction ts using List.reverseRecOn with
  | nil => exact ⟨rfl, rfl⟩
  | append_singleton ts t ih =>
    obtain ⟨hranks, hboth⟩ := ih h.of_concat
    dsimp only at hranks hboth ⊢
    rw [directivesFrom_append, Nat.zero_add, List.countP_append, List.filterMap_append]
    cases hsearch : t.isSearch with
    | true =>
      have hnew : (rankDirective (ts.countP Query.Tag.isSearch)).key ∉
          (directivesFrom 0 ts).map (·.1.key) := by
        intro hmem
        obtain ⟨u, hu, d, hd, hkey⟩ := mem_keys_directivesFrom.mp hmem
        exact h ts t [] rfl hsearch u hu d hd hkey
      have hfilter : (ts.filterMap Query.Tag.directive?).filter (fun d =>
            d.key ∉ (rankDirectives (ts.countP Query.Tag.isSearch + 1)).map (·.key)) =
          (ts.filterMap Query.Tag.directive?).filter fun d =>
            d.key ∉ (rankDirectives (ts.countP Query.Tag.isSearch)).map (·.key) := by
        refine List.filter_congr fun d hd => decide_eq_decide.mpr (not_congr ?_)
        obtain ⟨u, hu, hdirective⟩ := List.mem_filterMap.mp hd
        rw [rankDirectives_succ, List.map_append, List.mem_append]
        refine or_iff_left fun hkey => ?_
        exact h ts t [] rfl hsearch u hu d hdirective (List.mem_singleton.mp hkey)
      rw [firstPerKey_rankDirectives_append, hranks] at hboth
      rw [directivesFrom_of_isSearch hsearch, firstPerKey_concat_of_not_mem _ hnew,
        ranking_concat_rank, sorting_concat_rank, hranks, List.append_cancel_left hboth]
      simp only [hsearch, t.directive?_of_isSearch hsearch, List.countP_cons, List.countP_nil,
        List.filterMap_cons, List.filterMap_nil, List.append_nil, Nat.zero_add, if_true]
      rw [firstPerKey_rankDirectives_append, hfilter, rankDirectives_succ]
      exact ⟨rfl, rfl⟩
    | false =>
      simp only [hsearch, List.countP_cons, List.countP_nil, List.filterMap_cons,
        List.filterMap_nil, Nat.add_zero, if_false, Bool.false_eq_true]
      cases hd : t.directive? with
      | none =>
        rw [directivesFrom_of_none hsearch hd]
        simpa only [List.append_nil] using And.intro hranks hboth
      | some d =>
        rw [directivesFrom_of_some hsearch hd, ← List.append_assoc]
        have hkeys : d.key ∈ (directivesFrom 0 ts).map (·.1.key) ↔
            d.key ∈ (rankDirectives (ts.countP Query.Tag.isSearch) ++
              ts.filterMap Query.Tag.directive?).map (·.key) := by
          rw [← mem_map_firstPerKey (fun e : SortDirective × Bool => e.1.key),
            ← mem_keys_ranking_sorting, hboth, mem_map_firstPerKey]
        by_cases hmem : d.key ∈ (directivesFrom 0 ts).map (·.1.key)
        · rw [firstPerKey_concat_of_mem (fun e : SortDirective × Bool => e.1.key) hmem,
            firstPerKey_concat_of_mem _ (hkeys.mp hmem)]
          exact ⟨hranks, hboth⟩
        · rw [firstPerKey_concat_of_not_mem (fun e : SortDirective × Bool => e.1.key) hmem,
            firstPerKey_concat_of_not_mem _ (mt hkeys.mpr hmem), ranking_concat_sort,
            sorting_concat_sort, ← List.append_assoc, hboth]
          exact ⟨hranks, rfl⟩

lemma rankedFirst_of_ranking {ts : List Query.Tag}
    (h : ranking (firstPerKey (·.1.key) (directivesFrom 0 ts)) =
      rankDirectives (ts.countP Query.Tag.isSearch)) : RankedFirst ts := by
  rintro before t after rfl hsearch u hu d hd hkey
  have hnamed := mem_keys_directivesFrom.mpr ⟨u, hu, d, hd, hkey⟩
  have hrank : rankDirective (before.countP Query.Tag.isSearch) ∈
      ranking (firstPerKey (·.1.key) (directivesFrom 0 (before ++ t :: after))) := by
    rw [h, rankDirectives]
    exact List.mem_map_of_mem (List.mem_range.mpr (by simp [hsearch]))
  rw [mem_ranking, directivesFrom_append, firstPerKey_append, List.mem_append] at hrank
  rcases hrank with hbefore | hafter
  · obtain ⟨j, hj, heq⟩ := mem_directivesFrom_rank (firstPerKey_subset _ _ hbefore)
    have := rankDirective_key_injective (congrArg SortDirective.key heq)
    omega
  · have hkept := List.of_mem_filter (firstPerKey_subset _ _ hafter)
    exact absurd hnamed (of_decide_eq_true hkept)

/-! ## The order of a query -/

lemma Query.sort_of_compile {options : CompileOptions} {q : Query} {c : Compiled}
    (h : q.compile options = .ok c) :
    let kept := firstPerKey (·.1.key) (directivesFrom 0 q.tags)
    c.sort = ranking kept ++ sorting kept := by
  obtain ⟨hall, -, -, -, hsort⟩ := gathers_of_compile h
  have hempty : ({} : Accumulator).Holds (firstPerKey (·.1.key) []) := ⟨rfl, rfl⟩
  exact hsort.trans (hempty.gather (contributionsFrom_orders hall)).sort

lemma Query.nodup_sort {options : CompileOptions} {q : Query} {c : Compiled}
    (h : q.compile options = .ok c) : (c.sort.map (·.key)).Nodup := by
  rw [sort_of_compile h, ((perm_ranking_sorting _).map _).nodup_iff, List.map_map]
  exact nodup_firstPerKey (fun e : SortDirective × Bool => e.1.key) _

lemma withDefaultSort_eq (sort : List SortDirective) (fallback : SortDirective) :
    withDefaultSort sort fallback = keepNew (·.key) sort fallback := by
  have hany : (sort.any fun d => d.key == fallback.key) = true ↔
      fallback.key ∈ sort.map (·.key) := by
    simp
  unfold withDefaultSort
  by_cases hkey : fallback.key ∈ sort.map (·.key)
  · rw [keepNew_of_mem hkey, if_pos (hany.mpr hkey)]
  · rw [keepNew_of_not_mem hkey, if_neg (mt hany.mp hkey)]

/-- A query ranks by its free text, one rank column for each in reading order over the parameter of
that text, and no two of its directives have one key. The directives are the first ones per key in
reading order, those of ranks in front. So all ranks come first, and then the directives of the
`sort:` tags, unless such a tag names the rank column of a free text that follows it. The default
order comes last, unless there is a directive with its column. -/
theorem Query.ranks_before_sorts {options : CompileOptions} {q : Query} {c : Compiled}
    (h : q.compile options = .ok c) :
    let leaves := contributionsFrom options 0 q.tags
    let n := q.tags.countP Tag.isSearch
    let kept := firstPerKey (·.1.key) (directivesFrom 0 q.tags)
    List.Forall₂ (fun t leaf => leaf.Orders t) q.tags leaves ∧
    c.parameters.entries = parametersOf leaves ∧
    c.ranks = ((leaves.filterMap (·.ranked)).mapIdx fun k query =>
      ⟨.search, query, numbered "rank" k⟩) ∧
    c.ranks.length = n ∧
    (c.sort.map (·.key)).Nodup ∧
    c.sort = ranking kept ++ sorting kept ∧
    (ranking kept = rankDirectives n ↔ RankedFirst q.tags) ∧
    (RankedFirst q.tags →
      c.sort = firstPerKey (·.key) (rankDirectives n ++ q.tags.filterMap Tag.directive?)) ∧
    ∀ (r : SearchRequest) (s : SearchSettings) (now : Time.Moment) (selection : Selection),
      parse r.query = .ok q → options = ⟨r.useFolders || wantsFolders r.query, now, s.weekStart⟩ →
      r.selection s now = .ok selection →
      selection.ranks = c.ranks ∧
      selection.sort =
        (let fallback := (r.sort.getD s.defaultSort).directive
        if fallback.key ∈ c.sort.map (·.key) then c.sort else c.sort ++ [fallback]) ∧
      (selection.sort.map (·.key)).Nodup := by
  obtain ⟨hall, -, hparameters, hranks, -⟩ := gathers_of_compile h
  have hleaves := contributionsFrom_orders hall
  have hcolumns : c.ranks = ((contributionsFrom options 0 q.tags).filterMap (·.ranked)).mapIdx
      fun k query => ⟨.search, query, numbered "rank" k⟩ := by
    rw [hranks, Accumulator.gather_ranks]
    simp
  refine ⟨hleaves, ?_, hcolumns, ?_, nodup_sort h, sort_of_compile h,
    ⟨rankedFirst_of_ranking, fun hfirst => (ranking_append_sorting hfirst).1⟩, fun hfirst => ?_,
    fun r s now selection hparse hoptions hselection => ?_⟩
  · rw [hparameters, Accumulator.gather_parameters]
    rfl
  · rw [hcolumns, List.length_mapIdx]
    exact length_ranked hleaves
  · rw [sort_of_compile h]
    exact (ranking_append_sorting hfirst).2
  · obtain ⟨offset, _, -, hc, rfl⟩ := SearchRequest.selection_eq_ok_iff.mp hselection
    obtain ⟨_, hparse', hcompile⟩ := compile_of_settings hc
    cases hparse.symm.trans hparse'
    rw [← hoptions] at hcompile
    cases h.symm.trans hcompile
    refine ⟨rfl, withDefaultSort_eq _ _, ?_⟩
    rw [withDefaultSort_eq]
    exact nodup_keepNew _ (nodup_sort h) _

/-- Two words that are ranked by, and two `sort:` tags with one key around the second of them. -/
theorem Query.ranks_before_sorts_interleaved :
    let r : SearchRequest := { userId := "u1", query := "coffee sort:saved-asc beans sort:saved" }
    let now : Time.Moment := ⟨.epoch, 0⟩
    ∃ q c selection, parse r.query = .ok q ∧ q.compile ⟨false, now, .monday⟩ = .ok c ∧
      RankedFirst q.tags ∧ c.ranks.length = 2 ∧
      c.sort = rankDirectives 2 ++ [⟨"saved_at", .ascending, .last⟩] ∧
      r.selection {} now = .ok selection ∧
      selection.sort = c.sort ++ [⟨"updated_at", .descending, .last⟩] := by
  intro r now
  have hanswered : (r.selection {} now).toOption.map (·.offset) = some 0 := by decide +kernel
  have htags : (parse r.query).toOption.map (fun q =>
      (q.tags.countP Tag.isSearch, q.tags.filterMap Tag.directive?)) =
      some (2, [⟨"saved_at", .ascending, .last⟩, ⟨"saved_at", .descending, .last⟩]) := by
    decide +kernel
  obtain ⟨selection, hselection, -⟩ := Except.exists_of_toOption hanswered
  obtain ⟨offset, c, -, hc, -⟩ := SearchRequest.selection_eq_ok_iff.mp hselection
  obtain ⟨q, hparse, hcompile⟩ := compile_of_settings hc
  obtain ⟨-, -, -, hlength, -, -, -, hranked, hdefault⟩ := ranks_before_sorts hcompile
  obtain ⟨-, hselected, -⟩ := hdefault r {} now selection hparse rfl hselection
  have hfolders : (r.useFolders || wantsFolders r.query) = false := by decide +kernel
  rw [hfolders] at hcompile
  rw [hparse] at htags
  obtain ⟨hcount, hdirectives⟩ := Prod.mk.inj (Option.some.inj htags)
  have hfirst : RankedFirst q.tags := by
    intro before t after htags _ u hu d hd hkey
    have hmem : d ∈ q.tags.filterMap Tag.directive? :=
      List.mem_filterMap.mpr ⟨u, htags ▸ List.mem_append_left _ hu, hd⟩
    rw [hdirectives] at hmem
    have hsaved : d.key = "saved_at" := by
      simp only [List.mem_cons, List.not_mem_nil, or_false] at hmem
      rcases hmem with rfl | rfl <;> rfl
    have hstem : (stemAndNumber "saved_at").1 = "rank" := by
      rw [← hsaved, hkey, stemAndNumber_numbered]
    exact absurd hstem (by decide +kernel)
  have hsort := hranked hfirst
  rw [hcount] at hlength
  rw [hcount, hdirectives] at hsort
  have hkept : firstPerKey (·.key) (rankDirectives 2 ++
      [⟨"saved_at", .ascending, .last⟩, ⟨"saved_at", .descending, .last⟩]) =
      rankDirectives 2 ++ [⟨"saved_at", .ascending, .last⟩] := by decide +kernel
  refine ⟨q, c, selection, hparse, hcompile, hfirst, hlength, hsort.trans hkept, hselection, ?_⟩
  rw [hselected, hsort, hkept]
  decide +kernel

/-- A `sort:` tag that names the first rank column keeps that rank from the front, where the second
one stands alone. -/
theorem Query.rank_lost_to_early_sort :
    let text := "sort:rank_0-asc coffee beans"
    let options : CompileOptions := { now := ⟨.epoch, 0⟩ }
    ∃ q c, parse text = .ok q ∧ q.compile options = .ok c ∧ q.tags.countP Tag.isSearch = 2 ∧
      c.sort = [rankDirective 1, ⟨"rank_0", .ascending, .last⟩] ∧
      c.sort ≠ firstPerKey (·.key) (rankDirectives 2 ++ q.tags.filterMap Tag.directive?) := by
  intro text options
  have hparsed : (parse text).toOption.map (fun q =>
      (q.tags.countP Tag.isSearch, q.tags.filterMap Tag.directive?,
        (q.compile options).toOption.map (·.sort))) =
      some (2, [⟨"rank_0", .ascending, .last⟩],
        some [rankDirective 1, ⟨"rank_0", .ascending, .last⟩]) := by decide +kernel
  obtain ⟨q, hparse, hq⟩ := Except.exists_of_toOption hparsed
  obtain ⟨hcount, hrest⟩ := Prod.mk.inj hq
  obtain ⟨hdirectives, hcompiled⟩ := Prod.mk.inj hrest
  obtain ⟨c, hcompile, hsort⟩ := Except.exists_of_toOption hcompiled
  refine ⟨q, c, hparse, hcompile, hcount, hsort, ?_⟩
  rw [hsort, hdirectives]
  decide +kernel

end ReadLater
