import ReadLater.Config.Basic
import ReadLater.Proofs.Preview
import ReadLater.Proofs.SortOrder
import ReadLater.Proofs.Totality

/-!
# Full runs through the pages of a search

Without a cursor a client gets all accepted items in their order, cut into pages of the same size
and a shorter last one. The number of a page tells its window, and the end of a full window lies
within the items of the library, so that its cursor can be read back.
-/

namespace ReadLater

lemma SearchSettings.clamp_mem {low high n : Nat} (h : low ≤ high) :
    low ≤ clamp low high n ∧ clamp low high n ≤ high := by
  unfold clamp
  split_ifs <;> omega

lemma SearchConfig.pageSize_mem (c : SearchConfig) (first : Option Nat) :
    1 ≤ c.settings.pageSize first ∧ c.settings.pageSize first ≤ 100 := by
  have hcap : 1 ≤ c.pageCap ∧ c.pageCap ≤ 100 :=
    SearchSettings.clamp_mem (n := c.maxPageSize) (by decide)
  have hsize := SearchSettings.clamp_mem (n := first.getD c.settings.defaultPageSize) hcap.1
  exact ⟨hsize.1, Nat.le_trans hsize.2 hcap.2⟩

lemma Cursor.lt_of_read {after : Option String} {offset : Nat} (h : read after = .ok offset) :
    offset < UInt64.size := by
  unfold read at h
  dsimp only at h
  split_ifs at h
  · cases h
    decide
  · split at h
    · rename_i hread
      cases h
      obtain ⟨n, -, hn⟩ := Option.bind_eq_some_iff.mp hread
      split_ifs at hn with hlt
      cases hn
      exact hlt
    · cases h

/-- The page with a number: a window of the rows, with the cursor to its end if it is full. -/
def pageAt (rows : List Row) (limit : Nat) (total : Option Nat) (k : Nat) : Page where
  rows := (rows.drop (k * limit)).take limit
  nextCursor := if k < rows.length / limit then some (Cursor.write ((k + 1) * limit)) else none
  total

lemma length_window_eq_iff {rows : List Row} {limit : Nat} (hlimit : 0 < limit) (k : Nat) :
    ((rows.drop (k * limit)).take limit).length = limit ↔ k < rows.length / limit := by
  rw [List.length_take, List.length_drop, Nat.lt_iff_add_one_le, Nat.le_div_iff_mul_le hlimit,
    Nat.add_mul]
  omega

namespace Library

variable {l : Library} {clock : Time.Instant} {s : SearchSettings} {now : Time.Moment}
  {r : SearchRequest} {selection : Selection} {rows : List Row} {total : Option Nat}

lemma page_of_search {page : Page} {k : Nat} (hlimit : 0 < selection.limit)
    (h : l.search clock s r now = .ok page) (hselection : r.selection s now = .ok selection)
    (hrows : l.ordered clock selection = .ok rows)
    (hoffset : selection.offset = k * selection.limit)
    (htotal : l.total? clock r selection.filter = .ok total) :
    page = pageAt rows selection.limit total k := by
  obtain ⟨_, hsame, -, -, hcount⟩ := search_eq_ok_iff.mp h
  cases hselection.symm.trans hsame
  cases htotal.symm.trans hcount
  obtain ⟨_, hsame, hwindow, hcursor⟩ := window_of_search h hselection
  cases hrows.symm.trans hsame
  obtain ⟨found, nextCursor, total⟩ := page
  dsimp only at hwindow hcursor
  rw [hwindow, hoffset, ← Nat.succ_mul] at hcursor
  simp only [length_window_eq_iff hlimit] at hcursor
  rw [hwindow, hcursor, hoffset]
  rfl

/-- The pages of a run have consecutive numbers, up to that of the window that is not full. -/
theorem Pages.eq_map_pageAt {pages : List Page} {k : Nat} (h : l.Pages clock s now r pages)
    (hselection : r.selection s now = .ok selection) (hlimit : 0 < selection.limit)
    (hrows : l.ordered clock selection = .ok rows)
    (hoffset : selection.offset = k * selection.limit)
    (htotal : l.total? clock r selection.filter = .ok total)
    (hk : k ≤ rows.length / selection.limit) :
    pages = (List.range' k (rows.length / selection.limit + 1 - k)).map
      (pageAt rows selection.limit total) := by
  induction h generalizing selection k with
  | last hsearch hlast =>
    have hpage := page_of_search hlimit hsearch hselection hrows hoffset htotal
    have hend : rows.length / selection.limit + 1 - k = 1 := by
      rw [hpage, pageAt] at hlast
      split_ifs at hlast
      omega
    rw [hend, hpage]
    rfl
  | next hsearch hcursor hrest ih =>
    have hpage := page_of_search hlimit hsearch hselection hrows hoffset htotal
    rw [hpage, pageAt] at hcursor
    dsimp only at hcursor
    split_ifs at hcursor with hfull
    cases hcursor
    -- the next request was answered, so its cursor was read back as the offset
    have hafter := SearchRequest.selection_write hselection ((k + 1) * selection.limit)
    obtain ⟨_, hok⟩ := hrest.exists_selection
    rw [hok] at hafter
    split_ifs at hafter
    cases hafter
    have hmore : rows.length / selection.limit + 1 - k =
        rows.length / selection.limit + 1 - (k + 1) + 1 := by omega
    rw [ih hok hlimit hrows rfl htotal hfull, hmore, List.range'_succ, List.map_cons, hpage]

lemma Pages.eq_map_range {pages : List Page} (h : l.Pages clock s now r pages)
    (hselection : r.selection s now = .ok selection) (hlimit : 0 < selection.limit)
    (hrows : l.ordered clock selection = .ok rows) (hstart : selection.offset = 0)
    (htotal : l.total? clock r selection.filter = .ok total) :
    pages = (List.range (rows.length / selection.limit + 1)).map
      (pageAt rows selection.limit total) := by
  rw [h.eq_map_pageAt (k := 0) hselection hlimit hrows (by simpa using hstart) htotal
    (Nat.zero_le _), Nat.sub_zero, List.range_eq_range']

end Library

/-- The pages of a run over the rows: full ones, numbered by their cursors, and a shorter last
one. -/
structure FullRun (rows : List Row) (limit : Nat) (total : Option Nat) (pages : List Page) :
    Prop where
  length : pages.length = rows.length / limit + 1
  full : ∀ k page, pages[k]? = some page → k < rows.length / limit →
    page.rows.length = limit ∧ page.nextCursor = some (Cursor.write ((k + 1) * limit))
  last : ∀ page, pages.getLast? = some page → page.rows.length < limit ∧ page.nextCursor = none
  total : ∀ page ∈ pages, page.total = total
  rows : pages.flatMap (·.rows) = rows

lemma fullRun_pageAt {rows : List Row} {limit : Nat} (hlimit : 0 < limit) {total : Option Nat}
    {pages : List Page}
    (hpages : pages = (List.range (rows.length / limit + 1)).map (pageAt rows limit total))
    (hrows : pages.flatMap (·.rows) = rows) : FullRun rows limit total pages where
  length := by simp [hpages]
  full k page hpage hk := by
    rw [hpages, List.getElem?_map, List.getElem?_range (Nat.lt_succ_of_lt hk)] at hpage
    cases hpage
    exact ⟨(length_window_eq_iff hlimit k).mpr hk, if_pos hk⟩
  last page hpage := by
    rw [hpages, List.getLast?_map, List.getLast?_range, if_neg (Nat.succ_ne_zero _)] at hpage
    cases hpage
    have hend : ¬rows.length / limit < rows.length / limit := Nat.lt_irrefl _
    refine ⟨Nat.lt_of_le_of_ne (List.length_take_le _ _) fun hfull => hend ?_, if_neg hend⟩
    exact (length_window_eq_iff hlimit _).mp hfull
  total page hpage := by
    rw [hpages] at hpage
    obtain ⟨k, -, rfl⟩ := List.mem_map.mp hpage
    rfl
  rows := hrows

/-- The rows in the order of the directives. If none holds a NaN, they are in order, and those that
were in order before stay so. The order is meant for such rows only: of others nothing is said but
which sorted list this is. -/
structure StablySorted (sort : List SortDirective) (rows sorted : List Row) : Prop where
  eq_mergeSort : sorted = rows.mergeSort (mayPrecede sort)
  pairwise : (∀ row ∈ rows, row.HasNumbers) → sorted.Pairwise fun a b => mayPrecede sort a b = true
  stable : (∀ row ∈ rows, row.HasNumbers) → ∀ kept : List Row, kept.Sublist rows →
    (kept.Pairwise fun a b => mayPrecede sort a b = true) → kept.Sublist sorted

lemma stablySorted_mergeSort (sort : List SortDirective) (rows : List Row) :
    StablySorted sort rows (rows.mergeSort (mayPrecede sort)) where
  eq_mergeSort := rfl
  pairwise := pairwise_sorted sort
  stable h _ hkept horder := sublist_sorted sort h hkept horder

namespace Library

variable {l : Library} {clock : Time.Instant} {s : SearchSettings} {now : Time.Moment}
  {r : SearchRequest} {selection : Selection}

/-- From the first page on there is just one run, and it shows all accepted items in their order. -/
theorem exists_fullRun (clock : Time.Instant) (hsize : l.items.length < UInt64.size)
    (hselection : r.selection s now = .ok selection) (hstart : selection.offset = 0)
    (hlimit : 0 < selection.limit) (hkeys : selection.unknownKey? = none) :
    ∃ accepted scored sorted pages,
      l.matching clock selection.filter = .ok accepted ∧
      List.Forall₂ (fun i row => row.item = i ∧
        scoresOf selection.filter.parameters i selection.ranks = .ok row.scores) accepted scored ∧
      StablySorted selection.sort scored sorted ∧
      (∀ run, l.Pages clock s now r run ↔ run = pages) ∧
      FullRun sorted selection.limit (if r.includeTotal then some accepted.length else none)
        pages := by
  obtain ⟨accepted, haccepted⟩ :=
    exists_matching (SearchRequest.evaluable_of_selection hselection) l clock
  obtain ⟨scored, hscored⟩ := exists_rows (SearchRequest.text_of_ranks hselection) accepted
  have hsorted : l.ordered clock selection =
      .ok (scored.mergeSort (mayPrecede selection.sort)) := ordered_of_rows haccepted hscored hkeys
  have hshort := Nat.lt_of_le_of_lt (length_ordered_le haccepted hsorted) hsize
  have htotal : l.total? clock r selection.filter =
      .ok (if r.includeTotal then some accepted.length else none) := by
    rw [total?, count_eq_ok_iff.mpr ⟨accepted, haccepted, rfl⟩]
    cases r.includeTotal <;> rfl
  obtain ⟨pages, hpages⟩ := exists_pages hselection hsorted hlimit hshort
  have hnumbered := hpages.eq_map_range hselection hlimit hsorted hstart htotal
  obtain ⟨_, hsame, hrows⟩ := hpages.rows hselection
  cases hsorted.symm.trans hsame
  rw [hstart, List.drop_zero] at hrows
  refine ⟨accepted, scored, _, pages, haccepted, rows_eq_ok_iff.mp hscored,
    stablySorted_mergeSort _ _, fun run => ⟨fun hrun => ?_, ?_⟩,
    fullRun_pageAt hlimit hnumbered hrows⟩
  · rw [hrun.eq_map_range hselection hlimit hsorted hstart htotal, ← hnumbered]
  · rintro rfl
    exact hpages

lemma offset_add_limit_le (hselection : r.selection s now = .ok selection)
    (hlimit : 0 < selection.limit) {page : Page} (h : l.search clock s r now = .ok page)
    (hfull : page.rows.length = selection.limit) :
    selection.offset + selection.limit ≤ l.items.length := by
  obtain ⟨rows, hrows, hpage, -⟩ := window_of_search h hselection
  obtain ⟨items, hitems, -⟩ := ordered_perm hrows
  have hlength := length_ordered_le hitems hrows
  rw [hpage, List.length_take, List.length_drop] at hfull
  omega

/-- Following the cursors from the first page on, a search under any configuration ends, shows each
accepted item once, in the order of the directives, on pages of one size and a shorter last one,
and counts them all on each page. Whatever the cursor of a request, the next one is only computed
for a full page, where it is a number of 64 bits. -/
theorem pages_of_config (hsize : l.items.length < UInt64.size) (clock : Time.Instant)
    (c : SearchConfig) (now : Time.Moment) :
    (∀ (r : SearchRequest) (compiled : Compiled), Cursor.read r.after = .ok 0 →
      c.settings.compile r.query r.useFolders now = .ok compiled →
      let sort := withDefaultSort compiled.sort (r.sort.getD c.settings.defaultSort).directive
      let filter := compiled.visibleTo r.userId r.visibility
      let limit := c.settings.pageSize r.first
      (∀ d ∈ sort, Column.ofName? d.key ≠ none ∨ ∃ rank ∈ compiled.ranks, rank.name = d.key) →
      ∃ accepted scored sorted pages,
        (1 ≤ limit ∧ limit ≤ 100) ∧
        ((∀ i ∈ l.items, ∃ b, filter.accepts clock i = .ok b) ∧
          accepted = l.items.filter (filter.passes clock)) ∧
        l.countMatches clock c.settings r now = .ok accepted.length ∧
        List.Forall₂ (fun i row => row.item = i ∧
          scoresOf filter.parameters i compiled.ranks = .ok row.scores) accepted scored ∧
        StablySorted sort scored sorted ∧
        (sorted.length = accepted.length ∧ (sorted.map (·.item)).Perm accepted) ∧
        (∀ run, l.Pages clock c.settings now r run ↔ run = pages) ∧
        FullRun sorted limit (if r.includeTotal then some accepted.length else none) pages) ∧
    ∀ (r : SearchRequest) (offset : Nat), Cursor.read r.after = .ok offset →
      offset < UInt64.size ∧
      ∀ page, l.search clock c.settings r now = .ok page →
        let limit := c.settings.pageSize r.first
        (page.rows.length = limit → offset + limit < UInt64.size ∧
          page.nextCursor = some (Cursor.write (offset + limit))) ∧
        (page.rows.length ≠ limit → page.nextCursor = none) := by
  constructor
  · intro r compiled hstart hcompile sort filter limit hkeys
    have hselection : r.selection c.settings now =
        .ok ⟨filter, compiled.ranks, sort, 0, limit⟩ :=
      SearchRequest.selection_eq_ok_iff.mpr ⟨0, compiled, hstart, hcompile, rfl⟩
    have hknown : Selection.unknownKey? ⟨filter, compiled.ranks, sort, 0, limit⟩ = none := by
      refine Option.eq_none_iff_forall_ne_some.mpr fun key hkey => ?_
      obtain ⟨d, hd, hcolumn, hrank⟩ := exists_unknownKey_iff.mp ⟨key, hkey⟩
      obtain hcolumn' | ⟨rank, hmem, hname⟩ := hkeys d hd
      · exact hcolumn' hcolumn
      · exact hrank rank hmem hname
    have hlimit := c.pageSize_mem r.first
    obtain ⟨accepted, scored, sorted, pages, haccepted, hscored, hsorted, hruns, hfull⟩ :=
      exists_fullRun clock hsize hselection rfl hlimit.1 hknown
    have hperm : (sorted.map (·.item)).Perm accepted := by
      rw [hsorted.eq_mergeSort, ← map_item_of_mapM (rows_eq_ok_iff.mpr hscored)]
      exact (List.mergeSort_perm _ _).map _
    have hlength := hperm.length_eq
    rw [List.length_map] at hlength
    exact ⟨accepted, scored, sorted, pages, hlimit, matching_eq_ok_iff.mp haccepted,
      countMatches_eq_ok_iff.mpr ⟨_, accepted, hselection, haccepted, rfl⟩, hscored, hsorted,
      ⟨hlength, hperm⟩, hruns, hfull⟩
  · intro r offset hoffset
    refine ⟨Cursor.lt_of_read hoffset, fun page hpage => ?_⟩
    obtain ⟨selection, hselection, -, hcursor, -⟩ := search_eq_ok_iff.mp hpage
    obtain ⟨_, compiled, hsame, -, rfl⟩ := SearchRequest.selection_eq_ok_iff.mp hselection
    cases hoffset.symm.trans hsame
    refine ⟨fun hfull => ⟨?_, ?_⟩, fun hshort => ?_⟩
    · exact Nat.lt_of_le_of_lt
        (offset_add_limit_le hselection (c.pageSize_mem r.first).1 hpage hfull) hsize
    · rw [hcursor, if_pos hfull]
    · rw [hcursor, if_neg hshort]

/-- Two accepted items on pages of one: the run ends with an empty page. -/
theorem pages_of_config_empty_last_page :
    let now : Time.Moment := ⟨.epoch, 0⟩
    let l : Library := { items := [Item.saved "a" "u1" "Notes" .epoch,
      Item.saved "b" "u2" "Notes" .epoch, Item.saved "c" "u1" "Essays" .epoch] }
    let c : SearchConfig := { maxPageSize := 0 }
    let r : SearchRequest :=
      { userId := "u1", query := "sort:saved", first := some 50, includeTotal := true }
    l.items.length < UInt64.size ∧ c.settings.pageSize r.first = 1 ∧
    (∃ pages, l.Pages .epoch c.settings now r pages ∧ pages.length = 3 ∧
      (∀ page ∈ pages, page.total = some 2) ∧
      ∀ page, pages.getLast? = some page → page.rows = [] ∧ page.nextCursor = none) ∧
    let beyond : SearchRequest := { r with after := some "18446744073709551615" }
    Cursor.read beyond.after = .ok 18446744073709551615 ∧
    ∀ page, l.search .epoch c.settings beyond now = .ok page →
      page.rows.length ≠ 1 ∧ page.nextCursor = none := by
  intro now l c r
  obtain ⟨hrun, hcursor⟩ := pages_of_config (l := l) (by decide) .epoch c now
  have hcount : l.countMatches .epoch c.settings r now = .ok 2 := by decide +kernel
  have hsize : c.settings.pageSize r.first = 1 := by decide +kernel
  have hkeys : (c.settings.compile r.query r.useFolders now).toOption.map (fun compiled =>
      (withDefaultSort compiled.sort (r.sort.getD c.settings.defaultSort).directive).all fun d =>
        (Column.ofName? d.key).isSome) = some true := by decide +kernel
  obtain ⟨compiled, hcompile, hknown⟩ := Except.exists_of_toOption hkeys
  obtain ⟨accepted, scored, sorted, pages, -, -, haccepted, -, -, ⟨hlength, -⟩, hpages, hfull⟩ :=
    hrun r compiled (by decide +kernel) hcompile fun d hd =>
      .inl (Option.ne_none_iff_isSome.mpr (List.all_eq_true.mp hknown d hd))
  have htwo : accepted.length = 2 := Except.ok.inj (haccepted.symm.trans hcount)
  rw [hsize, htwo] at hfull
  refine ⟨by decide, hsize, ⟨pages, (hpages pages).mpr rfl, ?_, hfull.total, fun page hpage => ?_⟩,
    ?_⟩
  · rw [hfull.length, hlength, htwo]
  · obtain ⟨hshort, hnone⟩ := hfull.last page hpage
    exact ⟨List.eq_nil_of_length_eq_zero (Nat.lt_one_iff.mp hshort), hnone⟩
  · intro beyond
    have hoffset : Cursor.read beyond.after = .ok 18446744073709551615 := by decide +kernel
    refine ⟨hoffset, fun page hpage => ?_⟩
    obtain ⟨-, hnext⟩ := hcursor beyond _ hoffset
    obtain ⟨hovershoot, hnone⟩ := hnext page hpage
    rw [show c.settings.pageSize beyond.first = 1 from hsize] at hovershoot hnone
    have hne : page.rows.length ≠ 1 := fun hone => absurd (hovershoot hone).1 (Nat.lt_irrefl _)
    exact ⟨hne, hnone hne⟩

end Library

end ReadLater
