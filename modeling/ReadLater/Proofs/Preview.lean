import ReadLater.Proofs.BulkWrite
import ReadLater.Proofs.Paging

/-!
# A search previews a bulk action

The items that a bulk action writes to are those that a search with the same query shows on all its
pages. Both start from the same filter; the order and the ranks of the search only permute the rows.
-/

namespace ReadLater

/-- The item after an action that assigns columns. -/
def BulkAction.written (now : Time.Instant) (i : Item) : BulkAction → Item
  | .archive => { i with state := .archived, archivedAt := some now, updatedAt := some now }
  | .delete => { i with state := .deleted, deletedAt := some now, updatedAt := some now }
  | .markRead =>
    { i with
      readAt := some now
      readingProgressTop := 100.0
      readingProgressBottom := 100.0
      updatedAt := some now }
  | .move folder => { i with folder, updatedAt := some now }
  | .addLabels _ => i

lemma BulkAction.exists_changes {a : BulkAction} (h : ∀ labelIds, a ≠ .addLabels labelIds)
    (now : Time.Instant) :
    ∃ changes, a.changes? now = some changes ∧ ∀ i, changes.apply i = a.written now i := by
  cases a with
  | archive | delete | markRead | move folder => exact ⟨_, rfl, fun _ => rfl⟩
  | addLabels labelIds => exact absurd rfl (h labelIds)

@[simp] lemma BulkAction.written_id (a : BulkAction) (now : Time.Instant) (i : Item) :
    (a.written now i).id = i.id := by
  cases a <;> rfl

@[simp] lemma BulkAction.written_userId (a : BulkAction) (now : Time.Instant) (i : Item) :
    (a.written now i).userId = i.userId := by
  cases a <;> rfl

/-- The first page of a search for what a bulk action is about. -/
structure SearchRequest.Previews (r : SearchRequest) (b : BulkRequest) : Prop where
  userId : r.userId = b.userId
  query : r.query = b.query
  useFolders : r.useFolders = b.useFolders
  visibility : r.visibility = {}
  start : r.after = none

lemma BulkRequest.filter_unsorted {b : BulkRequest} {s : SearchSettings} {now : Time.Moment}
    {f : Filter} (h : b.filter s now = .ok f) :
    ∃ q c, Query.parse b.query = .ok q ∧
      q.unsorted.compile ⟨b.useFolders || Query.wantsFolders b.query, now, s.weekStart⟩ = .ok c ∧
      f = c.visibleTo b.userId {} := by
  obtain ⟨c, hcompile, rfl⟩ := filter_eq_ok_iff.mp h
  obtain ⟨q, hparse, hq⟩ := Query.compile_of_settings hcompile
  obtain ⟨d, hd, hpredicate, hparameters, htrash⟩ := Query.compile_unsorted hq
  exact ⟨q, d, hparse, hd, (c.visibleTo_congr _ _ hpredicate hparameters htrash).symm⟩

lemma SearchRequest.Previews.selection {r : SearchRequest} {b : BulkRequest} (h : r.Previews b)
    {s : SearchSettings} {now : Time.Moment} {f : Filter} (hf : b.filter s now = .ok f) :
    ∃ selection, r.selection s now = .ok selection ∧ selection.filter = f ∧
      selection.offset = 0 := by
  obtain ⟨c, hcompile, rfl⟩ := BulkRequest.filter_eq_ok_iff.mp hf
  obtain ⟨huser, hquery, hfolders, hvisibility, hstart⟩ := h
  rw [← hquery, ← hfolders] at hcompile
  have hoffset : Cursor.read r.after = .ok 0 := by
    rw [hstart]
    decide +kernel
  refine ⟨_, selection_eq_ok_iff.mpr ⟨0, c, hoffset, hcompile, rfl⟩, ?_, rfl⟩
  rw [huser, hvisibility]

namespace Library

variable {l after : Library} {clock : Time.Instant} {s : SearchSettings} {now : Time.Moment}
  {r : SearchRequest} {selection : Selection} {items : List Item}

lemma ordered_items {rows : List Row} (hmatching : l.matching clock selection.filter = .ok items)
    (hrows : l.ordered clock selection = .ok rows) : (rows.map (·.item)).Perm items := by
  obtain ⟨_, hsame, hperm⟩ := ordered_perm hrows
  cases hmatching.symm.trans hsame
  exact hperm

lemma length_ordered_le {rows : List Row}
    (hmatching : l.matching clock selection.filter = .ok items)
    (hrows : l.ordered clock selection = .ok rows) : rows.length ≤ l.items.length := by
  have hlength := (ordered_items hmatching hrows).length_eq
  rw [List.length_map] at hlength
  rw [hlength]
  exact (matching_sublist hmatching).length_le

theorem Pages.perm_matching {pages : List Page} (h : l.Pages clock s now r pages)
    (hselection : r.selection s now = .ok selection) (hstart : selection.offset = 0)
    (hmatching : l.matching clock selection.filter = .ok items) :
    ((pages.flatMap (·.rows)).map (·.item)).Perm items := by
  obtain ⟨rows, hrows, hpages⟩ := h.rows hselection
  rw [hpages, hstart, List.drop_zero]
  exact ordered_items hmatching hrows

/-- The run through the pages only fails for a sort key that is no column. -/
theorem exists_pages_of_matching (hselection : r.selection s now = .ok selection)
    (hmatching : l.matching clock selection.filter = .ok items)
    (hkeys : selection.unknownKey? = none) (hlimit : 0 < s.maxPageSize)
    (hsize : l.items.length < UInt64.size) : ∃ pages, l.Pages clock s now r pages := by
  obtain ⟨offset, c, -, hcompile, hparts⟩ := SearchRequest.selection_eq_ok_iff.mp hselection
  obtain ⟨q, -, hq⟩ := Query.compile_of_settings hcompile
  have hranks : ∀ rank ∈ selection.ranks,
      ∃ text, selection.filter.parameters.text rank.query = .ok text := by
    subst hparts
    exact fun rank hrank => Compiled.text_of_mem_ranks _ _ hq hrank
  obtain ⟨rows, hrows⟩ := exists_ordered hmatching hranks hkeys
  have hpositive : 0 < selection.limit := by
    subst hparts
    exact SearchSettings.pageSize_pos hlimit r.first
  have hshort : rows.length < UInt64.size :=
    Nat.lt_of_le_of_lt (length_ordered_le hmatching hrows) hsize
  exact exists_pages hselection hrows hpositive hshort

/-- Whatever its ranks and its order, a window for all items shows the matching ones. -/
theorem select_perm_matching {rows : List Row}
    (hmatching : l.matching clock selection.filter = .ok items) (hstart : selection.offset = 0)
    (hlimit : l.items.length ≤ selection.limit) (h : l.select clock selection = .ok rows) :
    (rows.map (·.item)).Perm items := by
  rw [select_eq_window] at h
  cases hall : l.ordered clock selection with
  | error e => rw [hall] at h; cases h
  | ok all =>
    have hlength := Nat.le_trans (length_ordered_le hmatching hall) hlimit
    rw [hall] at h
    cases h
    dsimp only
    rw [hstart, List.drop_zero, List.take_of_length_le hlength]
    exact ordered_items hmatching hall

/-- A bulk action that assigns columns is previewed by a search. If ids are not shared, it writes
its columns to the items that the pages of the search show, counts these items, and leaves all else
as it is. Which items these are depends neither on the sort tags of the query nor on the ranks and
the order of a selection. -/
theorem bulk_writes_previewed {b : BulkRequest} {result : BulkResult}
    (hids : (l.items.map (·.id)).Nodup) (haction : ∀ labelIds, b.action ≠ .addLabels labelIds)
    (h : l.bulk clock s b now = .ok (after, result)) :
    ∃ shown : List Item, shown.Sublist l.items ∧ result = ⟨shown.length, shown.length⟩ ∧
      after = { l with
        items := l.items.map fun i =>
          if i ∈ shown then b.action.written now.instant i else i } ∧
      (∀ r : SearchRequest, r.Previews b →
        l.countMatches clock s r now = .ok shown.length ∧
        (∀ pages, l.Pages clock s now r pages →
          ((pages.flatMap (·.rows)).map (·.item)).Perm shown) ∧
        ((∃ selection, r.selection s now = .ok selection ∧ selection.unknownKey? = none) →
          0 < s.maxPageSize → l.items.length < UInt64.size →
          ∃ pages, l.Pages clock s now r pages)) ∧
      ∃ q c, Query.parse b.query = .ok q ∧
        q.unsorted.compile ⟨b.useFolders || Query.wantsFolders b.query, now, s.weekStart⟩ = .ok c ∧
        b.filter s now = .ok (c.visibleTo b.userId {}) ∧
        ∀ (selection : Selection) (rows : List Row),
          selection.filter = c.visibleTo b.userId {} → selection.offset = 0 →
          l.items.length ≤ selection.limit → l.select clock selection = .ok rows →
          (rows.map (·.item)).Perm shown := by
  obtain ⟨changes, hchanges, hwritten⟩ := BulkAction.exists_changes haction now.instant
  obtain ⟨f, n, hf, hupdate, rfl⟩ := update_of_bulk hchanges h
  obtain ⟨shown, hmatching, rfl, rfl⟩ := update_of_nodup hids hupdate
  obtain ⟨q, c, hparse, hunsorted, rfl⟩ := BulkRequest.filter_unsorted hf
  refine ⟨shown, matching_sublist hmatching, rfl, by simp only [hwritten], fun r hr => ?_,
    q, c, hparse, hunsorted, hf, fun selection rows hfilter hstart hlimit hselect => ?_⟩
  · obtain ⟨selection, hselection, hfilter, hstart⟩ := hr.selection hf
    rw [← hfilter] at hmatching
    refine ⟨countMatches_eq_ok_iff.mpr ⟨selection, shown, hselection, hmatching, rfl⟩,
      fun pages hpages => hpages.perm_matching hselection hstart hmatching, ?_⟩
    rintro ⟨_, hsame, hkeys⟩ hlimit hsize
    cases hselection.symm.trans hsame
    exact exists_pages_of_matching hselection hmatching hkeys hlimit hsize
  · rw [← hfilter] at hmatching
    exact select_perm_matching hmatching hstart hlimit hselect

/-- Marking the items of one user as read, and the pages of one row each that preview it. -/
theorem bulk_writes_previewed_two_pages :
    let now : Time.Instant := .ofSeconds 1710498600
    let l : Library := { items := [Item.saved "a" "u1" "Notes" .epoch,
      Item.saved "b" "u2" "Notes" .epoch, Item.saved "c" "u1" "Essays" .epoch] }
    let b : BulkRequest := ⟨"u1", "sort:wordscount -label:done", .markRead, false⟩
    let r : SearchRequest := { userId := "u1", query := b.query, first := some 1 }
    ∃ after shown pages, l.bulk now {} b ⟨now, 0⟩ = .ok (after, ⟨2, 2⟩) ∧ shown.length = 2 ∧
      after.items = l.items.map (fun i => if i ∈ shown then b.action.written now i else i) ∧
      l.countMatches now {} r ⟨now, 0⟩ = .ok 2 ∧ l.Pages now {} ⟨now, 0⟩ r pages ∧
      ((pages.flatMap (·.rows)).map (·.item)).Perm shown := by
  intro now l b r
  have hcounts : (l.bulk now {} b ⟨now, 0⟩).toOption.map Prod.snd = some ⟨2, 2⟩ := by
    decide +kernel
  have hkeys : (r.selection {} ⟨now, 0⟩).toOption.map (·.unknownKey?) = some none := by
    decide +kernel
  obtain ⟨⟨after, result⟩, hbulk, rfl⟩ := Except.exists_of_toOption hcounts
  obtain ⟨selection, hselection, hknown⟩ := Except.exists_of_toOption hkeys
  obtain ⟨shown, -, hshown, hafter, hsearch, -⟩ :=
    bulk_writes_previewed (by decide +kernel) (fun _ => by simp [b]) hbulk
  have htwo : shown.length = 2 := (BulkResult.mk.inj hshown).1.symm
  obtain ⟨hcount, hperm, hpages⟩ := hsearch r ⟨rfl, rfl, rfl, rfl, rfl⟩
  obtain ⟨pages, hrun⟩ := hpages ⟨selection, hselection, hknown⟩ (by decide) (by decide +kernel)
  rw [htwo] at hcount
  exact ⟨after, shown, pages, hbulk, htwo, by rw [hafter], hcount, hrun, hperm pages hrun⟩

end Library

end ReadLater
