import ReadLater.Proofs.Preview
import ReadLater.Proofs.Totality

/-!
# What all pages of a search show

A search whose query has no order of its own runs through the items in the default order, which only
names columns. So its pages exist, and together they show what passes the filter.
-/

namespace ReadLater

/-- The search starts with the first page of the compiled query, which names no order. -/
structure SearchRequest.Asks (r : SearchRequest) (s : SearchSettings) (now : Time.Moment)
    (c : Compiled) : Prop where
  start : r.after = none
  compiled : s.compile r.query r.useFolders now = .ok c
  unsorted : c.sort = []

lemma SearchRequest.Asks.selection {r : SearchRequest} {s : SearchSettings} {now : Time.Moment}
    {c : Compiled} (h : r.Asks s now c) :
    ∃ selection, r.selection s now = .ok selection ∧ selection.offset = 0 ∧
      selection.filter = c.visibleTo r.userId r.visibility ∧ selection.unknownKey? = none := by
  obtain ⟨hstart, hcompile, hsort⟩ := h
  have hoffset : Cursor.read r.after = .ok 0 := by
    rw [hstart]
    decide +kernel
  refine ⟨_, selection_eq_ok_iff.mpr ⟨0, c, hoffset, hcompile, rfl⟩, rfl, rfl, ?_⟩
  have hcolumn : ∀ key : SortBy, Column.ofName? key.column.name = some key.column := by
    intro key
    cases key <;> decide +kernel
  simp [Selection.unknownKey?, withDefaultSort, SortParameters.directive, hsort, hcolumn]

namespace Library

variable {l : Library} {clock : Time.Instant} {s : SearchSettings} {now : Time.Moment}
  {r : SearchRequest} {c : Compiled}

theorem Pages.perm_passing {pages : List Page} (hpages : l.Pages clock s now r pages)
    (h : r.Asks s now c) :
    ((pages.flatMap (·.rows)).map (·.item)).Perm
      (l.items.filter ((c.visibleTo r.userId r.visibility).passes clock)) := by
  obtain ⟨selection, hselection, hstart, hfilter, -⟩ := h.selection
  obtain ⟨items, hitems⟩ :=
    exists_matching (SearchRequest.evaluable_of_selection hselection) l clock
  rw [← hfilter, ← (matching_eq_ok_iff.mp hitems).2]
  exact hpages.perm_matching hselection hstart hitems

lemma exists_pages_of_asks (h : r.Asks s now c) (hlimit : 0 < s.maxPageSize)
    (hsize : l.items.length < UInt64.size) : ∃ pages, l.Pages clock s now r pages := by
  obtain ⟨selection, hselection, -, -, hkeys⟩ := h.selection
  obtain ⟨items, hitems⟩ :=
    exists_matching (SearchRequest.evaluable_of_selection hselection) l clock
  exact exists_pages_of_matching hselection hitems hkeys hlimit hsize

end Library

end ReadLater
