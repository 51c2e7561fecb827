import ReadLater.Proofs.Decimal
import ReadLater.Proofs.Requests

/-!
# Runs through the pages of a search

A client that starts with a request and follows the cursor of each page until there is none has seen
all rows from the offset of the request on, each once and in order.
-/

namespace ReadLater

lemma Cursor.read_write (n : Nat) :
    read (some (write n)) =
      if n < UInt64.size then .ok n else .error (.invalidCursor (write n)) := by
  have htrim : Text.trim (write n) = write n :=
    Text.trim_of_not_blank fun c hc =>
      Text.not_isBlank_of_isAsciiDigit (Text.isAsciiDigit_of_mem_decimal hc)
  have hne : write n ≠ "" := by
    intro h
    exact Text.decimal_ne_nil n (by simpa [write] using congrArg String.toList h)
  rw [read, Option.getD_some, htrim, if_neg hne]
  simp only [write, String.toList_ofList, Text.unsigned?_decimal]
  split_ifs <;> rfl

lemma SearchSettings.pageSize_pos {s : SearchSettings} (h : 0 < s.maxPageSize)
    (first : Option Nat) : 0 < s.pageSize first := by
  unfold pageSize clamp
  split_ifs <;> omega

lemma SearchRequest.selection_write {r : SearchRequest} {s : SearchSettings} {now : Time.Moment}
    {selection : Selection} (h : r.selection s now = .ok selection) (n : Nat) :
    { r with after := some (Cursor.write n) }.selection s now =
      if n < UInt64.size then .ok { selection with offset := n }
      else .error (.invalidCursor (Cursor.write n)) := by
  obtain ⟨offset, c, -, hcompile, rfl⟩ := selection_eq_ok_iff.mp h
  unfold SearchRequest.selection
  rw [Cursor.read_write]
  split_ifs
  · simp only [bind, Except.bind, hcompile]
    rfl
  · rfl

namespace Library

/-- The pages that a client gets who starts with the request and follows the cursors to the end. -/
inductive Pages (l : Library) (clock : Time.Instant) (s : SearchSettings) (now : Time.Moment) :
    SearchRequest → List Page → Prop
  | last {r page} : l.search clock s r now = .ok page → page.nextCursor = none →
      Pages l clock s now r [page]
  | next {r page cursor pages} : l.search clock s r now = .ok page →
      page.nextCursor = some cursor →
      Pages l clock s now { r with after := some cursor } pages →
      Pages l clock s now r (page :: pages)

variable {l : Library} {clock : Time.Instant} {s : SearchSettings} {now : Time.Moment}
  {r : SearchRequest} {selection : Selection}

lemma Pages.exists_selection {pages : List Page} (h : l.Pages clock s now r pages) :
    ∃ selection, r.selection s now = .ok selection := by
  cases h with
  | last hsearch _ | next hsearch _ _ =>
    obtain ⟨selection, hselection, -⟩ := search_eq_ok_iff.mp hsearch
    exact ⟨selection, hselection⟩

/-- A page is the window of the ordered rows at its offset; a full page has a cursor to its end. -/
lemma window_of_search {page : Page} (h : l.search clock s r now = .ok page)
    (hselection : r.selection s now = .ok selection) :
    ∃ rows, l.ordered clock selection = .ok rows ∧
      page.rows = (rows.drop selection.offset).take selection.limit ∧
      page.nextCursor =
        if page.rows.length = selection.limit then
          some (Cursor.write (selection.offset + selection.limit))
        else none := by
  obtain ⟨_, hsame, hselect, hcursor, -⟩ := search_eq_ok_iff.mp h
  cases hselection.symm.trans hsame
  rw [select_eq_window] at hselect
  cases hrows : l.ordered clock selection with
  | error e => rw [hrows] at hselect; cases hselect
  | ok rows =>
    rw [hrows] at hselect
    exact ⟨rows, rfl, (Except.ok.inj hselect).symm, hcursor⟩

theorem Pages.rows {pages : List Page} (h : l.Pages clock s now r pages)
    (hselection : r.selection s now = .ok selection) :
    ∃ rows, l.ordered clock selection = .ok rows ∧
      pages.flatMap (·.rows) = rows.drop selection.offset := by
  induction h generalizing selection with
  | last hsearch hlast =>
    obtain ⟨rows, hrows, hpage, hcursor⟩ := window_of_search hsearch hselection
    refine ⟨rows, hrows, ?_⟩
    rw [hlast] at hcursor
    split_ifs at hcursor with hfull
    rw [hpage, List.length_take] at hfull
    rw [List.flatMap_cons, List.flatMap_nil, List.append_nil, hpage]
    exact List.take_of_length_le (by omega)
  | next hsearch hcursor hrest ih =>
    obtain ⟨rows, hrows, hpage, hnext⟩ := window_of_search hsearch hselection
    rw [hcursor] at hnext
    split_ifs at hnext with hfull
    cases hnext
    -- the next request was answered, so its cursor was read back as the offset
    have hafter := SearchRequest.selection_write hselection (selection.offset + selection.limit)
    obtain ⟨_, hok⟩ := hrest.exists_selection
    rw [hok] at hafter
    split_ifs at hafter
    cases hafter
    obtain ⟨rows', hrows', hpages⟩ := ih hok
    cases hrows.symm.trans hrows'
    refine ⟨rows, hrows, ?_⟩
    rw [List.flatMap_cons, hpages, hpage, ← List.drop_drop]
    exact List.take_append_drop _ _

lemma search_of_ordered {rows : List Row} (hselection : r.selection s now = .ok selection)
    (hrows : l.ordered clock selection = .ok rows) :
    ∃ page, l.search clock s r now = .ok page := by
  have hselect : l.select clock selection =
      .ok ((rows.drop selection.offset).take selection.limit) := by
    rw [select_eq_window, hrows]
    rfl
  obtain ⟨items, hitems, -⟩ := ordered_perm hrows
  have hcount : l.count clock selection.filter = .ok items.length :=
    count_eq_ok_iff.mpr ⟨items, hitems, rfl⟩
  rw [search_of_select hselection hselect, total?, hcount]
  cases r.includeTotal <;> exact ⟨_, rfl⟩

/-- The run through the pages ends, because each cursor is further on. -/
theorem exists_pages {rows : List Row} (hselection : r.selection s now = .ok selection)
    (hrows : l.ordered clock selection = .ok rows) (hlimit : 0 < selection.limit)
    (hsize : rows.length < UInt64.size) : ∃ pages, l.Pages clock s now r pages := by
  induction hleft : rows.length - selection.offset using Nat.strongRecOn
    generalizing r selection with
  | ind left ih =>
    obtain ⟨page, hsearch⟩ := search_of_ordered hselection hrows
    obtain ⟨_, hsame, hpage, hcursor⟩ := window_of_search hsearch hselection
    cases hrows.symm.trans hsame
    split_ifs at hcursor with hfull
    -- a full page has at least one row, and its end lies within the rows
    · rw [hpage, List.length_take, List.length_drop] at hfull
      have hafter := SearchRequest.selection_write hselection (selection.offset + selection.limit)
      rw [if_pos (by omega)] at hafter
      obtain ⟨pages, hpages⟩ := ih _ (by dsimp only; omega) hafter hrows hlimit rfl
      exact ⟨page :: pages, .next hsearch hcursor hpages⟩
    · exact ⟨[page], .last hsearch hcursor⟩

end Library

end ReadLater
