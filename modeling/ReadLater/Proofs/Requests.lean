import ReadLater.Bulk.Apply
import ReadLater.Proofs.Baseline
import ReadLater.Proofs.Matching

/-!
# Requests that succeed

What a successful request consists of: the compiled query, the selection or the filter that is made
of it, and the calls to the library.
-/

namespace ReadLater

lemma Except.mapError_eq_ok_iff {ε ε' α : Type} {f : ε → ε'} {x : Except ε α} {a : α} :
    x.mapError f = .ok a ↔ x = .ok a := by
  cases x <;> simp [Except.mapError]

lemma Except.exists_of_toOption {ε α β : Type} {f : α → β} {x : Except ε α} {b : β}
    (h : x.toOption.map f = some b) : ∃ a, x = .ok a ∧ f a = b := by
  cases x with
  | error e => cases h
  | ok a => exact ⟨a, rfl, Option.some.inj h⟩

lemma Query.compile_of_settings {s : SearchSettings} {text : String} {useFolders : Bool}
    {now : Time.Moment} {c : Compiled} (h : s.compile text useFolders now = .ok c) :
    ∃ q, parse text = .ok q ∧
      q.compile ⟨useFolders || wantsFolders text, now, s.weekStart⟩ = .ok c :=
  compile_of_compileText (Except.mapError_eq_ok_iff.mp h)

lemma SearchRequest.selection_eq_ok_iff {r : SearchRequest} {s : SearchSettings}
    {now : Time.Moment} {selection : Selection} :
    r.selection s now = .ok selection ↔
      ∃ offset c, Cursor.read r.after = .ok offset ∧ s.compile r.query r.useFolders now = .ok c ∧
        selection =
          { filter := c.visibleTo r.userId r.visibility
            ranks := c.ranks
            sort := withDefaultSort c.sort (r.sort.getD s.defaultSort).directive
            offset
            limit := s.pageSize r.first } := by
  unfold SearchRequest.selection
  cases Cursor.read r.after with
  | error e => simp [bind, Except.bind]
  | ok offset =>
    cases s.compile r.query r.useFolders now with
    | error e => simp [bind, Except.bind]
    | ok c => simp [bind, Except.bind, pure, Except.pure, eq_comm]

lemma BulkRequest.filter_eq_ok_iff {b : BulkRequest} {s : SearchSettings} {now : Time.Moment}
    {f : Filter} :
    b.filter s now = .ok f ↔
      ∃ c, s.compile b.query b.useFolders now = .ok c ∧ f = c.visibleTo b.userId {} := by
  unfold BulkRequest.filter
  cases s.compile b.query b.useFolders now with
  | error e => simp [bind, Except.bind]
  | ok c => simp [bind, Except.bind, pure, Except.pure, eq_comm]

namespace Library

variable {l after : Library} {clock : Time.Instant} {s : SearchSettings} {now : Time.Moment}

/-- The number of all matches, if it is asked for. -/
def total? (l : Library) (clock : Time.Instant) (r : SearchRequest) (f : Filter) :
    Except StoreError (Option Nat) :=
  if r.includeTotal then (l.count clock f).map some else .ok none

lemma search_of_select {r : SearchRequest} {selection : Selection} {rows : List Row}
    (hselection : r.selection s now = .ok selection)
    (hrows : l.select clock selection = .ok rows) :
    l.search clock s r now = ((l.total? clock r selection.filter).mapError .store).map fun total =>
      ⟨rows, if rows.length = selection.limit then
          some (Cursor.write (selection.offset + selection.limit)) else none, total⟩ := by
  unfold search total?
  rw [hselection]
  simp only [bind, Except.bind, hrows, Except.mapError]
  cases r.includeTotal with
  | false => rfl
  | true => cases l.count clock selection.filter <;> rfl

/-- A page holds the selected rows, the cursor of the next page after a full one, and the number of
all matches if it is asked for. -/
lemma search_eq_ok_iff {r : SearchRequest} {page : Page} :
    l.search clock s r now = .ok page ↔
      ∃ selection, r.selection s now = .ok selection ∧
        l.select clock selection = .ok page.rows ∧
        page.nextCursor =
          (if page.rows.length = selection.limit then
            some (Cursor.write (selection.offset + selection.limit))
          else none) ∧
        l.total? clock r selection.filter = .ok page.total := by
  obtain ⟨rows, nextCursor, total⟩ := page
  cases hselection : r.selection s now with
  | error e => simp [search, hselection, bind, Except.bind]
  | ok selection =>
    cases hrows : l.select clock selection with
    | error e => simp [search, hselection, hrows, bind, Except.bind, Except.mapError]
    | ok found =>
      rw [search_of_select hselection hrows]
      cases htotal : l.total? clock r selection.filter with
      | error e => simp [htotal, Except.mapError, Except.map]
      | ok n =>
        simp only [Except.mapError, Except.map, Except.ok.injEq, Page.mk.injEq, exists_eq_left',
          hrows, htotal]
        constructor
        · rintro ⟨rfl, hcursor, rfl⟩
          exact ⟨rfl, hcursor.symm, rfl⟩
        · rintro ⟨rfl, hcursor, rfl⟩
          exact ⟨rfl, hcursor.symm, rfl⟩

lemma countMatches_eq_ok_iff {r : SearchRequest} {n : Nat} :
    l.countMatches clock s r now = .ok n ↔
      ∃ selection items, r.selection s now = .ok selection ∧
        l.matching clock selection.filter = .ok items ∧ n = items.length := by
  unfold countMatches
  cases r.selection s now with
  | error e => simp [bind, Except.bind]
  | ok selection => simp [bind, Except.bind, Except.mapError_eq_ok_iff, count_eq_ok_iff]

lemma update_of_bulk {b : BulkRequest} {changes : Changes} {result : BulkResult}
    (haction : b.action.changes? now.instant = some changes)
    (h : l.bulk clock s b now = .ok (after, result)) :
    ∃ f n, b.filter s now = .ok f ∧ l.update clock f changes = .ok (after, n) ∧
      result = ⟨n, n⟩ := by
  unfold bulk at h
  cases hf : b.filter s now with
  | error e => simp [hf, bind, Except.bind] at h
  | ok f =>
    simp only [hf, bind, Except.bind] at h
    split at h
    · rename_i labelIds hadd
      simp [hadd, BulkAction.changes?] at haction
    · rw [haction, Option.getD_some] at h
      cases hupdate : l.update clock f changes with
      | error e => simp [hupdate, Except.mapError] at h
      | ok updated =>
        simp only [hupdate, Except.mapError, pure, Except.pure, Except.ok.injEq, Prod.mk.injEq] at h
        obtain ⟨rfl, rfl⟩ := h
        exact ⟨f, updated.2, rfl, hupdate, rfl⟩

end Library

end ReadLater
