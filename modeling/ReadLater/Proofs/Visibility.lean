import ReadLater.Proofs.Requests
import ReadLater.Proofs.Trash

/-!
# What a user is shown

Every item that a search returns, that is counted, or that a bulk action writes to is one that the
user may be shown. The text of the query plays no part: a deleted item passes the baseline only if
the query opens the trash, and then the query is only true of items in it.
-/

namespace ReadLater

/-- The item is the user's own; it is pending or deleted only if such items are asked for, or if it
is still in the trash. -/
structure Item.ShownTo (i : Item) (userId : String) (v : Visibility) (clock : Time.Instant) :
    Prop where
  owner : i.userId = userId
  pending : i.state = .processing → v.includePending = true
  deleted : i.state = .deleted → v.includeDeleted = true ∨ i.Retained clock

namespace Compiled

variable {c : Compiled} {userId : String} {v : Visibility} {i : Item}

lemma owner_of_admits (h : c.admits userId v i = true) : i.userId = userId := by
  unfold admits at h
  rw [Bool.and_eq_true, beq_iff_eq] at h
  exact h.1

lemma not_hidden_of_admits (h : c.admits userId v i = true) : i.state ∉ v.hidden c.trash := by
  unfold admits at h
  rw [Bool.and_eq_true, List.all_eq_true] at h
  intro hhidden
  have hne := h.2 i.state hhidden
  rw [bne_self_eq_false] at hne
  cases hne

lemma state_ne_deleted_of_admits (h : c.admits userId v i = true) (htrash : c.trash = false)
    (hdeleted : v.includeDeleted = false) : i.state ≠ .deleted := by
  intro hstate
  apply not_hidden_of_admits h
  rw [hstate]
  simp [Visibility.hidden, hdeleted, htrash]

end Compiled

theorem Query.shownTo_of_accepts {options : CompileOptions} {q : Query} {c : Compiled}
    (h : q.compile options = .ok c) {userId : String} {v : Visibility} {clock : Time.Instant}
    {i : Item} (haccepts : (c.visibleTo userId v).accepts clock i = .ok true) :
    i.ShownTo userId v clock := by
  obtain ⟨hadmits, hquery⟩ :=
    (Compiled.visibleTo_accepts_iff userId v (numbered_of_compile h) clock i).mp haccepts
  refine ⟨Compiled.owner_of_admits hadmits, fun hstate => ?_, fun hstate => ?_⟩
  · by_contra hpending
    apply Compiled.not_hidden_of_admits hadmits
    rw [hstate]
    simp [Visibility.hidden, hpending]
  · by_cases htrash : c.trash = true
    · exact .inr (retained_of_trash h htrash hquery)
    · refine .inl ?_
      by_contra hdeleted
      exact Compiled.state_ne_deleted_of_admits hadmits (Bool.eq_false_iff.mpr htrash)
        (Bool.eq_false_iff.mpr hdeleted) hstate

/-- The query opens the trash. -/
def SearchSettings.OpensTrash (s : SearchSettings) (query : String) (useFolders : Bool)
    (now : Time.Moment) : Prop :=
  ∃ c, s.compile query useFolders now = .ok c ∧ c.trash = true

lemma SearchSettings.not_opensTrash {s : SearchSettings} {query : String} {useFolders : Bool}
    {now : Time.Moment} {c : Compiled} (h : s.compile query useFolders now = .ok c)
    (htrash : c.trash = false) : ¬s.OpensTrash query useFolders now := by
  rintro ⟨d, hd, hopens⟩
  cases h.symm.trans hd
  rw [htrash] at hopens
  cases hopens

lemma SearchSettings.state_ne_deleted {s : SearchSettings} {query : String} {useFolders : Bool}
    {now : Time.Moment} {c : Compiled} (h : s.compile query useFolders now = .ok c)
    (hshut : ¬s.OpensTrash query useFolders now) {userId : String} {v : Visibility}
    (hdeleted : v.includeDeleted = false) {clock : Time.Instant} {i : Item}
    (haccepts : (c.visibleTo userId v).accepts clock i = .ok true) : i.state ≠ .deleted := by
  have htrash : c.trash = false := Bool.eq_false_iff.mpr fun hopens => hshut ⟨c, h, hopens⟩
  obtain ⟨q, -, hq⟩ := Query.compile_of_settings h
  obtain ⟨hadmits, -⟩ :=
    (Compiled.visibleTo_accepts_iff userId v (Query.numbered_of_compile hq) clock i).mp haccepts
  exact Compiled.state_ne_deleted_of_admits hadmits htrash hdeleted

/-- The search neither opens the trash nor includes deleted items. -/
structure SearchRequest.SkipsTrash (r : SearchRequest) (s : SearchSettings) (now : Time.Moment) :
    Prop where
  includeDeleted : r.includeDeleted = false
  shut : ¬s.OpensTrash r.query r.useFolders now

lemma SearchRequest.SkipsTrash.state_ne_deleted {r : SearchRequest} {s : SearchSettings}
    {now : Time.Moment} (h : r.SkipsTrash s now) {l : Library} {clock : Time.Instant} {page : Page}
    (hpage : l.search clock s r now = .ok page) {row : Row} (hrow : row ∈ page.rows) :
    row.item ∈ l.items ∧ row.item.state ≠ .deleted := by
  obtain ⟨selection, hselection, hselect, -⟩ := Library.search_eq_ok_iff.mp hpage
  obtain ⟨hmem, haccepts⟩ := Library.accepts_of_select hselect hrow
  obtain ⟨offset, c, -, hcompile, rfl⟩ := selection_eq_ok_iff.mp hselection
  exact ⟨hmem, SearchSettings.state_ne_deleted hcompile h.shut h.includeDeleted haccepts⟩

namespace Library

variable {l : Library} {clock : Time.Instant} {s : SearchSettings} {now : Time.Moment}

lemma shownTo_of_selection {r : SearchRequest} {selection : Selection}
    (h : r.selection s now = .ok selection) {i : Item}
    (haccepts : selection.filter.accepts clock i = .ok true) :
    i.ShownTo r.userId r.visibility clock := by
  obtain ⟨offset, c, -, hcompile, rfl⟩ := SearchRequest.selection_eq_ok_iff.mp h
  obtain ⟨q, -, hq⟩ := Query.compile_of_settings hcompile
  exact Query.shownTo_of_accepts hq haccepts

lemma shownTo_of_bulk {b : BulkRequest} {f : Filter} (h : b.filter s now = .ok f) {i : Item}
    (haccepts : f.accepts clock i = .ok true) : i.ShownTo b.userId {} clock := by
  obtain ⟨c, hcompile, rfl⟩ := BulkRequest.filter_eq_ok_iff.mp h
  obtain ⟨q, -, hq⟩ := Query.compile_of_settings hcompile
  exact Query.shownTo_of_accepts hq haccepts

/-- Every row of a page, every counted item and every item that a bulk action is about belongs to
the library or is evaluated in it, and may be shown to the user. -/
theorem results_shownTo (l : Library) (clock : Time.Instant) (s : SearchSettings)
    (now : Time.Moment) :
    (∀ (r : SearchRequest) (page : Page), l.search clock s r now = .ok page →
      ∀ row ∈ page.rows, row.item ∈ l.items ∧ row.item.ShownTo r.userId r.visibility clock) ∧
    (∀ (r : SearchRequest) (n : Nat), l.countMatches clock s r now = .ok n →
      ∃ selection items, r.selection s now = .ok selection ∧
        l.matching clock selection.filter = .ok items ∧ n = items.length ∧
        ∀ i ∈ items, i ∈ l.items ∧ i.ShownTo r.userId r.visibility clock) ∧
    ∀ (b : BulkRequest) (f : Filter) (i : Item), b.filter s now = .ok f →
      f.accepts clock i = .ok true → i.ShownTo b.userId {} clock := by
  refine ⟨fun r page h row hrow => ?_, fun r n h => ?_, fun b f i h => shownTo_of_bulk h⟩
  · obtain ⟨selection, hselection, hselect, -⟩ := search_eq_ok_iff.mp h
    obtain ⟨hmem, haccepts⟩ := accepts_of_select hselect hrow
    exact ⟨hmem, shownTo_of_selection hselection haccepts⟩
  · obtain ⟨selection, items, hselection, hmatching, hn⟩ := countMatches_eq_ok_iff.mp h
    refine ⟨selection, items, hselection, hmatching, hn, fun i hi => ?_⟩
    obtain ⟨hmem, haccepts⟩ := accepts_of_matching hmatching hi
    exact ⟨hmem, shownTo_of_selection hselection haccepts⟩

/-- `in:trash` finds a deleted item, but neither one that was deleted long ago nor that of another
user. -/
theorem results_shownTo_in_trash :
    let clock : Time.Instant := .ofSeconds 1710498600
    let i := { Item.saved "a" "u1" "Notes" .epoch with
      state := .deleted, deletedAt := some (.ofSeconds 1710000000) }
    let old := { i with id := "b", deletedAt := some (.ofSeconds 1700000000) }
    let l : Library := { items := [i, old, { i with id := "c", userId := "u2" }] }
    let r : SearchRequest := { userId := "u1", query := "in:trash" }
    let b : BulkRequest := ⟨"u1", "in:trash", .archive, false⟩
    (∃ page, l.search clock {} r ⟨clock, 0⟩ = .ok page ∧ page.rows.map (·.item) = [i] ∧
      ∀ row ∈ page.rows, row.item ∈ l.items ∧ row.item.ShownTo "u1" {} clock) ∧
    (l.countMatches clock {} r ⟨clock, 0⟩ = .ok 1 ∧
      ∃ selection items, r.selection {} ⟨clock, 0⟩ = .ok selection ∧
        l.matching clock selection.filter = .ok items ∧ 1 = items.length ∧
        ∀ j ∈ items, j ∈ l.items ∧ j.ShownTo "u1" {} clock) ∧
    ∃ f, b.filter {} ⟨clock, 0⟩ = .ok f ∧ f.accepts clock i = .ok true ∧
      i.ShownTo "u1" {} clock := by
  intro clock i old l r b
  obtain ⟨hsearch, hcount, hbulk⟩ := results_shownTo l clock {} ⟨clock, 0⟩
  have hrows : (l.search clock {} r ⟨clock, 0⟩).toOption.map (fun p => p.rows.map (·.item)) =
      some [i] := by decide +kernel
  have hone : l.countMatches clock {} r ⟨clock, 0⟩ = .ok 1 := by decide +kernel
  have hfilter : (b.filter {} ⟨clock, 0⟩).toOption.map (fun f => f.accepts clock i) =
      some (.ok true) := by decide +kernel
  obtain ⟨page, hpage, hitems⟩ := Except.exists_of_toOption hrows
  obtain ⟨f, hf, haccepts⟩ := Except.exists_of_toOption hfilter
  exact ⟨⟨page, hpage, hitems, hsearch r page hpage⟩, ⟨hone, hcount r 1 hone⟩,
    f, hf, haccepts, hbulk b f i hf haccepts⟩

end Library

end ReadLater
