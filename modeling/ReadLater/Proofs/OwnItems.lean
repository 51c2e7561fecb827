import ReadLater.Proofs.BulkRuns
import ReadLater.Proofs.Ties

/-!
# A user sees the user's own items

Every filter of a request asks for the owner, so that it accepts the same items in two libraries
that hold the same items of the user. What a search shows, what is counted, and what an action does
to the items of the user follows from these.
-/

namespace ReadLater

/-- The filter accepts nothing but items of the user. -/
def Filter.KeepsTo (f : Filter) (userId : String) : Prop :=
  ∀ (clock : Time.Instant) (i : Item), f.accepts clock i = .ok true → i.userId = userId

namespace Library

/-- The items of a user, in storage order. -/
def itemsOf (l : Library) (userId : String) : List Item :=
  l.items.filter fun i => i.userId == userId

variable {l l' : Library} {clock : Time.Instant} {s : SearchSettings} {now : Time.Moment}
  {userId : String} {f : Filter}

lemma filter_itemsOf (hf : f.KeepsTo userId) (l : Library) (clock : Time.Instant) :
    (l.itemsOf userId).filter (f.passes clock) = l.items.filter (f.passes clock) := by
  rw [itemsOf, List.filter_filter]
  refine List.filter_congr fun i _ => ?_
  by_cases hpasses : f.passes clock i = true
  · have howner : i.userId = userId := hf clock i (Filter.passes_iff.mp hpasses)
    rw [hpasses, howner, beq_self_eq_true]
    rfl
  · rw [Bool.eq_false_iff.mpr hpasses, Bool.false_and]

section SameItems

variable (hown : l.itemsOf userId = l'.itemsOf userId) (hf : f.KeepsTo userId)

include hown hf

lemma filter_eq_of_itemsOf (clock : Time.Instant) :
    l.items.filter (f.passes clock) = l'.items.filter (f.passes clock) := by
  rw [← filter_itemsOf hf l clock, ← filter_itemsOf hf l' clock, hown]

lemma reaches_iff_of_itemsOf (i : Item) : l.Reaches clock f i ↔ l'.Reaches clock f i := by
  have hsame := filter_eq_of_itemsOf hown hf clock
  have hreaches : ∀ m : Library, m.Reaches clock f i ↔
      ∃ j ∈ m.items.filter (f.passes clock), j.id = i.id := by
    intro m
    simp only [Reaches, List.mem_filter, Filter.passes_iff]
    constructor
    · rintro ⟨j, hj, hid, haccepts⟩
      exact ⟨j, ⟨hj, haccepts⟩, hid⟩
    · rintro ⟨j, ⟨hj, haccepts⟩, hid⟩
      exact ⟨j, hj, hid, haccepts⟩
  rw [hreaches l, hreaches l', hsame]

lemma matching_of_itemsOf (hevaluable : f.Evaluable) :
    l.matching clock f = l'.matching clock f := by
  obtain ⟨items, hitems⟩ := exists_matching hevaluable l clock
  obtain ⟨items', hitems'⟩ := exists_matching hevaluable l' clock
  rw [hitems, hitems', (matching_eq_ok_iff.mp hitems).2, (matching_eq_ok_iff.mp hitems').2,
    filter_eq_of_itemsOf hown hf]

end SameItems

lemma itemsOf_itemsAfter (l : Library) (clock : Time.Instant) (f : Filter) (a : BulkAction)
    (now : Time.Instant) (userId : String) :
    itemsOf { l with items := l.itemsAfter clock f a now } userId =
      (l.itemsOf userId).map fun i => if l.Reaches clock f i then a.written now i else i := by
  unfold itemsOf itemsAfter
  rw [List.filter_map]
  congr 1
  refine List.filter_congr fun i _ => ?_
  dsimp only [Function.comp_apply]
  split_ifs
  · rw [BulkAction.written_userId]
  · rfl

lemma keepsTo_of_selection {r : SearchRequest} {selection : Selection}
    (h : r.selection s now = .ok selection) : selection.filter.KeepsTo r.userId :=
  fun _ _ haccepts => (shownTo_of_selection h haccepts).owner

lemma keepsTo_of_filter {b : BulkRequest} (h : b.filter s now = .ok f) : f.KeepsTo b.userId :=
  fun _ _ haccepts => (shownTo_of_bulk h haccepts).owner

lemma search_of_itemsOf {r : SearchRequest} (hown : l.itemsOf r.userId = l'.itemsOf r.userId) :
    l.search clock s r now = l'.search clock s r now := by
  cases hselection : r.selection s now with
  | error e => rw [search_of_selection_error hselection, search_of_selection_error hselection]
  | ok selection =>
    cases hkey : selection.unknownKey? with
    | some key => rw [search_of_unknownKey hselection hkey, search_of_unknownKey hselection hkey]
    | none =>
      have haccepted : l.accepted clock selection = l'.accepted clock selection :=
        filter_eq_of_itemsOf hown (keepsTo_of_selection hselection) clock
      rw [search_eq_pageOf hselection hkey, search_eq_pageOf hselection hkey, sortedRows,
        sortedRows, haccepted]

lemma countMatches_of_itemsOf {r : SearchRequest}
    (hown : l.itemsOf r.userId = l'.itemsOf r.userId) :
    l.countMatches clock s r now = l'.countMatches clock s r now := by
  unfold countMatches count
  cases hselection : r.selection s now with
  | error e => rfl
  | ok selection =>
    have hmatching : l.matching clock selection.filter = l'.matching clock selection.filter :=
      matching_of_itemsOf hown (keepsTo_of_selection hselection)
        (SearchRequest.evaluable_of_selection hselection)
    simp only [bind, Except.bind, hmatching]

lemma bulk_of_itemsOf {b : BulkRequest} (hown : l.itemsOf b.userId = l'.itemsOf b.userId)
    (haction : ∀ labelIds, b.action ≠ .addLabels labelIds) :
    ((l.bulk clock s b now).map fun answer => (answer.2, answer.1.itemsOf b.userId)) =
      (l'.bulk clock s b now).map fun answer => (answer.2, answer.1.itemsOf b.userId) := by
  cases hf : b.filter s now with
  | error e => rw [bulk_of_filter_error hf, bulk_of_filter_error hf]
  | ok f =>
    have hkeeps := keepsTo_of_filter hf
    have hids : l.acceptedIds clock f = l'.acceptedIds clock f := by
      rw [acceptedIds, acceptedIds, filter_eq_of_itemsOf hown hkeeps]
    have hitems :
        itemsOf { l with items := l.itemsAfter clock f b.action now.instant } b.userId =
          itemsOf { l' with items := l'.itemsAfter clock f b.action now.instant } b.userId := by
      simp only [itemsOf_itemsAfter, hown, reaches_iff_of_itemsOf hown hkeeps]
    rw [bulk_of_filter haction hf, bulk_of_filter haction hf, hids]
    simp only [Except.map, hitems]

/-- In two libraries that hold the same items of a user, in one order, every search of the user
gives the same page or the same error, every count the same number, and every action that assigns
columns the same response and the same items of the user. -/
theorem requests_of_own_items (hown : l.itemsOf userId = l'.itemsOf userId)
    (clock : Time.Instant) (s : SearchSettings) (now : Time.Moment) :
    (∀ r : SearchRequest, r.userId = userId →
      l.search clock s r now = l'.search clock s r now ∧
      l.countMatches clock s r now = l'.countMatches clock s r now) ∧
    ∀ b : BulkRequest, b.userId = userId → (∀ labelIds, b.action ≠ .addLabels labelIds) →
      ((l.bulk clock s b now).map fun answer => (answer.2, answer.1.itemsOf userId)) =
        (l'.bulk clock s b now).map fun answer => (answer.2, answer.1.itemsOf userId) := by
  constructor
  · rintro r rfl
    exact ⟨search_of_itemsOf hown, countMatches_of_itemsOf hown⟩
  · rintro b rfl haction
    exact bulk_of_itemsOf hown haction

/-- The user's only item among the items and labels of another user, who has an item of the same
id in one of the two libraries. -/
theorem requests_of_own_items_among_others :
    let now : Time.Instant := .ofSeconds 1710498600
    let i := Item.saved "a" "u1" "Notes" .epoch
    let l : Library := { items := [i, Item.saved "b" "u2" "Notes" .epoch] }
    let l' : Library := {
      items := [Item.saved "a" "u2" "Essays" now, i]
      labels := [⟨"label", "u2", "done"⟩]
      links := [⟨"label", "a"⟩] }
    let r : SearchRequest := { userId := "u1", query := "notes -label:done", includeTotal := true }
    let b : BulkRequest := ⟨"u1", "notes", .archive, false⟩
    let archived := { i with state := .archived, archivedAt := some now, updatedAt := some now }
    l.itemsOf "u1" = l'.itemsOf "u1" ∧
      (∃ page, l.search now {} r ⟨now, 0⟩ = .ok page ∧ page.total = some 1 ∧
        l'.search now {} r ⟨now, 0⟩ = .ok page) ∧
      l'.countMatches now {} r ⟨now, 0⟩ = .ok 1 ∧
      (l'.bulk now {} b ⟨now, 0⟩).map (fun answer => (answer.2, answer.1.itemsOf "u1")) =
        .ok (⟨1, 1⟩, [archived]) := by
  intro now i l l' r b archived
  have hown : l.itemsOf "u1" = l'.itemsOf "u1" := by decide +kernel
  have htotal : (l.search now {} r ⟨now, 0⟩).toOption.map (·.total) = some (some 1) := by
    decide +kernel
  have hcount : l.countMatches now {} r ⟨now, 0⟩ = .ok 1 := by decide +kernel
  have hanswer : ((l.bulk now {} b ⟨now, 0⟩).toOption.map fun answer =>
      (answer.2, answer.1.itemsOf "u1")) = some (⟨1, 1⟩, [archived]) := by decide +kernel
  obtain ⟨page, hpage, hone⟩ := Except.exists_of_toOption htotal
  obtain ⟨⟨after, result⟩, hbulk, hitems⟩ := Except.exists_of_toOption hanswer
  obtain ⟨hreads, hwrites⟩ := requests_of_own_items hown now {} ⟨now, 0⟩
  obtain ⟨hsearch, hnumber⟩ := hreads r rfl
  refine ⟨hown, ⟨page, hpage, hone, ?_⟩, ?_, ?_⟩
  · rw [← hsearch, hpage]
  · rw [← hnumber, hcount]
  · rw [← hwrites b rfl (fun _ => by simp [b]), hbulk, ← hitems]
    rfl

end Library

end ReadLater
