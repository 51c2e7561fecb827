import ReadLater.Proofs.Preview
import ReadLater.Proofs.Totality

/-!
# Runs of bulk requests

What a bulk request does to each item, whichever its action is, and the library after a sequence of
requests. Adding labels changes nothing but the names of labels; the other actions write their
columns to the items that they reach.
-/

namespace ReadLater

/-- The item without the names of its labels. -/
def Item.unlabelled (i : Item) : Item :=
  { i with labelNames := [] }

namespace Library

variable {l after : Library} {clock : Time.Instant} {s : SearchSettings} {now : Time.Moment}
  {b : BulkRequest} {f : Filter} {result : BulkResult} {labelIds : List String}

lemma unlabelled_nameItem (itemId name : String) (items : List Item) :
    (nameItem itemId name items).map Item.unlabelled = items.map Item.unlabelled := by
  induction items with
  | nil => rfl
  | cons i rest ih =>
    rw [nameItem]
    by_cases hid : i.id = itemId
    · rw [if_pos hid, List.map_cons, List.map_cons]
      split <;> rfl
    · rw [if_neg hid, List.map_cons, List.map_cons, ih]

lemma unlabelled_insertLink (l : Library) (link : LabelLink) :
    (l.insertLink link).items.map Item.unlabelled = l.items.map Item.unlabelled := by
  unfold insertLink
  by_cases hlinked : l.links.contains link = true
  · rw [if_pos hlinked]
  · rw [if_neg hlinked]
    dsimp only
    split
    · exact unlabelled_nameItem _ _ _
    · rfl

lemma unlabelled_insertLinks (l : Library) (links : List LabelLink) :
    (l.insertLinks links).1.items.map Item.unlabelled = l.items.map Item.unlabelled := by
  induction links generalizing l with
  | nil => rfl
  | cons link links ih => rw [insertLinks_cons, ih, unlabelled_insertLink]

/-- The user has all of the labels. -/
def HasLabels (l : Library) (userId : String) (labelIds : List String) : Prop :=
  ∀ labelId ∈ labelIds, ∃ label ∈ l.labels, label.userId = userId ∧ label.id = labelId

lemma mem_findLabels {userId : String} {label : Label} :
    label ∈ l.findLabels userId labelIds ↔
      label ∈ l.labels ∧ label.userId = userId ∧ label.id ∈ labelIds := by
  simp [findLabels]

lemma unknown_eq_none_iff {userId : String} :
    (labelIds.find? fun id => !(l.findLabels userId labelIds).any fun label => label.id == id) =
      none ↔ l.HasLabels userId labelIds := by
  simp only [List.find?_eq_none, Bool.not_eq_true, Bool.not_eq_false', List.any_eq_true,
    beq_iff_eq, mem_findLabels, HasLabels]
  refine forall₂_congr fun labelId hlabelId => ?_
  constructor
  · rintro ⟨label, ⟨hlabel, howner, -⟩, hid⟩
    exact ⟨label, hlabel, howner, hid⟩
  · rintro ⟨label, hlabel, howner, rfl⟩
    exact ⟨label, ⟨hlabel, howner, hlabelId⟩, rfl⟩

/-- Adding labels succeeds for labels of the user, and inserts the links that the matching items
miss. -/
theorem addLabels_eq_ok_iff {userId : String} :
    l.addLabels clock userId f labelIds = .ok (after, result) ↔
      l.HasLabels userId labelIds ∧ ∃ items, l.matching clock f = .ok items ∧
        let inserted := l.insertLinks
          (l.missingLinks (items.map (·.id)) (l.findLabels userId labelIds))
        after = inserted.1 ∧ result = ⟨items.length, inserted.2⟩ := by
  rw [← unknown_eq_none_iff]
  unfold addLabels matchingIds
  dsimp only
  cases labelIds.find? fun id =>
      !(l.findLabels userId labelIds).any fun label => label.id == id with
  | some missing => simp [throw, throwThe, MonadExceptOf.throw, bind, Except.bind]
  | none =>
    cases l.matching clock f with
    | error e => simp [bind, Except.bind, Except.mapError]
    | ok items =>
      simp [bind, Except.bind, pure, Except.pure, Except.mapError, eq_comm]

lemma unlabelled_addLabels {userId : String}
    (h : l.addLabels clock userId f labelIds = .ok (after, result)) :
    after.items.map Item.unlabelled = l.items.map Item.unlabelled := by
  obtain ⟨-, items, -, rfl, -⟩ := addLabels_eq_ok_iff.mp h
  exact unlabelled_insertLinks _ _

lemma bulk_of_addLabels (hadd : b.action = .addLabels labelIds) (hf : b.filter s now = .ok f) :
    l.bulk clock s b now = l.addLabels clock b.userId f labelIds := by
  unfold bulk
  simp only [hf, hadd, bind, Except.bind]

/-- The items after an action: it is applied to those that it reaches. -/
def itemsAfter (l : Library) (clock : Time.Instant) (f : Filter) (a : BulkAction)
    (now : Time.Instant) : List Item :=
  l.items.map fun i => if l.Reaches clock f i then a.written now i else i

/-- The ids of the accepted items, each once. -/
def acceptedIds (l : Library) (clock : Time.Instant) (f : Filter) : List String :=
  ((l.items.filter (f.passes clock)).map (·.id)).eraseDups

lemma bulk_of_filter_error {e : RequestError} (h : b.filter s now = .error e) :
    l.bulk clock s b now = .error e := by
  unfold bulk
  rw [h]
  rfl

lemma exists_filter_of_bulk (h : l.bulk clock s b now = .ok (after, result)) :
    ∃ f, b.filter s now = .ok f := by
  cases hf : b.filter s now with
  | error e =>
    rw [bulk_of_filter_error hf] at h
    cases h
  | ok f => exact ⟨f, rfl⟩

theorem bulk_of_filter (haction : ∀ labelIds, b.action ≠ .addLabels labelIds)
    (h : b.filter s now = .ok f) :
    l.bulk clock s b now =
      .ok ({ l with items := l.itemsAfter clock f b.action now.instant },
        ⟨(l.acceptedIds clock f).length, (l.acceptedIds clock f).length⟩) := by
  obtain ⟨changes, hchanges, hwritten⟩ := BulkAction.exists_changes haction now.instant
  obtain ⟨items, hitems⟩ := exists_matching (BulkRequest.evaluable_of_filter h) l clock
  have hcount : l.acceptedIds clock f = (items.map (·.id)).eraseDups := by
    rw [acceptedIds, (matching_eq_ok_iff.mp hitems).2]
  have hwrite : l.itemsAfter clock f b.action now.instant =
      l.items.map fun i => if l.Reaches clock f i then changes.apply i else i := by
    simp only [itemsAfter, hwritten]
  have hupdate : l.update clock f changes =
      .ok ({ l with items := l.itemsAfter clock f b.action now.instant },
        (l.acceptedIds clock f).length) :=
    update_eq_ok_iff.mpr ⟨items, hitems, by rw [hcount], by rw [hwrite]⟩
  unfold bulk
  simp only [h, hchanges, Option.getD_some, hupdate, Except.mapError, bind, Except.bind]
  rfl

/-- Whatever the action of a successful request is, up to the names of labels it is applied to the
items that it reaches. -/
theorem bulk_items (h : l.bulk clock s b now = .ok (after, result)) :
    ∃ f, b.filter s now = .ok f ∧ after.items.map Item.unlabelled =
      (l.itemsAfter clock f b.action now.instant).map Item.unlabelled := by
  obtain ⟨f, hf⟩ := exists_filter_of_bulk h
  refine ⟨f, hf, ?_⟩
  by_cases hadd : ∃ labelIds, b.action = .addLabels labelIds
  · obtain ⟨labelIds, hadd⟩ := hadd
    have hsame : l.itemsAfter clock f b.action now.instant = l.items := by
      simp [itemsAfter, hadd, BulkAction.written]
    rw [bulk_of_addLabels hadd hf] at h
    rw [hsame]
    exact unlabelled_addLabels h
  · have haction : ∀ labelIds, b.action ≠ .addLabels labelIds :=
      fun labelIds heq => hadd ⟨labelIds, heq⟩
    rw [bulk_of_filter haction hf] at h
    cases h
    rfl

end Library

/-- A bulk request, with the settings of the service, the clock of the library and the time of the
caller. -/
structure BulkCall where
  settings : SearchSettings := {}
  clock : Time.Instant
  now : Time.Moment
  request : BulkRequest

namespace BulkCall

/-- The items that the request is about. -/
def filter (c : BulkCall) : Except RequestError Filter :=
  c.request.filter c.settings c.now

end BulkCall

namespace Library

variable {l : Library} {c : BulkCall} {f : Filter}

/-- The library after a request; one that fails leaves it alone. -/
def afterBulk (l : Library) (c : BulkCall) : Library :=
  match l.bulk c.clock c.settings c.request c.now with
  | .ok (after, _) => after
  | .error _ => l

def afterBulks (l : Library) (calls : List BulkCall) : Library :=
  calls.foldl afterBulk l

/-- A request either fails and leaves the items alone, or it applies its action. -/
lemma afterBulk_cases (l : Library) (c : BulkCall) :
    l.afterBulk c = l ∨ ∃ f, c.filter = .ok f ∧ (l.afterBulk c).items.map Item.unlabelled =
      (l.itemsAfter c.clock f c.request.action c.now.instant).map Item.unlabelled := by
  cases hbulk : l.bulk c.clock c.settings c.request c.now with
  | error e =>
    refine .inl ?_
    rw [afterBulk, hbulk]
  | ok answer =>
    have hafter : l.afterBulk c = answer.1 := by rw [afterBulk, hbulk]
    rw [hafter]
    exact .inr (bulk_items hbulk)

lemma afterBulk_of_filter (haction : ∀ labelIds, c.request.action ≠ .addLabels labelIds)
    (h : c.filter = .ok f) :
    l.afterBulk c =
      { l with items := l.itemsAfter c.clock f c.request.action c.now.instant } := by
  rw [afterBulk, bulk_of_filter haction h]

lemma exists_of_mem_afterBulk {i : Item} (hi : i ∈ (l.afterBulk c).items) :
    ∃ j ∈ l.items, i.unlabelled = j.unlabelled ∨ ∃ f, c.filter = .ok f ∧
      l.Reaches c.clock f j ∧
        i.unlabelled = (c.request.action.written c.now.instant j).unlabelled := by
  rcases l.afterBulk_cases c with hsame | ⟨f, hf, hitems⟩
  · rw [hsame] at hi
    exact ⟨i, hi, .inl rfl⟩
  · have hmem : i.unlabelled ∈ (l.afterBulk c).items.map Item.unlabelled :=
      List.mem_map_of_mem hi
    rw [hitems, itemsAfter, List.map_map] at hmem
    obtain ⟨j, hj, hij⟩ := List.mem_map.mp hmem
    refine ⟨j, hj, ?_⟩
    dsimp only [Function.comp_apply] at hij
    split_ifs at hij with hreached
    · exact .inr ⟨f, hf, hreached, hij.symm⟩
    · exact .inl hij.symm

lemma ids_afterBulk (l : Library) (c : BulkCall) :
    (l.afterBulk c).items.map (·.id) = l.items.map (·.id) := by
  rcases l.afterBulk_cases c with hsame | ⟨f, -, hitems⟩
  · rw [hsame]
  · have hids := congrArg (List.map (·.id)) hitems
    rw [List.map_map, List.map_map, itemsAfter, List.map_map] at hids
    refine hids.trans (List.map_congr_left fun i _ => ?_)
    dsimp only [Function.comp_apply, Item.unlabelled]
    split_ifs
    · exact c.request.action.written_id c.now.instant i
    · rfl

lemma afterBulks_concat (l : Library) (calls : List BulkCall) (c : BulkCall) :
    l.afterBulks (calls ++ [c]) = (l.afterBulks calls).afterBulk c :=
  List.foldl_concat ..

lemma ids_afterBulks (l : Library) (calls : List BulkCall) :
    (l.afterBulks calls).items.map (·.id) = l.items.map (·.id) := by
  induction calls generalizing l with
  | nil => rfl
  | cons c calls ih => exact (ih (l.afterBulk c)).trans (ids_afterBulk l c)

end Library

end ReadLater
