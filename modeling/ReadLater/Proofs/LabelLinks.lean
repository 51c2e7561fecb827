import ReadLater.Proofs.BulkRuns

/-!
# Links of labels

No write takes a link or the name of a label away. Inserting links adds those that are not there,
each once, and only touches the items that they name; after labels are added, every matched item is
linked to each of them.
-/

namespace ReadLater

/-- The item keeps its id, and the names of its labels with their order. -/
structure Item.GrowsTo (i j : Item) : Prop where
  id : j.id = i.id
  names : i.labelNames <+: j.labelNames

lemma Item.GrowsTo.refl (i : Item) : i.GrowsTo i :=
  ⟨rfl, List.prefix_refl _⟩

lemma Item.GrowsTo.trans {i j k : Item} (h : i.GrowsTo j) (h' : j.GrowsTo k) : i.GrowsTo k :=
  ⟨h'.id.trans h.id, h.names.trans h'.names⟩

lemma forall₂_trans {α : Type} {R S T : α → α → Prop} (h : ∀ a b c, R a b → S b c → T a c)
    {as bs cs : List α} (hR : List.Forall₂ R as bs) (hS : List.Forall₂ S bs cs) :
    List.Forall₂ T as cs := by
  induction hR generalizing cs with
  | nil =>
    cases hS
    exact .nil
  | cons hab _ ih =>
    cases hS with
    | cons hbc hrest => exact .cons (h _ _ _ hab hbc) (ih hrest)

lemma exists_of_forall₂ {α : Type} {R : α → α → Prop} {as bs : List α}
    (h : List.Forall₂ R as bs) {b : α} (hb : b ∈ bs) : ∃ a ∈ as, R a b := by
  induction h with
  | nil => cases hb
  | cons hab _ ih =>
    rcases List.mem_cons.mp hb with rfl | hrest
    · exact ⟨_, List.mem_cons_self, hab⟩
    · obtain ⟨a, ha, hR⟩ := ih hrest
      exact ⟨a, List.mem_cons_of_mem _ ha, hR⟩

/-- The labels stay, the items grow in their places, and links that were not there are added, each
once, behind the others. -/
structure Library.GrowsTo (l after : Library) : Prop where
  labels : after.labels = l.labels
  items : List.Forall₂ Item.GrowsTo l.items after.items
  links : ∃ added, after.links = l.links ++ added ∧ added.Nodup ∧ ∀ link ∈ added, link ∉ l.links

namespace Library

variable {l m after : Library} {clock : Time.Instant} {s : SearchSettings} {now : Time.Moment}
  {b : BulkRequest} {f : Filter} {result : BulkResult} {link : LabelLink} {itemIds : List String}
  {labels : List Label} {labelIds : List String}

namespace GrowsTo

lemma refl (l : Library) : l.GrowsTo l where
  labels := rfl
  items := List.forall₂_same.mpr fun i _ => .refl i
  links := ⟨[], (List.append_nil _).symm, List.nodup_nil, by simp⟩

lemma trans (h : l.GrowsTo m) (h' : m.GrowsTo after) : l.GrowsTo after where
  labels := h'.labels.trans h.labels
  items := forall₂_trans (fun _ _ _ hij hjk => hij.trans hjk) h.items h'.items
  links := by
    obtain ⟨added, hm, hnodup, hnew⟩ := h.links
    obtain ⟨added', hafter, hnodup', hnew'⟩ := h'.links
    rw [hm] at hafter hnew'
    refine ⟨added ++ added', by rw [hafter, List.append_assoc], ?_, ?_⟩
    · refine hnodup.append hnodup' fun x hx hx' => ?_
      exact hnew' x hx' (List.mem_append_right _ hx)
    · intro x hx
      rcases List.mem_append.mp hx with hfirst | hsecond
      · exact hnew x hfirst
      · exact fun hmem => hnew' x hsecond (List.mem_append_left _ hmem)

lemma ids (h : l.GrowsTo after) : after.items.map (·.id) = l.items.map (·.id) := by
  have hids : List.Forall₂ Eq (l.items.map (·.id)) (after.items.map (·.id)) := by
    rw [List.forall₂_map_left_iff, List.forall₂_map_right_iff]
    exact h.items.imp fun _ _ hitem => hitem.id.symm
  rw [List.forall₂_eq_eq_eq] at hids
  exact hids.symm

lemma prefix_links (h : l.GrowsTo after) : l.links <+: after.links := by
  obtain ⟨added, hlinks, -⟩ := h.links
  exact ⟨added, hlinks.symm⟩

lemma nodup_links (h : l.GrowsTo after) (hl : l.links.Nodup) : after.links.Nodup := by
  obtain ⟨added, hlinks, hnodup, hnew⟩ := h.links
  rw [hlinks]
  exact hl.append hnodup fun x hx hx' => hnew x hx' hx

end GrowsTo

lemma nameItem_growsTo (itemId name : String) (items : List Item) :
    List.Forall₂ Item.GrowsTo items (nameItem itemId name items) := by
  induction items with
  | nil => exact .nil
  | cons i rest ih =>
    rw [nameItem]
    split_ifs with hid hnamed
    · exact List.forall₂_same.mpr fun j _ => .refl j
    · refine .cons ⟨rfl, List.prefix_append _ _⟩ ?_
      exact List.forall₂_same.mpr fun j _ => .refl j
    · exact .cons (.refl i) ih

lemma mem_of_mem_nameItem {itemId name : String} {items : List Item} {j : Item}
    (hj : j ∈ nameItem itemId name items) (hid : j.id ≠ itemId) : j ∈ items := by
  induction items with
  | nil => cases hj
  | cons i rest ih =>
    rw [nameItem] at hj
    by_cases hi : i.id = itemId
    · rw [if_pos hi] at hj
      rcases List.mem_cons.mp hj with rfl | hrest
      · exact absurd (by split <;> exact hi) hid
      · exact List.mem_cons_of_mem _ hrest
    · rw [if_neg hi] at hj
      rcases List.mem_cons.mp hj with rfl | hrest
      · exact List.mem_cons_self
      · exact List.mem_cons_of_mem _ (ih hrest)

lemma insertLink_of_mem (h : link ∈ l.links) : l.insertLink link = l := by
  unfold insertLink
  rw [if_pos (List.contains_iff_mem.mpr h)]

lemma insertLink_of_not_mem (h : link ∉ l.links) :
    l.insertLink link =
      { l with
        items := match l.labels.find? fun label => label.id == link.labelId with
          | some label => nameItem link.itemId label.name l.items
          | none => l.items
        links := l.links ++ [link] } := by
  unfold insertLink
  exact if_neg fun hmem => h (List.contains_iff_mem.mp hmem)

lemma growsTo_insertLink (l : Library) (link : LabelLink) : l.GrowsTo (l.insertLink link) := by
  by_cases hlinked : link ∈ l.links
  · rw [insertLink_of_mem hlinked]
    exact .refl l
  · rw [insertLink_of_not_mem hlinked]
    refine ⟨rfl, ?_, [link], rfl, List.nodup_singleton link, by simpa using hlinked⟩
    dsimp only
    split
    · exact nameItem_growsTo _ _ _
    · exact List.forall₂_same.mpr fun i _ => .refl i

lemma mem_of_mem_insertLink {j : Item} (hj : j ∈ (l.insertLink link).items)
    (hid : j.id ≠ link.itemId) : j ∈ l.items := by
  by_cases hlinked : link ∈ l.links
  · rwa [insertLink_of_mem hlinked] at hj
  · rw [insertLink_of_not_mem hlinked] at hj
    dsimp only at hj
    split at hj
    · exact mem_of_mem_nameItem hj hid
    · exact hj

lemma mem_links_insertLink {x : LabelLink} :
    x ∈ (l.insertLink link).links ↔ x = link ∨ x ∈ l.links := by
  by_cases hlinked : link ∈ l.links
  · rw [insertLink_of_mem hlinked]
    constructor
    · exact .inr
    · rintro (rfl | hx)
      · exact hlinked
      · exact hx
  · rw [insertLink_of_not_mem hlinked]
    simp [or_comm]

theorem growsTo_insertLinks (l : Library) (links : List LabelLink) :
    l.GrowsTo (l.insertLinks links).1 := by
  induction links generalizing l with
  | nil => exact .refl l
  | cons link links ih =>
    rw [insertLinks_cons]
    exact (l.growsTo_insertLink link).trans (ih _)

lemma mem_of_mem_insertLinks {links : List LabelLink} {j : Item}
    (hj : j ∈ (l.insertLinks links).1.items) (hid : ∀ link ∈ links, j.id ≠ link.itemId) :
    j ∈ l.items := by
  induction links generalizing l with
  | nil => exact hj
  | cons link links ih =>
    rw [insertLinks_cons] at hj
    obtain ⟨hlink, hlinks⟩ := List.forall_mem_cons.mp hid
    exact mem_of_mem_insertLink (ih hj hlinks) hlink

theorem mem_links_insertLinks {links : List LabelLink} :
    link ∈ (l.insertLinks links).1.links ↔ link ∈ links ∨ link ∈ l.links := by
  induction links generalizing l with
  | nil => simp [insertLinks]
  | cons x links ih =>
    rw [insertLinks_cons, ih, mem_links_insertLink, List.mem_cons, or_left_comm, or_assoc]

theorem length_links_insertLinks (l : Library) (links : List LabelLink) :
    (l.insertLinks links).1.links.length = l.links.length + (l.insertLinks links).2 := by
  induction links generalizing l with
  | nil => rfl
  | cons link links ih =>
    have hone : (l.insertLink link).links.length =
        l.links.length + if l.links.contains link then 0 else 1 := by
      by_cases hlinked : link ∈ l.links
      · rw [insertLink_of_mem hlinked, if_pos (List.contains_iff_mem.mpr hlinked)]
        rfl
      · rw [insertLink_of_not_mem hlinked, if_neg fun h => hlinked (List.contains_iff_mem.mp h)]
        exact List.length_append
    rw [insertLinks_cons, ih, hone, Nat.add_assoc]

lemma mem_missingLinks : link ∈ l.missingLinks itemIds labels ↔
    link.itemId ∈ itemIds ∧ (∃ label ∈ labels, label.id = link.labelId) ∧ link ∉ l.links := by
  obtain ⟨labelId, itemId⟩ := link
  simp only [missingLinks, linksOf, List.mem_flatMap, List.mem_filter, List.mem_map,
    LabelLink.mk.injEq, Bool.not_eq_true', List.contains_eq_mem, decide_eq_false_iff_not,
    decide_eq_true_eq, not_and]
  constructor
  · rintro ⟨_, hitem, ⟨label, hlabel, rfl, rfl⟩, hmissing⟩
    exact ⟨hitem, ⟨label, hlabel, rfl⟩, fun hlinked => hmissing hlinked hitem⟩
  · rintro ⟨hitem, ⟨label, hlabel, rfl⟩, hmissing⟩
    exact ⟨itemId, hitem, ⟨label, hlabel, rfl, rfl⟩, fun hlinked => absurd hlinked hmissing⟩

lemma linked_insertLinks {label : Label} {itemId : String} (hlabel : label ∈ labels)
    (hitem : itemId ∈ itemIds) :
    ⟨label.id, itemId⟩ ∈ (l.insertLinks (l.missingLinks itemIds labels)).1.links := by
  rw [mem_links_insertLinks, mem_missingLinks]
  by_cases hlinked : ⟨label.id, itemId⟩ ∈ l.links
  · exact .inr hlinked
  · exact .inl ⟨hitem, ⟨label, hlabel, rfl⟩, hlinked⟩

lemma addLabels_of_bulk (hadd : b.action = .addLabels labelIds)
    (h : l.bulk clock s b now = .ok (after, result)) :
    ∃ f items, b.filter s now = .ok f ∧ l.matching clock f = .ok items ∧
      l.HasLabels b.userId labelIds ∧ result.matched = items.length ∧
      after = (l.insertLinks
        (l.missingLinks (items.map (·.id)) (l.findLabels b.userId labelIds))).1 ∧
      after.links.length = l.links.length + result.affected := by
  obtain ⟨f, hf⟩ := exists_filter_of_bulk h
  rw [bulk_of_addLabels hadd hf] at h
  obtain ⟨hhas, items, hmatching, rfl, rfl⟩ := addLabels_eq_ok_iff.mp h
  exact ⟨f, items, hf, hmatching, hhas, rfl, rfl, length_links_insertLinks _ _⟩

/-- The matched items are linked to the labels that are asked for. -/
lemma linked_of_bulk {items : List Item} (hadd : b.action = .addLabels labelIds)
    (h : l.bulk clock s b now = .ok (after, result)) (hf : b.filter s now = .ok f)
    (hmatching : l.matching clock f = .ok items) {itemId : String}
    (hitem : itemId ∈ items.map (·.id)) {labelId : String} (hlabelId : labelId ∈ labelIds) :
    ⟨labelId, itemId⟩ ∈ after.links := by
  obtain ⟨f', items', hf', hmatching', hhas, -, rfl, -⟩ := addLabels_of_bulk hadd h
  cases hf.symm.trans hf'
  cases hmatching.symm.trans hmatching'
  obtain ⟨label, hlabel, howner, rfl⟩ := hhas labelId hlabelId
  exact linked_insertLinks (mem_findLabels.mpr ⟨hlabel, howner, hlabelId⟩) hitem

lemma growsTo_update {changes : Changes} {n : Nat}
    (h : l.update clock f changes = .ok (after, n)) : l.GrowsTo after := by
  obtain ⟨items, -, -, rfl⟩ := update_eq_ok_iff.mp h
  refine ⟨rfl, ?_, [], (List.append_nil _).symm, List.nodup_nil, by simp⟩
  refine List.forall₂_map_right_iff.mpr (List.forall₂_same.mpr fun i _ => ?_)
  split_ifs
  · exact ⟨rfl, List.prefix_refl _⟩
  · exact .refl i

/-- A successful request has either added labels or made an update. -/
theorem bulk_cases (h : l.bulk clock s b now = .ok (after, result)) :
    (∃ labelIds, b.action = .addLabels labelIds) ∨
      ∃ changes f n, b.action.changes? now.instant = some changes ∧ b.filter s now = .ok f ∧
        l.update clock f changes = .ok (after, n) ∧ result = ⟨n, n⟩ := by
  by_cases hadd : ∃ labelIds, b.action = .addLabels labelIds
  · exact .inl hadd
  · have haction : ∀ labelIds, b.action ≠ .addLabels labelIds :=
      fun labelIds heq => hadd ⟨labelIds, heq⟩
    obtain ⟨changes, hchanges, -⟩ := BulkAction.exists_changes haction now.instant
    obtain ⟨f, n, hf, hupdate, hresult⟩ := update_of_bulk hchanges h
    exact .inr ⟨changes, f, n, hchanges, hf, hupdate, hresult⟩

theorem growsTo_bulk (h : l.bulk clock s b now = .ok (after, result)) : l.GrowsTo after := by
  rcases bulk_cases h with ⟨labelIds, hadd⟩ | ⟨changes, f, n, -, -, hupdate, -⟩
  · obtain ⟨f, items, -, -, -, -, rfl, -⟩ := addLabels_of_bulk hadd h
    exact growsTo_insertLinks _ _
  · exact growsTo_update hupdate

end Library

end ReadLater
