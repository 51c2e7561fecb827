import ReadLater.Proofs.Interleaving

/-!
# Adding labels again

Adding labels may change what a query for labels matches, so that the same request need not match
the same items again. What it matches afterwards has all of the labels already: either it was named
by a link that has been added, or it is as it was and matched before.
-/

namespace ReadLater

namespace Library

variable {l after : Library} {clock : Time.Instant} {s : SearchSettings} {now : Time.Moment}
  {b : BulkRequest} {f : Filter} {result : BulkResult} {items : List Item} {labels : List Label}
  {labelIds : List String}

theorem linked_of_matches_again (hmatching : l.matching clock f = .ok items)
    (hafter : after = (l.insertLinks (l.missingLinks (items.map (·.id)) labels)).1)
    {j : Item} (hj : j ∈ after.items) (haccepts : f.accepts clock j = .ok true) {label : Label}
    (hlabel : label ∈ labels) : ⟨label.id, j.id⟩ ∈ after.links := by
  rw [hafter]
  by_cases hnamed : ∃ link ∈ l.missingLinks (items.map (·.id)) labels, j.id = link.itemId
  · obtain ⟨link, hlink, hid⟩ := hnamed
    obtain ⟨hitem, -, -⟩ := mem_missingLinks.mp hlink
    exact linked_insertLinks hlabel (hid ▸ hitem)
  · have hunnamed : ∀ link ∈ l.missingLinks (items.map (·.id)) labels, j.id ≠ link.itemId :=
      fun link hlink hid => hnamed ⟨link, hlink, hid⟩
    rw [hafter] at hj
    have hthere : j ∈ l.items := mem_of_mem_insertLinks hj hunnamed
    have hmatched : j ∈ items := by
      rw [(matching_eq_ok_iff.mp hmatching).2]
      exact List.mem_filter.mpr ⟨hthere, Filter.passes_iff.mpr haccepts⟩
    exact linked_insertLinks hlabel (List.mem_map_of_mem hmatched)

lemma missingLinks_again {items' : List Item} (hmatching : l.matching clock f = .ok items)
    (hafter : after = (l.insertLinks (l.missingLinks (items.map (·.id)) labels)).1)
    (hagain : after.matching clock f = .ok items') :
    after.missingLinks (items'.map (·.id)) labels = [] := by
  refine List.eq_nil_iff_forall_not_mem.mpr fun link hlink => ?_
  obtain ⟨hitem, ⟨label, hlabel, hlabelId⟩, hmissing⟩ := mem_missingLinks.mp hlink
  obtain ⟨j, hj, hid⟩ := List.mem_map.mp hitem
  obtain ⟨hmem, haccepts⟩ := accepts_of_matching hagain hj
  have hlinked := linked_of_matches_again hmatching hafter hmem haccepts hlabel
  rw [hid, hlabelId] at hlinked
  exact hmissing hlinked

/-- A request for labels that has succeeded succeeds again, and adds nothing. -/
theorem bulk_again (hadd : b.action = .addLabels labelIds)
    (h : l.bulk clock s b now = .ok (after, result)) :
    ∃ matched, after.bulk clock s b now = .ok (after, ⟨matched, 0⟩) := by
  have hlabels : after.labels = l.labels := (growsTo_bulk h).labels
  obtain ⟨f, items, hf, hmatching, hhas, -, hafter, -⟩ := addLabels_of_bulk hadd h
  obtain ⟨items', hagain⟩ := exists_matching (BulkRequest.evaluable_of_filter hf) after clock
  have hfound : after.findLabels b.userId labelIds = l.findLabels b.userId labelIds := by
    rw [findLabels, findLabels, hlabels]
  have hnone := missingLinks_again hmatching hafter hagain
  refine ⟨items'.length, ?_⟩
  rw [bulk_of_addLabels hadd hf]
  refine addLabels_eq_ok_iff.mpr ⟨by rwa [HasLabels, hlabels], items', hagain, ?_⟩
  rw [hfound, hnone]
  exact ⟨rfl, rfl⟩

/-- If not all labels are those of the user, the request fails with one that is not. -/
theorem bulk_of_unknown_label (hadd : b.action = .addLabels labelIds)
    (hf : b.filter s now = .ok f) (hhas : ¬ l.HasLabels b.userId labelIds) :
    ∃ labelId ∈ labelIds, (∀ label ∈ l.labels, label.userId = b.userId → label.id ≠ labelId) ∧
      l.bulk clock s b now = .error (.unknownLabel labelId) := by
  cases hfind : labelIds.find? fun id =>
      !(l.findLabels b.userId labelIds).any fun label => label.id == id with
  | none => exact absurd (unknown_eq_none_iff.mp hfind) hhas
  | some labelId =>
    have hmem := List.mem_of_find?_eq_some hfind
    refine ⟨labelId, hmem, ?_, ?_⟩
    · intro label hlabel howner hid
      have hfound : label ∈ l.findLabels b.userId labelIds :=
        mem_findLabels.mpr ⟨hlabel, howner, hid ▸ hmem⟩
      have hunknown := List.find?_some hfind
      simp only [Bool.not_eq_true', List.any_eq_false, beq_iff_eq] at hunknown
      exact hunknown label hfound hid
    · rw [bulk_of_addLabels hadd hf, addLabels]
      dsimp only
      rw [hfind]
      rfl

end Library

/-- At no time does a request that fails change the library. -/
theorem Service.library_of_error {c : BulkCall} {l : Library} {e : RequestError}
    (h : l.bulk c.clock c.settings c.request c.now = .error e) (schedule : List Nat) :
    ((Service.begin l [c]).run schedule).library = l := by
  obtain ⟨m, stage, hrun, hsame⟩ := run_alone c l .begun schedule
  have hfails : c.outcome l .begun = (l, .error e) := by
    rw [BulkCall.outcome, h]
  have hbegun : Service.begin l [c] = ⟨l, [⟨c, .begun⟩]⟩ := rfl
  rw [hbegun, hrun]
  exact (BulkCall.eq_of_outcome_error (hsame.trans hfails)).symm

namespace Library

/-- A request for labels that has succeeded, whatever its query, succeeds again without adding a
link and leaves the library as it is. One that names a label that is not one of the user fails, and
at no time does a failing request change the library. -/
theorem labels_added_once {c : BulkCall} {labelIds : List String}
    (hadd : c.request.action = .addLabels labelIds) (l : Library) :
    (∀ after result, l.bulk c.clock c.settings c.request c.now = .ok (after, result) →
      ∃ matched, after.bulk c.clock c.settings c.request c.now = .ok (after, ⟨matched, 0⟩)) ∧
    (∀ f, c.filter = .ok f → ¬ l.HasLabels c.request.userId labelIds →
      ∃ labelId ∈ labelIds,
        (∀ label ∈ l.labels, label.userId = c.request.userId → label.id ≠ labelId) ∧
        l.bulk c.clock c.settings c.request c.now = .error (.unknownLabel labelId)) ∧
    ∀ e, l.bulk c.clock c.settings c.request c.now = .error e →
      ∀ schedule, ((Service.begin l [c]).run schedule).library = l :=
  ⟨fun _ _ hbulk => bulk_again hadd hbulk,
    fun _ hf hhas => bulk_of_unknown_label hadd hf hhas,
    fun _ herror schedule => Service.library_of_error herror schedule⟩

/-- Two items share an id, of which only the first gets the name of the label: the query for items
without labels matches three times at first and once again. The label of another user is unknown. -/
theorem labels_added_once_shared_id :
    let now : Time.Instant := .ofSeconds 1710498600
    let l : Library :=
      { items := [Item.saved "a" "u1" "Notes" .epoch, Item.saved "a" "u1" "Memo" .epoch,
          Item.saved "b" "u1" "Notes" .epoch]
        labels := [⟨"x", "u1", "later"⟩, ⟨"y", "u2", "other"⟩] }
    let c : List String → BulkCall := fun labelIds =>
      ⟨{}, now, ⟨now, 0⟩, ⟨"u1", "no:label OR label:nowhere", .addLabels labelIds, false⟩⟩
    (∃ after, l.bulk now {} (c ["x"]).request ⟨now, 0⟩ = .ok (after, ⟨3, 2⟩) ∧
      after.bulk now {} (c ["x"]).request ⟨now, 0⟩ = .ok (after, ⟨1, 0⟩)) ∧
    (∃ labelId ∈ ["x", "y"], l.bulk now {} (c ["x", "y"]).request ⟨now, 0⟩ =
      .error (.unknownLabel labelId)) ∧
    ((Service.begin l [c ["x", "y"]]).run [0, 0]).library = l := by
  intro now l c
  obtain ⟨hagain, -, -⟩ := labels_added_once (c := c ["x"]) rfl l
  obtain ⟨-, hunknown, hunchanged⟩ := labels_added_once (c := c ["x", "y"]) rfl l
  have hfirst : (l.bulk now {} (c ["x"]).request ⟨now, 0⟩).toOption.map (·.2) = some ⟨3, 2⟩ := by
    decide +kernel
  have hmatched : (l.bulk now {} (c ["x"]).request ⟨now, 0⟩).toOption.map (fun answer =>
      (answer.1.bulk now {} (c ["x"]).request ⟨now, 0⟩).toOption.map (·.2)) =
      some (some ⟨1, 0⟩) := by decide +kernel
  have hfilter : (c ["x", "y"]).filter.toOption.map (fun _ => ()) = some () := by decide +kernel
  have hhas : ¬ l.HasLabels "u1" ["x", "y"] := by
    intro hhas
    obtain ⟨label, hlabel, howner, hid⟩ := hhas "y" (by simp)
    have hnone : ∀ label ∈ l.labels, label.userId = "u1" → label.id ≠ "y" := by decide
    exact hnone label hlabel howner hid
  refine ⟨?_, ?_⟩
  · obtain ⟨⟨after, result⟩, hbulk, hresult⟩ := Except.exists_of_toOption hfirst
    obtain ⟨matched, hsecond⟩ : ∃ matched, after.bulk now {} (c ["x"]).request ⟨now, 0⟩ =
        .ok (after, ⟨matched, 0⟩) := hagain after result hbulk
    cases hresult
    rw [hbulk] at hmatched
    have hone : (after.bulk now {} (c ["x"]).request ⟨now, 0⟩).toOption.map (·.2) =
        some ⟨1, 0⟩ := Option.some.inj hmatched
    rw [hsecond] at hone
    cases Option.some.inj hone
    exact ⟨after, hbulk, hsecond⟩
  · obtain ⟨f, hf, -⟩ := Except.exists_of_toOption hfilter
    obtain ⟨labelId, hmem, -, herror⟩ := hunknown f hf hhas
    exact ⟨⟨labelId, hmem, herror⟩, hunchanged _ herror [0, 0]⟩

end Library

end ReadLater
