import Mathlib.Data.List.TakeDrop
import ReadLater.Command.Run
import ReadLater.Proofs.LabelLinks
import ReadLater.Proofs.SqlRoundTrip

/-!
# Dry runs

A dry run counts the items that the run matches. The statement that it prints for an action that
assigns columns is about the items that the run writes to; the one that it prints for labels shows
only the first of the items that get them.
-/

namespace ReadLater

lemma Predicate.truth_ungrouped (p : Predicate) (ps : Parameters) (clock : Time.Instant)
    (i : Item) : p.ungrouped.truth ps clock i = p.truth ps clock i := by
  induction p with
  | test c => rfl
  | and left right ihl ihr | or left right ihl ihr => simp only [ungrouped, truth, ihl, ihr]
  | not inner ih => simp only [ungrouped, truth, ih]
  | group inner ih => exact ih

/-- The condition of a statement, as it reads, is true of the items that the filter accepts. -/
structure Filter.IsWritten (f : Filter) (text : String) : Prop where
  clause : Sql.whereClause f = "WHERE " ++ text
  reads : ∃ p, Sql.read text = some p ∧
    ∀ clock i, ({ f with predicate := some p } : Filter).accepts clock i = f.accepts clock i

theorem BulkRequest.exists_isWritten {b : BulkRequest} {s : SearchSettings} {now : Time.Moment}
    {f : Filter} (h : b.filter s now = .ok f) : ∃ text, f.IsWritten text := by
  obtain ⟨c, hcompile, rfl⟩ := filter_eq_ok_iff.mp h
  obtain ⟨q, -, hq⟩ := Query.compile_of_settings hcompile
  obtain ⟨p, hp, hread⟩ := Query.read_filter hq b.userId {}
  refine ⟨Sql.predicate p, ?_, p.ungrouped, hread, fun clock i => ?_⟩
  · rw [Sql.whereClause, hp]
  · simp only [Filter.accepts, hp, Predicate.truth_ungrouped]

namespace Library

variable {l after : Library} {clock : Time.Instant} {f : Filter} {items : List Item}

lemma select_unsorted (h : l.matching clock f = .ok items) (offset limit : Nat) :
    ∃ rows, l.select clock ⟨f, [], [], offset, limit⟩ = .ok rows ∧
      rows.map (·.item) = (items.drop offset).take limit := by
  obtain ⟨rows, hrows⟩ := exists_rows (s := ⟨f, [], [], offset, limit⟩) (by simp) items
  have hordered := ordered_of_rows h hrows rfl
  have hsorted : (rows.mergeSort fun a b => compareRows [] a b != .gt) = rows :=
    List.mergeSort_of_pairwise (List.pairwise_of_forall fun _ _ => rfl)
  rw [hsorted] at hordered
  refine ⟨(rows.drop offset).take limit, ?_, ?_⟩
  · rw [select_eq_window, hordered]
    rfl
  · rw [List.map_take, List.map_drop, map_item_of_mapM hrows]

lemma matched_of_bulk {s : SearchSettings} {now : Time.Moment} {b : BulkRequest}
    {result : BulkResult} (hids : (l.items.map (·.id)).Nodup)
    (h : l.bulk clock s b now = .ok (after, result)) :
    ∃ f items, b.filter s now = .ok f ∧ l.matching clock f = .ok items ∧
      result.matched = items.length := by
  rcases bulk_cases h with ⟨labelIds, hadd⟩ | ⟨changes, f, n, -, hf, hupdate, rfl⟩
  · obtain ⟨f, items, hf, hmatching, -, hmatched, -⟩ := addLabels_of_bulk hadd h
    exact ⟨f, items, hf, hmatching, hmatched⟩
  · obtain ⟨items, hmatching, rfl, -⟩ := update_of_nodup hids hupdate
    exact ⟨f, items, hf, hmatching, rfl⟩

end Library

namespace Command

variable {l after : Library} {c : BulkCall} {f : Filter} {items : List Item} {result : BulkResult}

lemma number_injective : Function.Injective Sql.number := fun _ _ h =>
  Text.decimal_injective (String.ofList_injective h)

/-- What the statement for labels selects. -/
def labelPreview (f : Filter) : Selection :=
  ⟨f, [], [], 0, SearchSettings.pageLimit⟩

/-- What a dry run prints. -/
def preview (action : BulkAction) (now : Time.Instant) (f : Filter) (matched : Nat) : String :=
  statement action now f ++ "\n-- " ++ Sql.number matched ++ " item(s) would be affected\n"

lemma Surroundings.dryRun_of_count {s : Surroundings} {r : BulkRequest} {matched : Nat}
    (hf : r.filter s.config.search.settings s.now = .ok f)
    (hcount : l.count s.now.instant f = .ok matched) :
    s.dryRun l r = .ok ⟨preview r.action s.now.instant f matched, none⟩ := by
  unfold dryRun
  simp only [hf, hcount, Except.mapError, bind, Except.bind]
  rfl

/-- A dry run counts what the run matches. Its statement has the filter of the run as its condition.
For an action that assigns columns it is the update that the run makes; for labels it shows the
first hundred of the items that the run reads and labels, which are all of them just if there are
not more. -/
theorem dry_run_of_bulk (hids : (l.items.map (·.id)).Nodup)
    (h : l.bulk c.clock c.settings c.request c.now = .ok (after, result)) :
    ∃ f items, c.filter = .ok f ∧ l.matching c.clock f = .ok items ∧
      l.count c.clock f = .ok result.matched ∧ result.matched = items.length ∧
      (∃ text, f.IsWritten text) ∧
      (∀ s : Surroundings, s.config.search.settings = c.settings → s.now = c.now →
        s.now.instant = c.clock →
        s.dryRun l c.request =
          .ok ⟨preview c.request.action c.now.instant f result.matched, none⟩ ∧
        ∀ path json, openLibrary path s.snapshot = .ok l →
          s.bulk path c.request true json =
            .ok ⟨preview c.request.action c.now.instant f result.matched, none⟩) ∧
      (∀ changes, c.request.action.changes? c.now.instant = some changes →
        statement c.request.action c.now.instant f = Sql.update f changes ∧
        l.update c.clock f changes = .ok (after, result.matched)) ∧
      ∀ labelIds, c.request.action = .addLabels labelIds →
        statement c.request.action c.now.instant f = Sql.select (labelPreview f) ∧
        l.matchingIds c.clock f = .ok (items.map (·.id)) ∧
        (∀ i ∈ items, ∀ labelId ∈ labelIds, ⟨labelId, i.id⟩ ∈ after.links) ∧
        ∃ rows, l.select c.clock (labelPreview f) = .ok rows ∧
          rows.map (·.item) = items.take 100 ∧
          (rows.map (·.item) = items ↔ result.matched ≤ 100) := by
  obtain ⟨f, items, hf, hmatching, hmatched⟩ := Library.matched_of_bulk hids h
  have hcount : l.count c.clock f = .ok result.matched :=
    Library.count_eq_ok_iff.mpr ⟨items, hmatching, hmatched⟩
  refine ⟨f, items, hf, hmatching, hcount, hmatched, BulkRequest.exists_isWritten hf, ?_, ?_, ?_⟩
  · intro s hsettings hnow hclock
    have hdry : s.dryRun l c.request =
        .ok ⟨preview c.request.action c.now.instant f result.matched, none⟩ := by
      rw [← hnow]
      exact s.dryRun_of_count (by rw [hsettings, hnow]; exact hf) (by rw [hclock, hcount])
    refine ⟨hdry, fun path json hopen => ?_⟩
    unfold Surroundings.bulk
    simp only [hopen, bind, Except.bind, if_true, hdry]
  · intro changes hchanges
    obtain ⟨f', n, hf', hupdate, rfl⟩ := Library.update_of_bulk hchanges h
    cases hf.symm.trans hf'
    exact ⟨by rw [statement, hchanges], hupdate⟩
  · intro labelIds hadd
    obtain ⟨rows, hrows, hshown⟩ := Library.select_unsorted hmatching 0 SearchSettings.pageLimit
    refine ⟨by rw [statement, hadd]; rfl, ?_, ?_, rows, hrows, hshown, ?_⟩
    · unfold Library.matchingIds
      rw [hmatching]
      rfl
    · exact fun i hi labelId hlabelId =>
        Library.linked_of_bulk hadd h hf hmatching (List.mem_map_of_mem hi) hlabelId
    · rw [hshown, hmatched]
      exact List.take_eq_self_iff items

/-- A dry run for two labels, and one of an archiving, of two items among three. -/
theorem dry_run_of_bulk_two_items :
    let now : Time.Instant := .ofSeconds 1710498600
    let l : Library :=
      { items := [Item.saved "a" "u1" "Notes" .epoch, Item.saved "b" "u2" "Notes" .epoch,
          Item.saved "c" "u1" "Notes" .epoch]
        labels := [⟨"x", "u1", "later"⟩, ⟨"y", "u1", "now"⟩]
        links := [⟨"x", "a"⟩] }
    let c : BulkAction → BulkCall := fun action =>
      ⟨{}, now, ⟨now, 0⟩, ⟨"u1", "notes", action, false⟩⟩
    let s : Surroundings := ⟨{}, ⟨now, 0⟩, .error .notFound⟩
    (l.items.map (·.id)).Nodup ∧
      (∃ after f, l.bulk now {} (c (.addLabels ["x", "y"])).request ⟨now, 0⟩ = .ok (after, ⟨2, 3⟩) ∧
        s.dryRun l (c (.addLabels ["x", "y"])).request =
          .ok ⟨preview (.addLabels ["x", "y"]) now f 2, none⟩ ∧
        ∃ rows items, l.select now (labelPreview f) = .ok rows ∧ l.matching now f = .ok items ∧
          rows.map (·.item) = items) ∧
      ∃ after f changes, l.bulk now {} (c .archive).request ⟨now, 0⟩ = .ok (after, ⟨2, 2⟩) ∧
        s.dryRun l (c .archive).request = .ok ⟨preview .archive now f 2, none⟩ ∧
        statement .archive now f = Sql.update f changes ∧
        l.update now f changes = .ok (after, 2) := by
  intro now l c s
  have hids : (l.items.map (·.id)).Nodup := by decide +kernel
  have hlabels : (l.bulk now {} (c (.addLabels ["x", "y"])).request ⟨now, 0⟩).toOption.map (·.2) =
      some ⟨2, 3⟩ := by decide +kernel
  have harchive : (l.bulk now {} (c .archive).request ⟨now, 0⟩).toOption.map (·.2) =
      some ⟨2, 2⟩ := by decide +kernel
  have hsettings : s.config.search.settings = {} := by decide +kernel
  refine ⟨hids, ?_, ?_⟩
  · obtain ⟨⟨after, result⟩, hbulk, rfl⟩ := Except.exists_of_toOption hlabels
    obtain ⟨f, items, -, hmatching, -, -, -, hdry, -, hshown⟩ :=
      dry_run_of_bulk (c := c (.addLabels ["x", "y"])) hids hbulk
    obtain ⟨-, -, -, rows, hrows, -, hall⟩ := hshown ["x", "y"] rfl
    exact ⟨after, f, hbulk, (hdry s hsettings rfl rfl).1, rows, items, hrows, hmatching,
      hall.mpr (by decide)⟩
  · obtain ⟨⟨after, result⟩, hbulk, rfl⟩ := Except.exists_of_toOption harchive
    obtain ⟨f, items, -, -, -, -, -, hdry, hupdate, -⟩ :=
      dry_run_of_bulk (c := c .archive) hids hbulk
    obtain ⟨hstatement, hwritten⟩ := hupdate _ rfl
    exact ⟨after, f, _, hbulk, (hdry s hsettings rfl rfl).1, hstatement, hwritten⟩

/-- One hundred and one items get a label, and the statement of the dry run shows all but the last
of them. -/
theorem dry_run_leaves_out_item :
    let now : Time.Instant := .ofSeconds 1710498600
    let l : Library :=
      { items := (List.range 101).map fun n => Item.saved (Sql.number n) "u1" "Notes" .epoch
        labels := [⟨"x", "u1", "later"⟩] }
    let b : BulkRequest := ⟨"u1", "", .addLabels ["x"], false⟩
    let s : Surroundings := ⟨{}, ⟨now, 0⟩, .error .notFound⟩
    (l.items.map (·.id)).Nodup ∧
      ∃ after result f rows, l.bulk now {} b ⟨now, 0⟩ = .ok (after, result) ∧
        result.matched = 101 ∧ ⟨"x", "100"⟩ ∈ after.links ∧
        s.dryRun l b = .ok ⟨preview b.action now f 101, none⟩ ∧
        statement b.action now f = Sql.select (labelPreview f) ∧
        l.select now (labelPreview f) = .ok rows ∧ rows.length = 100 ∧
        "100" ∉ rows.map (·.item.id) := by
  intro now l b s
  have hids : (l.items.map (·.id)).Nodup := by
    rw [List.map_map]
    exact List.Nodup.map number_injective List.nodup_range
  have hmatched : (b.filter {} ⟨now, 0⟩).toOption.map (fun f =>
      (l.matching now f).toOption.map fun items => items.map (·.id)) =
      some (some ((List.range 101).map Sql.number)) := by decide +kernel
  have hsettings : s.config.search.settings = {} := by decide +kernel
  obtain ⟨f, hf, hitems⟩ := Except.exists_of_toOption hmatched
  obtain ⟨items, hmatching, hnumbers⟩ := Except.exists_of_toOption hitems
  have hlength : items.length = 101 := by simpa using congrArg List.length hnumbers
  have hcount : l.count now f = .ok 101 :=
    Library.count_eq_ok_iff.mpr ⟨items, hmatching, hlength.symm⟩
  -- the run
  have hhas : l.HasLabels "u1" ["x"] := by
    intro labelId hlabelId
    exact ⟨⟨"x", "u1", "later"⟩, List.mem_cons_self, rfl, (List.mem_singleton.mp hlabelId).symm⟩
  obtain ⟨after, result, hbulk, hresult⟩ : ∃ after result,
      l.bulk now {} b ⟨now, 0⟩ = .ok (after, result) ∧ result.matched = 101 := by
    rw [Library.bulk_of_addLabels rfl hf]
    exact ⟨_, _, Library.addLabels_eq_ok_iff.mpr ⟨hhas, items, hmatching, rfl, rfl⟩, hlength⟩
  have hlabelled : ⟨"x", "100"⟩ ∈ after.links := by
    refine Library.linked_of_bulk rfl hbulk hf hmatching ?_ List.mem_cons_self
    rw [hnumbers]
    exact List.mem_map.mpr ⟨100, by simp, rfl⟩
  -- the statement of the dry run
  obtain ⟨rows, hrows, hshown⟩ := Library.select_unsorted hmatching 0 100
  have hshownIds : rows.map (·.item.id) = ((List.range 101).map Sql.number).take 100 := by
    have hrow := congrArg (List.map (·.id)) hshown
    rwa [List.map_map, List.drop_zero, List.map_take, hnumbers] at hrow
  refine ⟨hids, after, result, f, rows, hbulk, hresult, hlabelled,
    s.dryRun_of_count (by rwa [hsettings]) hcount, rfl, hrows, ?_, ?_⟩
  · have hhundred := congrArg List.length hshown
    rw [List.length_map, List.drop_zero, List.length_take, hlength] at hhundred
    exact hhundred
  · rw [hshownIds]
    decide +kernel

end Command

end ReadLater
