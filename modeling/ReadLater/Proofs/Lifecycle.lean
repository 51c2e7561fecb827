import Mathlib.Data.List.Induction
import ReadLater.Proofs.BulkRuns

/-!
# The trash over runs of bulk requests

Deleting writes the state of an item together with the time of its deletion. Archiving writes the
state alone, so that an item that is archived in the trash leaves it with that time. No other action
touches either of the two.
-/

namespace ReadLater

/-- The state of the item says that it lies in the trash just if the time of its deletion is set. -/
def Item.Consistent (i : Item) : Prop :=
  i.state = .deleted ↔ i.deletedAt.isSome = true

instance (i : Item) : Decidable i.Consistent :=
  inferInstanceAs (Decidable (i.state = .deleted ↔ i.deletedAt.isSome = true))

/-- A deleted item has the time of its deletion, and keeps it if it is archived. -/
structure Item.DatesDeletion (i : Item) : Prop where
  dated : i.state = .deleted → i.deletedAt.isSome = true
  kept : i.deletedAt.isSome = true → i.state = .deleted ∨ i.state = .archived

namespace Item

variable {i j : Item}

lemma Consistent.datesDeletion (h : i.Consistent) : i.DatesDeletion :=
  ⟨h.mp, fun hdated => .inl (h.mpr hdated)⟩

lemma Consistent.of_unlabelled (hj : j.Consistent) (h : i.unlabelled = j.unlabelled) :
    i.Consistent := by
  have hi : i.unlabelled.Consistent := by
    rw [h]
    exact hj
  exact hi

lemma DatesDeletion.of_unlabelled (hj : j.DatesDeletion) (h : i.unlabelled = j.unlabelled) :
    i.DatesDeletion := by
  have hi : i.unlabelled.DatesDeletion := by
    rw [h]
    exact ⟨hj.dated, hj.kept⟩
  exact ⟨hi.dated, hi.kept⟩

lemma Consistent.written_iff (h : i.Consistent) (a : BulkAction) (now : Time.Instant) :
    (a.written now i).Consistent ↔ (a = .archive → i.deletedAt = none) := by
  cases a with
  | archive => simp [Consistent, BulkAction.written]
  | delete => simp [Consistent, BulkAction.written]
  | markRead | move folder | addLabels labelIds =>
    constructor
    · intro _ haction
      cases haction
    · intro _
      exact h

lemma DatesDeletion.written (h : i.DatesDeletion) (a : BulkAction) (now : Time.Instant) :
    (a.written now i).DatesDeletion := by
  cases a with
  | archive => exact ⟨fun hstate => (nomatch hstate), fun _ => .inr rfl⟩
  | delete => exact ⟨fun _ => rfl, fun _ => .inl rfl⟩
  | markRead | move folder | addLabels labelIds => exact ⟨h.dated, h.kept⟩

end Item

/-- All items are consistent. -/
def Library.Consistent (l : Library) : Prop :=
  ∀ i ∈ l.items, i.Consistent

instance (l : Library) : Decidable l.Consistent :=
  inferInstanceAs (Decidable (∀ i ∈ l.items, i.Consistent))

/-- The request does not archive an item whose time of deletion is set. -/
def BulkCall.SparesTrash (c : BulkCall) (l : Library) : Prop :=
  c.request.action = .archive → ∀ f, c.filter = .ok f →
    ∀ i ∈ l.items, f.accepts c.clock i = .ok true → i.deletedAt = none

/-- The query of the request opens the trash. -/
def BulkCall.OpensTrash (c : BulkCall) : Prop :=
  c.settings.OpensTrash c.request.query c.request.useFolders c.now

namespace Library

variable {l : Library} {c : BulkCall} {calls : List BulkCall}

lemma datesDeletion_afterBulk (h : ∀ i ∈ l.items, i.DatesDeletion) (c : BulkCall) :
    ∀ i ∈ (l.afterBulk c).items, i.DatesDeletion := by
  intro i hi
  obtain ⟨j, hj, hkept | ⟨f, -, -, hwritten⟩⟩ := exists_of_mem_afterBulk hi
  · exact (h j hj).of_unlabelled hkept
  · exact ((h j hj).written _ _).of_unlabelled hwritten

lemma datesDeletion_afterBulks (h : ∀ i ∈ l.items, i.DatesDeletion) (calls : List BulkCall) :
    ∀ i ∈ (l.afterBulks calls).items, i.DatesDeletion := by
  induction calls generalizing l with
  | nil => exact h
  | cons c calls ih => exact ih (datesDeletion_afterBulk h c)

/-- If ids are not shared, a request keeps a library consistent just if it does not archive an item
in the trash. -/
theorem consistent_afterBulk_iff (h : l.Consistent) (hids : (l.items.map (·.id)).Nodup)
    (c : BulkCall) : (l.afterBulk c).Consistent ↔ c.SparesTrash l := by
  constructor
  · intro hafter haction f hf i hi haccepts
    have hreached : l.Reaches c.clock f i := ⟨i, hi, rfl, haccepts⟩
    have hassigns : ∀ labelIds, c.request.action ≠ .addLabels labelIds := by simp [haction]
    have hmem : c.request.action.written c.now.instant i ∈ (l.afterBulk c).items := by
      rw [afterBulk_of_filter hassigns hf]
      exact List.mem_map.mpr ⟨i, hi, if_pos hreached⟩
    exact ((h i hi).written_iff _ _).mp (hafter _ hmem) haction
  · intro hspares i hi
    obtain ⟨j, hj, hkept | ⟨f, hf, hreached, hwritten⟩⟩ := exists_of_mem_afterBulk hi
    · exact (h j hj).of_unlabelled hkept
    · have haccepts := (reaches_iff_accepts hids hj).mp hreached
      refine Item.Consistent.of_unlabelled ?_ hwritten
      exact ((h j hj).written_iff _ _).mpr fun haction => hspares haction f hf j hj haccepts

/-- A library is consistent all along a sequence of requests just if none of them archives an item
that lies in the trash by then. -/
theorem consistent_afterBulks_iff (h : l.Consistent) (hids : (l.items.map (·.id)).Nodup)
    (calls : List BulkCall) :
    (∀ earlier, earlier <+: calls → (l.afterBulks earlier).Consistent) ↔
      ∀ earlier c, earlier ++ [c] <+: calls → c.SparesTrash (l.afterBulks earlier) := by
  have hstep : ∀ earlier c, (l.afterBulks earlier).Consistent →
      ((l.afterBulks (earlier ++ [c])).Consistent ↔ c.SparesTrash (l.afterBulks earlier)) := by
    intro earlier c hearlier
    have hdistinct : ((l.afterBulks earlier).items.map (·.id)).Nodup := by
      rw [ids_afterBulks]
      exact hids
    rw [afterBulks_concat]
    exact consistent_afterBulk_iff hearlier hdistinct c
  constructor
  · intro hall earlier c hprefix
    have hearlier := hall earlier ((List.prefix_append earlier [c]).trans hprefix)
    exact (hstep earlier c hearlier).mp (hall _ hprefix)
  · intro hspares earlier
    induction earlier using List.reverseRecOn with
    | nil =>
      intro _
      exact h
    | append_singleton earlier c ih =>
      intro hprefix
      have hearlier := ih ((List.prefix_append earlier [c]).trans hprefix)
      exact (hstep earlier c hearlier).mpr (hspares earlier c hprefix)

/-- In a consistent library a request that does not open the trash matches nothing in it. -/
lemma sparesTrash_of_not_opensTrash (h : l.Consistent) (hshut : ¬c.OpensTrash) :
    c.SparesTrash l := by
  intro _ f hf i hi haccepts
  obtain ⟨compiled, hcompile, rfl⟩ := BulkRequest.filter_eq_ok_iff.mp hf
  have hstate := SearchSettings.state_ne_deleted hcompile hshut rfl haccepts
  by_contra hdated
  exact hstate ((h i hi).mpr (Option.isSome_iff_ne_none.mpr hdated))

/-- If no archiving request opens the trash, the library stays consistent. -/
theorem consistent_of_not_opensTrash (h : l.Consistent) (hids : (l.items.map (·.id)).Nodup)
    (hshut : ∀ c ∈ calls, c.request.action = .archive → ¬c.OpensTrash) :
    (l.afterBulks calls).Consistent := by
  induction calls generalizing l with
  | nil => exact h
  | cons c calls ih =>
    have hspares : c.SparesTrash l := by
      intro haction
      exact sparesTrash_of_not_opensTrash h (hshut c List.mem_cons_self haction) haction
    have hafter := (consistent_afterBulk_iff h hids c).mpr hspares
    have hdistinct : ((l.afterBulk c).items.map (·.id)).Nodup := by
      rw [ids_afterBulk]
      exact hids
    exact ih hafter hdistinct fun d hd => hshut d (List.mem_cons_of_mem c hd)

/-- After any sequence of bulk requests on a consistent library, a deleted item has the time of its
deletion, and an item with that time is deleted or archived. If ids are not shared, the library is
consistent all along just if no request archives an item in the trash, and so it is if no archiving
request opens the trash. A search that skips the trash shows no deleted item, and one with a time of
deletion only if it was archived, hence none while the library is consistent. -/
theorem bulk_runs_keep_trash (h : l.Consistent) (calls : List BulkCall) :
    (∀ i ∈ (l.afterBulks calls).items, i.DatesDeletion) ∧
    ((l.items.map (·.id)).Nodup →
      ((∀ earlier, earlier <+: calls → (l.afterBulks earlier).Consistent) ↔
        ∀ earlier c, earlier ++ [c] <+: calls → c.SparesTrash (l.afterBulks earlier)) ∧
      ((∀ c ∈ calls, c.request.action = .archive → ¬c.OpensTrash) →
        (l.afterBulks calls).Consistent)) ∧
    ∀ (clock : Time.Instant) (s : SearchSettings) (now : Time.Moment) (r : SearchRequest)
      (page : Page), r.SkipsTrash s now →
      (l.afterBulks calls).search clock s r now = .ok page → ∀ row ∈ page.rows,
        row.item.state ≠ .deleted ∧
        (row.item.deletedAt.isSome = true → row.item.state = .archived) ∧
        ((l.afterBulks calls).Consistent → row.item.deletedAt = none) := by
  have hdates := datesDeletion_afterBulks (fun i hi => (h i hi).datesDeletion) calls
  refine ⟨hdates, fun hids => ⟨consistent_afterBulks_iff h hids calls,
    fun hshut => consistent_of_not_opensTrash h hids hshut⟩, ?_⟩
  intro clock s now r page hskips hpage row hrow
  obtain ⟨hmem, hlive⟩ := hskips.state_ne_deleted hpage hrow
  refine ⟨hlive, fun hdated => ?_, fun hconsistent => ?_⟩
  · exact ((hdates _ hmem).kept hdated).resolve_left hlive
  · by_contra hdated
    exact hlive ((hconsistent _ hmem).mpr (Option.isSome_iff_ne_none.mpr hdated))

/-- An item that is deleted and marked as read in the trash, and one that is archived. -/
theorem bulk_runs_keep_trash_mixed :
    let clock : Time.Instant := .ofSeconds 1710498600
    let l : Library := { items := [Item.saved "a" "u1" "Notes" .epoch,
      { Item.saved "b" "u1" "Essays" .epoch with
        state := .deleted, deletedAt := some (.ofSeconds 1710000000) }] }
    let call : String → BulkAction → BulkCall := fun query action =>
      { clock, now := ⟨clock, 0⟩, request := ⟨"u1", query, action, false⟩ }
    let calls := [call "in:inbox" .archive, call "in:trash" .markRead]
    let r : SearchRequest := { userId := "u1" }
    l.Consistent ∧ (l.afterBulks calls).Consistent ∧
      (∀ i ∈ (l.afterBulks calls).items, i.DatesDeletion) ∧ r.SkipsTrash {} ⟨clock, 0⟩ ∧
      ∃ page, (l.afterBulks calls).search clock {} r ⟨clock, 0⟩ = .ok page ∧
        page.rows.length = 1 ∧ ∀ row ∈ page.rows, row.item.deletedAt = none := by
  intro clock l call calls r
  have hl : l.Consistent := by decide +kernel
  have hids : (l.items.map (·.id)).Nodup := by decide +kernel
  have hinbox : (({} : SearchSettings).compile "in:inbox" false ⟨clock, 0⟩).toOption.map (·.trash) =
      some false := by decide +kernel
  have hall : (({} : SearchSettings).compile "" false ⟨clock, 0⟩).toOption.map (·.trash) =
      some false := by decide +kernel
  have hrows : ((l.afterBulks calls).search clock {} r ⟨clock, 0⟩).toOption.map
      (fun page => page.rows.length) = some 1 := by decide +kernel
  obtain ⟨c, hc, hshut⟩ := Except.exists_of_toOption hinbox
  obtain ⟨d, hd, hskips⟩ := Except.exists_of_toOption hall
  obtain ⟨page, hpage, hone⟩ := Except.exists_of_toOption hrows
  obtain ⟨hdates, hkeeps, hshown⟩ := bulk_runs_keep_trash hl calls
  have hafter : (l.afterBulks calls).Consistent := by
    refine (hkeeps hids).2 ?_
    intro e he haction
    rcases List.mem_pair.mp he with rfl | rfl
    · exact SearchSettings.not_opensTrash hc hshut
    · cases haction
  have hr : r.SkipsTrash {} ⟨clock, 0⟩ := ⟨rfl, SearchSettings.not_opensTrash hd hskips⟩
  refine ⟨hl, hafter, hdates, hr, page, hpage, hone, fun row hrow => ?_⟩
  exact (hshown clock {} ⟨clock, 0⟩ r page hr hpage row hrow).2.2 hafter

/-- Archived in the trash, an item keeps the time of its deletion and is shown again. -/
theorem archive_parts_from_deletion :
    let clock : Time.Instant := .ofSeconds 1710498600
    let i := { Item.saved "a" "u1" "Notes" .epoch with
      state := .deleted, deletedAt := some (.ofSeconds 1710000000) }
    let l : Library := { items := [i] }
    let c : BulkCall :=
      { clock, now := ⟨clock, 0⟩, request := ⟨"u1", "in:trash", .archive, false⟩ }
    let r : SearchRequest := { userId := "u1" }
    let archived := { i with
      state := .archived, archivedAt := some clock, updatedAt := some clock }
    l.Consistent ∧ ¬(l.afterBulks [c]).Consistent ∧ (l.afterBulks [c]).items = [archived] ∧
      ((l.afterBulks [c]).search clock {} r ⟨clock, 0⟩).toOption.map
        (fun page => page.rows.map (·.item)) = some [archived] := by
  decide +kernel

end Library

end ReadLater
