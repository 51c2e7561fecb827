import Mathlib.Data.List.Nodup
import ReadLater.Proofs.Visibility

/-!
# What a bulk action writes

An update collects the ids of the items that the filter accepts and then writes to every item with
one of them. So it reaches exactly the items that share an id with an accepted item, and these are
the accepted items if no id occurs twice.
-/

namespace ReadLater

lemma Changes.apply_of_isEmpty {c : Changes} (h : c.isEmpty = true) (i : Item) : c.apply i = i := by
  obtain ⟨state, folder, archivedAt, deletedAt, readAt, readingProgress, updatedAt⟩ := c
  simp only [isEmpty, Bool.and_eq_true, Option.isNone_iff_eq_none] at h
  obtain ⟨⟨⟨⟨⟨⟨rfl, rfl⟩, rfl⟩, rfl⟩, rfl⟩, rfl⟩, rfl⟩ := h
  rfl

lemma eraseDups_of_nodup {α : Type} [DecidableEq α] {xs : List α} (h : xs.Nodup) :
    xs.eraseDups = xs := by
  induction xs with
  | nil => rfl
  | cons x xs ih =>
    obtain ⟨hx, hxs⟩ := List.nodup_cons.mp h
    have hkeep : xs.filter (fun y => !y == x) = xs := by
      refine List.filter_eq_self.mpr fun y hy => ?_
      have hne : y ≠ x := fun heq => hx (heq ▸ hy)
      simpa using hne
    rw [List.eraseDups_cons, hkeep, ih hxs]

namespace Library

variable {l after : Library} {now : Time.Instant} {f : Filter} {changes : Changes} {n : Nat}

/-- Some item with the id of this one is accepted. -/
def Reaches (l : Library) (now : Time.Instant) (f : Filter) (i : Item) : Prop :=
  ∃ j ∈ l.items, j.id = i.id ∧ f.accepts now j = .ok true

instance (i : Item) : Decidable (l.Reaches now f i) :=
  inferInstanceAs (Decidable (∃ j ∈ l.items, j.id = i.id ∧ f.accepts now j = .ok true))

lemma mem_ids_iff_reaches {items : List Item} (h : l.matching now f = .ok items) (i : Item) :
    i.id ∈ items.map (·.id) ↔ l.Reaches now f i := by
  obtain ⟨-, rfl⟩ := matching_eq_ok_iff.mp h
  simp only [Reaches, List.mem_map, List.mem_filter, Filter.passes_iff, and_assoc]
  constructor
  · rintro ⟨j, hmem, haccepts, hid⟩
    exact ⟨j, hmem, hid, haccepts⟩
  · rintro ⟨j, hmem, hid, haccepts⟩
    exact ⟨j, hmem, haccepts, hid⟩

/-- An update writes to the items it reaches and nothing else; its count is that of their ids. -/
theorem update_eq_ok_iff :
    l.update now f changes = .ok (after, n) ↔
      ∃ items, l.matching now f = .ok items ∧ n = (items.map (·.id)).eraseDups.length ∧
        after = { l with
          items := l.items.map fun i => if l.Reaches now f i then changes.apply i else i } := by
  unfold update matchingIds
  cases hitems : l.matching now f with
  | error e => simp [bind, Except.bind]
  | ok items =>
    have hwrite : (l.items.map fun i =>
          if (items.map (·.id)).eraseDups.contains i.id then changes.apply i else i) =
        l.items.map fun i => if l.Reaches now f i then changes.apply i else i := by
      refine List.map_congr_left fun i _ => ?_
      simp only [List.contains_iff_mem, List.mem_eraseDups, mem_ids_iff_reaches hitems]
    simp only [bind, Except.bind, pure, Except.pure, hwrite, Except.ok.injEq, exists_eq_left']
    by_cases hempty : changes.isEmpty = true
    · have hsame : { l with
          items := l.items.map fun i => if l.Reaches now f i then changes.apply i else i } = l := by
        simp [Changes.apply_of_isEmpty hempty]
      rw [hsame]
      simp [hempty, eq_comm, and_comm]
    · simp [hempty, eq_comm, and_comm]

lemma reaches_iff_accepts (hids : (l.items.map (·.id)).Nodup) {i : Item} (hi : i ∈ l.items) :
    l.Reaches now f i ↔ f.accepts now i = .ok true := by
  constructor
  · rintro ⟨j, hj, hid, haccepts⟩
    rwa [← List.inj_on_of_nodup_map hids hj hi hid]
  · intro haccepts
    exact ⟨i, hi, rfl, haccepts⟩

theorem update_of_nodup (hids : (l.items.map (·.id)).Nodup)
    (h : l.update now f changes = .ok (after, n)) :
    ∃ items, l.matching now f = .ok items ∧ n = items.length ∧
      after =
        { l with items := l.items.map fun i => if i ∈ items then changes.apply i else i } := by
  obtain ⟨items, hmatching, rfl, rfl⟩ := update_eq_ok_iff.mp h
  have hdistinct := ((matching_sublist hmatching).map (·.id)).nodup hids
  refine ⟨items, hmatching, by rw [eraseDups_of_nodup hdistinct, List.length_map], ?_⟩
  have hreached : ∀ i ∈ l.items, (l.Reaches now f i ↔ i ∈ items) := by
    intro i hi
    rw [reaches_iff_accepts hids hi, (matching_eq_ok_iff.mp hmatching).2, List.mem_filter,
      Filter.passes_iff]
    exact (and_iff_right hi).symm
  have hitems : (l.items.map fun i => if l.Reaches now f i then changes.apply i else i) =
      l.items.map fun i => if i ∈ items then changes.apply i else i := by
    refine List.map_congr_left fun i hi => ?_
    simp only [hreached i hi]
  rw [hitems]

variable {clock : Time.Instant} {s : SearchSettings} {b : BulkRequest} {moment : Time.Moment}
  {result : BulkResult}

/-- An item that the filter of a bulk action does not accept stays as it was unless an accepted item
has its id and the assignments of the action change it. If ids are not shared, all such items stay
as they were. -/
theorem bulk_keeps_iff (haction : b.action.changes? moment.instant = some changes)
    (h : l.bulk clock s b moment = .ok (after, result)) :
    after.labels = l.labels ∧ after.links = l.links ∧ after.items.length = l.items.length ∧
      ∃ f, b.filter s moment = .ok f ∧
        (∀ i, f.accepts clock i = .ok true → i.userId = b.userId) ∧
        ∀ (k : Nat) (i : Item), l.items[k]? = some i → f.accepts clock i ≠ .ok true →
          (after.items[k]? = some i ↔
            ∀ j ∈ l.items, j.id = i.id → f.accepts clock j = .ok true → changes.apply i = i) ∧
          ((l.items.map (·.id)).Nodup → after.items[k]? = some i) := by
  obtain ⟨f, n, hfilter, hupdate, -⟩ := update_of_bulk haction h
  obtain ⟨items, -, -, rfl⟩ := update_eq_ok_iff.mp hupdate
  refine ⟨rfl, rfl, by simp, f, hfilter, fun i haccepts => ?_, fun k i hk hrejects => ?_⟩
  · exact (shownTo_of_bulk hfilter haccepts).owner
  · have hafter : (l.items.map fun i =>
          if l.Reaches clock f i then changes.apply i else i)[k]? =
        some (if l.Reaches clock f i then changes.apply i else i) := by
      rw [List.getElem?_map, hk]
      rfl
    rw [hafter, Option.some.injEq]
    constructor
    · constructor
      · intro hkept j hj hid haccepts
        rwa [if_pos ⟨j, hj, hid, haccepts⟩] at hkept
      · intro hsame
        split_ifs with hreaches
        · obtain ⟨j, hj, hid, haccepts⟩ := hreaches
          exact hsame j hj hid haccepts
        · rfl
    · intro hids
      rw [if_neg]
      intro hreaches
      exact hrejects ((reaches_iff_accepts hids (List.mem_of_getElem? hk)).mp hreaches)

/-- The item of another user is archived along with the one that has its id, and an item of that
user with its own id is not. -/
theorem bulk_keeps_iff_shared_id :
    let now : Time.Instant := .ofSeconds 1710498600
    let i := Item.saved "a" "u1" "First" .epoch
    let j := Item.saved "a" "u2" "Second" .epoch
    let k := Item.saved "b" "u2" "Third" .epoch
    let l : Library := { items := [i, j, k] }
    ∃ after, l.bulk now {} ⟨"u1", "", .archive, false⟩ ⟨now, 0⟩ = .ok (after, ⟨1, 1⟩) ∧
      after.items[1]? ≠ some j ∧ after.items[2]? = some k := by
  intro now i j k l
  let changes : Changes :=
    { archivedAt := some now, state := some .archived, updatedAt := some now }
  have hbulk : (l.bulk now {} ⟨"u1", "", .archive, false⟩ ⟨now, 0⟩).toOption.map Prod.snd =
      some ⟨1, 1⟩ := by decide +kernel
  have hfilter : (BulkRequest.filter ⟨"u1", "", .archive, false⟩ {} ⟨now, 0⟩).toOption.map
      (fun f => l.items.map (f.accepts now)) = some [.ok true, .ok false, .ok false] := by
    decide +kernel
  have haction : BulkAction.archive.changes? now = some changes := rfl
  obtain ⟨⟨after, result⟩, hresult, rfl⟩ := Except.exists_of_toOption hbulk
  obtain ⟨-, -, -, f, hf, -, hkeeps⟩ := bulk_keeps_iff haction hresult
  obtain ⟨_, hsame, haccepts⟩ := Except.exists_of_toOption hfilter
  cases hf.symm.trans hsame
  obtain ⟨hi, hj, hk⟩ : f.accepts now i = .ok true ∧ f.accepts now j = .ok false ∧
      f.accepts now k = .ok false := by
    simpa [l] using haccepts
  refine ⟨after, hresult, fun hkept => ?_, ?_⟩
  · have hsame := (hkeeps 1 j rfl (by rw [hj]; decide)).1.mp hkept i (by simp [l]) rfl hi
    exact absurd hsame (by decide +kernel)
  · refine (hkeeps 2 k rfl (by rw [hk]; decide)).1.mpr fun m hm hid haccepts => ?_
    have hmem : m = i ∨ m = j ∨ m = k := by simpa [l] using hm
    have hmk : m = k := by
      rcases hmem with rfl | rfl | rfl
      · exact absurd hid (by decide +kernel)
      · exact absurd hid (by decide +kernel)
      · rfl
    rw [hmk, hk] at haccepts
    cases haccepts

/-- An item of another user is archived if it has the id of an archived item. -/
theorem bulk_archives_shared_id :
    let now : Time.Instant := .ofSeconds 1710498600
    let i := Item.saved "a" "u1" "First" .epoch
    let j := Item.saved "a" "u2" "Second" .epoch
    let l : Library := { items := [i, j] }
    let b : BulkRequest := ⟨"u1", "", .archive, false⟩
    (b.filter {} ⟨now, 0⟩).toOption.map (fun f => f.accepts now j) = some (.ok false) ∧
      (l.bulk now {} b ⟨now, 0⟩).toOption.map (fun r => r.1.items[1]?) =
        some (some { j with
          state := .archived, archivedAt := some now, updatedAt := some now }) := by
  decide +kernel

end Library

end ReadLater
