import Mathlib.Data.List.Forall2
import Mathlib.Tactic.Lemma
import ReadLater.Library.Selection

/-!
# Matching items

Selections, counts and updates all start from the items that a filter accepts. When every item can
be evaluated, these are the items that pass the filter, in storage order, and a selection is a
window of the same items in another order.
-/

namespace ReadLater

section Traversal

variable {ε α β : Type}

lemma filterAuxM_eq_ok_iff {p : α → Except ε Bool} {q : α → Bool}
    (hq : ∀ x b, p x = .ok b → q x = b) {xs acc ys : List α} :
    xs.filterAuxM p acc = .ok ys ↔
      (∀ x ∈ xs, ∃ b, p x = .ok b) ∧ ys = (xs.filter q).reverse ++ acc := by
  induction xs generalizing acc with
  | nil => simp [List.filterAuxM, pure, Except.pure, eq_comm]
  | cons x xs ih =>
    rw [List.filterAuxM]
    cases hx : p x with
    | error e => simp [bind, Except.bind, hx]
    | ok b =>
      simp only [bind, Except.bind, ih, List.forall_mem_cons, hx, List.filter_cons, hq x b hx]
      cases b <;> simp

lemma filterM_eq_ok_iff {p : α → Except ε Bool} {q : α → Bool}
    (hq : ∀ x b, p x = .ok b → q x = b) {xs ys : List α} :
    xs.filterM p = .ok ys ↔ (∀ x ∈ xs, ∃ b, p x = .ok b) ∧ ys = xs.filter q := by
  constructor
  · intro h
    cases haux : xs.filterAuxM p [] with
    | error e =>
      rw [List.filterM, haux] at h
      cases h
    | ok zs =>
      rw [List.filterM, haux] at h
      cases h
      obtain ⟨htotal, rfl⟩ := (filterAuxM_eq_ok_iff hq).mp haux
      exact ⟨htotal, by simp⟩
  · rintro ⟨htotal, rfl⟩
    have haux : xs.filterAuxM p [] = .ok ((xs.filter q).reverse ++ []) :=
      (filterAuxM_eq_ok_iff hq).mpr ⟨htotal, rfl⟩
    rw [List.filterM, haux]
    simp [bind, Except.bind, pure, Except.pure]

lemma mapM_eq_ok_iff {f : α → Except ε β} {xs : List α} {ys : List β} :
    xs.mapM f = .ok ys ↔ List.Forall₂ (fun x y => f x = .ok y) xs ys := by
  induction xs generalizing ys with
  | nil => cases ys <;> simp [pure, Except.pure]
  | cons x xs ih =>
    rw [List.mapM_cons]
    cases hx : f x with
    | error e => cases ys <;> simp [bind, Except.bind, hx]
    | ok y =>
      cases hxs : xs.mapM f with
      | error e => cases ys <;> simp [bind, Except.bind, ← ih, hx, hxs]
      | ok zs => cases ys <;> simp [bind, Except.bind, pure, Except.pure, ← ih, hx, hxs]

lemma exists_mapM {f : α → Except ε β} {xs : List α} (h : ∀ x ∈ xs, ∃ y, f x = .ok y) :
    ∃ ys, xs.mapM f = .ok ys := by
  induction xs with
  | nil => exact ⟨[], mapM_eq_ok_iff.mpr .nil⟩
  | cons x xs ih =>
    obtain ⟨⟨y, hy⟩, hxs⟩ := List.forall_mem_cons.mp h
    obtain ⟨ys, hys⟩ := ih hxs
    exact ⟨y :: ys, mapM_eq_ok_iff.mpr (.cons hy (mapM_eq_ok_iff.mp hys))⟩

end Traversal

/-- The item is evaluated, and the filter is true of it. -/
def Filter.passes (f : Filter) (now : Time.Instant) (i : Item) : Bool :=
  (f.accepts now i).toOption.getD false

lemma Filter.passes_of_accepts {f : Filter} {now : Time.Instant} {i : Item} {b : Bool}
    (h : f.accepts now i = .ok b) : f.passes now i = b := by
  rw [passes, h]
  rfl

lemma Filter.passes_iff {f : Filter} {now : Time.Instant} {i : Item} :
    f.passes now i = true ↔ f.accepts now i = .ok true := by
  unfold passes
  cases f.accepts now i <;> simp [Except.toOption]

namespace Library

variable {l : Library} {now : Time.Instant} {f : Filter} {s : Selection}

theorem matching_eq_ok_iff {items : List Item} :
    l.matching now f = .ok items ↔
      (∀ i ∈ l.items, ∃ b, f.accepts now i = .ok b) ∧ items = l.items.filter (f.passes now) :=
  filterM_eq_ok_iff fun _ _ => Filter.passes_of_accepts

lemma accepts_of_matching {items : List Item} (h : l.matching now f = .ok items) {i : Item}
    (hi : i ∈ items) : i ∈ l.items ∧ f.accepts now i = .ok true := by
  obtain ⟨-, rfl⟩ := matching_eq_ok_iff.mp h
  obtain ⟨hmem, hpasses⟩ := List.mem_filter.mp hi
  exact ⟨hmem, Filter.passes_iff.mp hpasses⟩

lemma matching_sublist {items : List Item} (h : l.matching now f = .ok items) :
    items.Sublist l.items := by
  rw [(matching_eq_ok_iff.mp h).2]
  exact List.filter_sublist

lemma count_eq_ok_iff {n : Nat} :
    l.count now f = .ok n ↔ ∃ items, l.matching now f = .ok items ∧ n = items.length := by
  unfold count
  cases l.matching now f with
  | error e => simp [bind, Except.bind]
  | ok items => simp [bind, Except.bind, pure, Except.pure, eq_comm]

/-- All rows of a selection in its order, whatever its window. -/
def ordered (l : Library) (now : Time.Instant) (s : Selection) : Except StoreError (List Row) := do
  let items ← l.matching now s.filter
  let rows ← items.mapM fun i => do
    return (⟨i, ← scoresOf s.filter.parameters i s.ranks⟩ : Row)
  match s.unknownKey? with
  | some key => throw (.noSuchColumn key)
  | none => return rows.mergeSort fun a b => compareRows s.sort a b != .gt

/-- A selection is a window of its ordered rows. -/
theorem select_eq_window (l : Library) (now : Time.Instant) (s : Selection) :
    l.select now s = (l.ordered now s).map fun rows => (rows.drop s.offset).take s.limit := by
  unfold select ordered
  cases l.matching now s.filter with
  | error e => rfl
  | ok items =>
    simp only [bind, Except.bind]
    split
    · rfl
    · cases s.unknownKey? <;> rfl

lemma rows_eq_ok_iff {ps : Parameters} {ranks : List RankColumn} {items : List Item}
    {rows : List Row} :
    (items.mapM fun i => do return (⟨i, ← scoresOf ps i ranks⟩ : Row)) = .ok rows ↔
      List.Forall₂ (fun i row => row.item = i ∧ scoresOf ps i ranks = .ok row.scores)
        items rows := by
  have hrow : ∀ (i : Item) (row : Row), (do return (⟨i, ← scoresOf ps i ranks⟩ : Row)) = .ok row ↔
      row.item = i ∧ scoresOf ps i ranks = .ok row.scores := by
    rintro i ⟨item, scores⟩
    cases scoresOf ps i ranks with
    | error e => simp [bind, Except.bind]
    | ok found => simp [bind, Except.bind, pure, Except.pure, eq_comm]
  simp only [mapM_eq_ok_iff, hrow]

lemma map_item_of_mapM {ps : Parameters} {ranks : List RankColumn} {items : List Item}
    {rows : List Row}
    (h : (items.mapM fun i => do return (⟨i, ← scoresOf ps i ranks⟩ : Row)) = .ok rows) :
    rows.map (·.item) = items := by
  have hrows := rows_eq_ok_iff.mp h
  clear h
  induction hrows with
  | nil => rfl
  | cons hrow _ ih => rw [List.map_cons, hrow.1, ih]

theorem ordered_perm {rows : List Row} (h : l.ordered now s = .ok rows) :
    ∃ items, l.matching now s.filter = .ok items ∧ (rows.map (·.item)).Perm items := by
  unfold ordered at h
  cases hitems : l.matching now s.filter with
  | error e => simp [hitems, bind, Except.bind] at h
  | ok items =>
    simp only [hitems, bind, Except.bind] at h
    split at h
    · cases h
    · rename_i unsorted hrows
      split at h
      · cases h
      · cases h
        refine ⟨items, rfl, ?_⟩
        rw [← map_item_of_mapM hrows]
        exact (List.mergeSort_perm _ _).map _

lemma exists_scoresOf {ps : Parameters} {ranks : List RankColumn}
    (h : ∀ c ∈ ranks, ∃ text, ps.text c.query = .ok text) (i : Item) :
    ∃ scores, scoresOf ps i ranks = .ok scores := by
  suffices hfrom : ∀ scores, ∃ after,
      ranks.foldlM (fun scores (c : RankColumn) => do
        return setScore c.name (← c.score ps i) scores) scores = Except.ok after from hfrom []
  induction ranks with
  | nil => exact fun scores => ⟨scores, rfl⟩
  | cons c ranks ih =>
    intro scores
    obtain ⟨⟨text, htext⟩, hranks⟩ := List.forall_mem_cons.mp h
    rw [List.foldlM_cons, RankColumn.score, htext]
    exact ih hranks _

lemma exists_rows (hranks : ∀ c ∈ s.ranks, ∃ text, s.filter.parameters.text c.query = .ok text)
    (items : List Item) :
    ∃ rows, (items.mapM fun i => do
      return (⟨i, ← scoresOf s.filter.parameters i s.ranks⟩ : Row)) = .ok rows := by
  refine exists_mapM fun i _ => ?_
  obtain ⟨scores, hscores⟩ := exists_scoresOf hranks i
  rw [hscores]
  exact ⟨_, rfl⟩

lemma ordered_of_rows {items : List Item} {rows : List Row}
    (h : l.matching now s.filter = .ok items)
    (hrows : (items.mapM fun i => do
      return (⟨i, ← scoresOf s.filter.parameters i s.ranks⟩ : Row)) = .ok rows)
    (hkeys : s.unknownKey? = none) :
    l.ordered now s = .ok (rows.mergeSort fun a b => compareRows s.sort a b != .gt) := by
  simp only [bind, Except.bind] at hrows
  simp only [ordered, h, hkeys, hrows, bind, Except.bind]
  rfl

/-- A selection only fails for a sort key that is no column, if its filter can be evaluated and its
rank columns refer to texts. -/
theorem exists_ordered {items : List Item} (h : l.matching now s.filter = .ok items)
    (hranks : ∀ c ∈ s.ranks, ∃ text, s.filter.parameters.text c.query = .ok text)
    (hkeys : s.unknownKey? = none) : ∃ rows, l.ordered now s = .ok rows := by
  obtain ⟨rows, hrows⟩ := exists_rows hranks items
  exact ⟨_, ordered_of_rows h hrows hkeys⟩

lemma select_of_unknownKey {items : List Item} (h : l.matching now s.filter = .ok items)
    (hranks : ∀ c ∈ s.ranks, ∃ text, s.filter.parameters.text c.query = .ok text) {key : String}
    (hkey : s.unknownKey? = some key) : l.select now s = .error (.noSuchColumn key) := by
  obtain ⟨rows, hrows⟩ := exists_rows hranks items
  simp only [bind, Except.bind] at hrows
  simp only [select, h, hkey, hrows, bind, Except.bind]
  rfl

lemma exists_unknownKey_iff {s : Selection} :
    (∃ key, s.unknownKey? = some key) ↔
      ∃ d ∈ s.sort, Column.ofName? d.key = none ∧ ∀ c ∈ s.ranks, c.name ≠ d.key := by
  simp [Selection.unknownKey?, Option.map_eq_some_iff, ← Option.isSome_iff_exists]

lemma accepts_of_select {rows : List Row} (h : l.select now s = .ok rows) {row : Row}
    (hrow : row ∈ rows) : row.item ∈ l.items ∧ s.filter.accepts now row.item = .ok true := by
  rw [select_eq_window] at h
  cases hall : l.ordered now s with
  | error e => rw [hall] at h; cases h
  | ok all =>
    rw [hall] at h
    cases h
    obtain ⟨items, hitems, hperm⟩ := ordered_perm hall
    have hmem : row ∈ all := List.mem_of_mem_drop (List.mem_of_mem_take hrow)
    exact accepts_of_matching hitems (hperm.mem_iff.mp (List.mem_map_of_mem hmem))

end Library

end ReadLater
