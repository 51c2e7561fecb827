import ReadLater.Proofs.DoubleValues
import ReadLater.Proofs.Matching
import ReadLater.Proofs.Ranks
import ReadLater.Proofs.SortOrder

/-!
# The rows of a selection

A selection sorts the rows of the accepted items stably: by the first directive that tells two rows
apart, and else by their places in storage. A directive sends nulls to one end and takes its
direction for the other keys only.
-/

namespace ReadLater

/-- Texts are ordered by the code points of their characters, numbers by their values and times by
their seconds and nanoseconds. Values of different kinds, nulls and lists are not ordered. -/
inductive Value.Less : Value → Value → Prop
  | text {s t : String} :
    List.Lex (fun c d : Char => c.toNat < d.toNat) s.toList t.toList → Less (.text s) (.text t)
  | number {x y : Float} : Double.level x < Double.level y → Less (.number x) (.number y)
  | time {s t : Time.Instant} :
    s.seconds < t.seconds ∨ s.seconds = t.seconds ∧ s.nanos < t.nanos → Less (.time s) (.time t)

namespace Value

lemma order_text_eq_lt_iff {s t : String} :
    order (.text s) (.text t) = .lt ↔
      List.Lex (fun c d : Char => c.toNat < d.toNat) s.toList t.toList := by
  change compareOfLessAndEq s t = .lt ↔ s < t
  unfold compareOfLessAndEq
  split_ifs with hlt <;> simp [hlt]

lemma order_number_eq_lt_iff {x y : Float} (hx : Double.IsNumber x) (hy : Double.IsNumber y) :
    order (.number x) (.number y) = .lt ↔ Double.level x < Double.level y := by
  have horder : order (.number x) (.number y) = compare (Double.level x) (Double.level y) := by
    rw [order, compare?, hx.compare_eq hy, Option.getD_some]
  rw [horder, compare_lt_iff_lt]

lemma order_time_eq_lt_iff {s t : Time.Instant} :
    order (.time s) (.time t) = .lt ↔
      s.seconds < t.seconds ∨ s.seconds = t.seconds ∧ s.nanos < t.nanos := by
  change (compare s.seconds t.seconds).then (compare s.nanos t.nanos) = .lt ↔ _
  rw [Ordering.then_eq_lt, compare_lt_iff_lt, compare_eq_iff_eq, compare_lt_iff_lt]

lemma OfKind.order_eq_lt_iff {k : ValueKind} {v w : Value} (hv : v.OfKind k)
    (hw : w.OfKind k) : v.order w = .lt ↔ v.Less w := by
  cases hv with
  | text s =>
    cases hw with
    | text t =>
      exact order_text_eq_lt_iff.trans ⟨.text, fun | .text h => h⟩
  | number hx =>
    cases hw with
    | number hy => exact (order_number_eq_lt_iff hx hy).trans ⟨.number, fun | .number h => h⟩
  | time s =>
    cases hw with
    | time t => exact order_time_eq_lt_iff.trans ⟨.time, fun | .time h => h⟩
  | list ss =>
    cases hw with
    | list ts => exact ⟨(nomatch ·), (nomatch ·)⟩

lemma not_less_null_left {v : Value} : ¬Less .null v :=
  (nomatch ·)

lemma not_less_null_right {v : Value} : ¬Less v .null :=
  (nomatch ·)

lemma isNull_iff {v : Value} : v.isNull = true ↔ v = .null := by
  cases v <;> simp [isNull]

end Value

namespace SortDirective

variable {d : SortDirective} {a b : Row}

/-- The directive puts the one row in front of the other. -/
@[mk_iff]
inductive PutsFirst (d : SortDirective) (a b : Row) : Prop
  | nullsFirst : d.nulls = .first → a.key d.key = .null → b.key d.key ≠ .null → PutsFirst d a b
  | nullsLast : d.nulls = .last → a.key d.key ≠ .null → b.key d.key = .null → PutsFirst d a b
  | ascending : d.direction = .ascending → (a.key d.key).Less (b.key d.key) → PutsFirst d a b
  | descending : d.direction = .descending → (b.key d.key).Less (a.key d.key) → PutsFirst d a b

/-- The directive does not tell the rows apart. -/
def Ties (d : SortDirective) (a b : Row) : Prop :=
  ¬d.PutsFirst a b ∧ ¬d.PutsFirst b a

lemma compare_eq_lt_iff (ha : a.HasNumbers) (hb : b.HasNumbers) :
    d.compare a b = .lt ↔ d.PutsFirst a b := by
  rw [compare_eq, putsFirst_iff]
  rcases ha.key d.key with ⟨hx, hxkind⟩ | hx <;> rcases hb.key d.key with ⟨hy, hykind⟩ | hy <;>
    rw [hx, hy] <;> dsimp only
  · -- neither key is null, and the direction decides
    cases hdirection : d.direction with
    | ascending => simp [hxkind.ne_null, hykind.ne_null, hxkind.order_eq_lt_iff hykind]
    | descending =>
      rw [← hykind.order_swap hxkind]
      simp [hxkind.ne_null, hykind.ne_null, hykind.order_eq_lt_iff hxkind]
  · rw [Value.isNull_iff.mp hy]
    cases d.nulls <;> simp [hxkind.ne_null, Value.not_less_null_left, Value.not_less_null_right]
  · rw [Value.isNull_iff.mp hx]
    cases d.nulls <;> simp [hykind.ne_null, Value.not_less_null_left, Value.not_less_null_right]
  · rw [Value.isNull_iff.mp hx, Value.isNull_iff.mp hy]
    simp [Value.not_less_null_left]

lemma compare_eq_gt_iff (ha : a.HasNumbers) (hb : b.HasNumbers) :
    d.compare a b = .gt ↔ d.PutsFirst b a := by
  rw [compare_swap ha hb, Ordering.swap_eq_gt, compare_eq_lt_iff hb ha]

lemma compare_eq_eq_iff (ha : a.HasNumbers) (hb : b.HasNumbers) :
    d.compare a b = .eq ↔ d.Ties a b := by
  rw [Ties, ← compare_eq_lt_iff ha hb, ← compare_eq_gt_iff ha hb]
  cases d.compare a b <;> simp

end SortDirective

section Directives

variable {sort : List SortDirective} {a b : Row}

/-- The first directive that tells the rows apart puts the one in front of the other. -/
def Before (sort : List SortDirective) (a b : Row) : Prop :=
  ∃ (earlier : List SortDirective) (d : SortDirective) (later : List SortDirective),
    sort = earlier ++ d :: later ∧ (∀ e ∈ earlier, e.Ties a b) ∧ d.PutsFirst a b

/-- No directive tells the rows apart. -/
def Tied (sort : List SortDirective) (a b : Row) : Prop :=
  ∀ d ∈ sort, d.Ties a b

lemma before_nil : ¬Before [] a b := by
  rintro ⟨earlier, d, later, hsort, -⟩
  exact List.append_ne_nil_of_right_ne_nil _ (List.cons_ne_nil d later) hsort.symm

lemma before_cons {d : SortDirective} :
    Before (d :: sort) a b ↔ d.PutsFirst a b ∨ d.Ties a b ∧ Before sort a b := by
  constructor
  · rintro ⟨earlier, e, later, hsort, hties, hfirst⟩
    cases earlier with
    | nil =>
      cases hsort
      exact .inl hfirst
    | cons e' earlier =>
      cases hsort
      obtain ⟨hd, hearlier⟩ := List.forall_mem_cons.mp hties
      exact .inr ⟨hd, earlier, e, later, rfl, hearlier, hfirst⟩
  · rintro (hfirst | ⟨hd, earlier, e, later, rfl, hties, hfirst⟩)
    · exact ⟨[], d, sort, rfl, by simp, hfirst⟩
    · exact ⟨d :: earlier, e, later, rfl, List.forall_mem_cons.mpr ⟨hd, hties⟩, hfirst⟩

variable (ha : a.HasNumbers) (hb : b.HasNumbers)

include ha hb

lemma compareRows_eq_lt_iff : compareRows sort a b = .lt ↔ Before sort a b := by
  induction sort with
  | nil => exact ⟨(nomatch ·), fun h => (before_nil h).elim⟩
  | cons d sort ih =>
    rw [compareRows, Ordering.then_eq_lt, SortDirective.compare_eq_lt_iff ha hb,
      SortDirective.compare_eq_eq_iff ha hb, ih, before_cons]

lemma compareRows_eq_eq_iff : compareRows sort a b = .eq ↔ Tied sort a b := by
  induction sort with
  | nil => exact ⟨fun _ => by simp [Tied], fun _ => rfl⟩
  | cons d sort ih =>
    rw [compareRows, Ordering.then_eq_eq, SortDirective.compare_eq_eq_iff ha hb, ih, Tied, Tied,
      List.forall_mem_cons]

end Directives

/-! ## Stable sorts -/

/-- The rows, each with its place in storage, put in order: every row is before the later ones, or
tied with them and stored earlier. -/
def IsStableSort (sort : List SortDirective) (rows sorted : List Row) : Prop :=
  ∃ placed : List (Row × Nat), placed.Perm rows.zipIdx ∧ placed.map Prod.fst = sorted ∧
    placed.Pairwise fun p q => Before sort p.1 q.1 ∨ Tied sort p.1 q.1 ∧ p.2 < q.2

variable {sort : List SortDirective}

lemma not_before_or_tied {p q : Row × Nat} (hp : p.1.HasNumbers) (hq : q.1.HasNumbers)
    (h : Before sort p.1 q.1 ∨ Tied sort p.1 q.1 ∧ p.2 < q.2) :
    ¬(Before sort q.1 p.1 ∨ Tied sort q.1 p.1 ∧ q.2 < p.2) := by
  have hswap := (transCmp_compareRows sort).eq_swap (a := ⟨p.1, hp⟩) (b := ⟨q.1, hq⟩)
  rw [← compareRows_eq_lt_iff hp hq, ← compareRows_eq_eq_iff hp hq] at h
  rw [← compareRows_eq_lt_iff hq hp, ← compareRows_eq_eq_iff hq hp]
  dsimp only at hswap
  rcases h with h | ⟨h, hless⟩
  · rw [h, eq_comm, Ordering.swap_eq_lt] at hswap
    simp [hswap]
  · rw [h, eq_comm, Ordering.swap_eq_eq] at hswap
    rintro (hback | ⟨-, hback⟩)
    · rw [hswap] at hback
      cases hback
    · omega

lemma IsStableSort.unique {rows sorted sorted' : List Row} (hrows : ∀ r ∈ rows, r.HasNumbers)
    (h : IsStableSort sort rows sorted) (h' : IsStableSort sort rows sorted') :
    sorted = sorted' := by
  obtain ⟨placed, hperm, rfl, horder⟩ := h
  obtain ⟨placed', hperm', rfl, horder'⟩ := h'
  have hnumbers : ∀ p ∈ rows.zipIdx, p.1.HasNumbers := fun p hp =>
    hrows p.1 (List.fst_mem_of_mem_zipIdx hp)
  -- with their places in storage no two rows are tied, so that the order is strict
  refine congrArg _ (List.Perm.eq_of_pairwise (fun p q hp hq hpq hqp => ?_) horder horder'
    (hperm.trans hperm'.symm))
  exact absurd hqp (not_before_or_tied (hnumbers p (hperm.subset hp))
    (hnumbers q (hperm'.subset hq)) hpq)

lemma before_or_tied_of_zipIdxLE {p q : NumberedRow × Nat} (hne : p.2 ≠ q.2)
    (h : List.zipIdxLE (fun a b : NumberedRow => mayPrecede sort a.1 b.1) p q = true) :
    Before sort p.1.1 q.1.1 ∨ Tied sort p.1.1 q.1.1 ∧ p.2 < q.2 := by
  have hswap := (transCmp_compareRows sort).eq_swap (a := q.1) (b := p.1)
  rw [← compareRows_eq_lt_iff p.1.2 q.1.2, ← compareRows_eq_eq_iff p.1.2 q.1.2]
  rw [List.zipIdxLE, mayPrecede_eq_isLE, mayPrecede_eq_isLE, hswap] at h
  cases hcompare : compareRows sort p.1.1 q.1.1 with
  | lt => exact .inl rfl
  | eq =>
    simp only [hcompare] at h
    exact .inr ⟨rfl, by simp at h; omega⟩
  | gt => simp [hcompare] at h

theorem isStableSort_mergeSort {rows : List Row} (h : ∀ r ∈ rows, r.HasNumbers) :
    IsStableSort sort rows (rows.mergeSort (mayPrecede sort)) := by
  lift rows to List NumberedRow using h
  let le : NumberedRow → NumberedRow → Bool := fun a b => mayPrecede sort a.1 b.1
  let placed := rows.zipIdx.mergeSort (List.zipIdxLE le)
  have hperm : placed.Perm rows.zipIdx := List.mergeSort_perm _ _
  have hplaces : (placed.map Prod.snd).Nodup := by
    rw [(hperm.map Prod.snd).nodup_iff, List.zipIdx_map_snd]
    exact List.nodup_range'
  refine ⟨placed.map (Prod.map Subtype.val id), ?_, ?_, ?_⟩
  · rw [List.zipIdx_map]
    exact hperm.map _
  · calc (placed.map (Prod.map Subtype.val id)).map Prod.fst
        = (placed.map Prod.fst).map Subtype.val := by rw [List.map_map, List.map_map]; rfl
      _ = (rows.mergeSort le).map Subtype.val := by rw [List.mergeSort_zipIdx]
      _ = (rows.map Subtype.val).mergeSort (mayPrecede sort) := (mergeSort_map_val sort rows).symm
  · rw [List.pairwise_map]
    have hsorted : placed.Pairwise fun p q => List.zipIdxLE le p q = true :=
      List.pairwise_mergeSort (List.zipIdxLE_trans (mayPrecede_trans sort))
        (List.zipIdxLE_total (mayPrecede_total sort)) _
    exact (hsorted.and (List.pairwise_map.mp hplaces)).imp fun h =>
      before_or_tied_of_zipIdxLE h.2 h.1

/-! ## Selections -/

/-- The selection makes the row of an item without a NaN. -/
structure Selection.Makes (s : Selection) (row : Row) : Prop where
  numbers : row.item.HasNumbers
  scores : scoresOf s.filter.parameters row.item s.ranks = .ok row.scores

namespace Selection

variable {s : Selection}

lemma Makes.hasNumbers {row : Row} (h : s.Makes row) : row.HasNumbers :=
  ⟨h.numbers, isNumber_of_scoresOf h.scores⟩

lemma compareRows_swap {a b : Row} (ha : s.Makes a) (hb : s.Makes b) :
    compareRows s.sort a b = (compareRows s.sort b a).swap :=
  (transCmp_compareRows s.sort).eq_swap (a := ⟨a, ha.hasNumbers⟩) (b := ⟨b, hb.hasNumbers⟩)

lemma compareRows_trans {a b c : Row} (ha : s.Makes a) (hb : s.Makes b) (hc : s.Makes c)
    (hab : (compareRows s.sort a b).isLE = true) (hbc : (compareRows s.sort b c).isLE = true) :
    (compareRows s.sort a c).isLE = true :=
  (transCmp_compareRows s.sort).isLE_trans (a := ⟨a, ha.hasNumbers⟩) (b := ⟨b, hb.hasNumbers⟩)
    (c := ⟨c, hc.hasNumbers⟩) hab hbc

lemma unknownKey?_eq_none
    (h : ∀ d ∈ s.sort, Column.ofName? d.key ≠ none ∨ ∃ c ∈ s.ranks, c.name = d.key) :
    s.unknownKey? = none := by
  refine Option.eq_none_iff_forall_ne_some.mpr fun key hkey => ?_
  obtain ⟨d, hd, hcolumn, hrank⟩ := Library.exists_unknownKey_iff.mp ⟨key, hkey⟩
  obtain hcolumn' | ⟨c, hc, hname⟩ := h d hd
  · exact hcolumn' hcolumn
  · exact hrank c hc hname

lemma makes_of_rows {items : List Item} {rows : List Row}
    (h : List.Forall₂ (fun i row => row.item = i ∧
      scoresOf s.filter.parameters i s.ranks = .ok row.scores) items rows)
    (hitems : ∀ i ∈ items, i.HasNumbers) : ∀ row ∈ rows, s.Makes row := by
  induction h with
  | nil => simp
  | cons hrow _ ih =>
    obtain ⟨rfl, hscores⟩ := hrow
    obtain ⟨hitem, hrest⟩ := List.forall_mem_cons.mp hitems
    exact List.forall_mem_cons.mpr ⟨⟨hitem, hscores⟩, ih hrest⟩

end Selection

namespace Library

variable {l : Library} {now : Time.Instant} {s : Selection}

lemma scoresOf_eq_error {ps : Parameters} {earlier later : List RankColumn} {c : RankColumn}
    {e : StoreError} (hearlier : ∀ d ∈ earlier, ∃ text, ps.text d.query = .ok text)
    (hc : ps.text c.query = .error e) (i : Item) :
    scoresOf ps i (earlier ++ c :: later) = .error e := by
  obtain ⟨scores, hscores⟩ := exists_scoresOf hearlier i
  unfold scoresOf at hscores ⊢
  rw [List.foldlM_append, hscores]
  simp only [List.foldlM_cons, RankColumn.score, hc, bind, Except.bind]

lemma select_of_scoresOf_error {items : List Item} {e : StoreError}
    (h : l.matching now s.filter = .ok items) (hitems : items ≠ [])
    (hscores : ∀ i, scoresOf s.filter.parameters i s.ranks = .error e) :
    l.select now s = .error e := by
  have hrows : (items.mapM fun i => do
      return (⟨i, ← scoresOf s.filter.parameters i s.ranks⟩ : Row)) = .error e := by
    obtain ⟨i, items, rfl⟩ := List.exists_cons_of_ne_nil hitems
    rw [List.mapM_cons, hscores]
    rfl
  simp only [bind, Except.bind] at hrows
  simp only [select, h, hrows, bind, Except.bind]

lemma select_of_matching {items : List Item} (h : l.matching now s.filter = .ok items)
    (hnumbers : ∀ i ∈ items, i.HasNumbers)
    (hranks : items = [] ∨ ∀ c ∈ s.ranks, ∃ text, s.filter.parameters.text c.query = .ok text)
    (hkeys : s.unknownKey? = none) :
    (∃ result, l.select now s = .ok result) ∧
    ∀ result, l.select now s = .ok result ↔ ∃ rows sorted,
      List.Forall₂ (fun i row => row.item = i ∧
        scoresOf s.filter.parameters i s.ranks = .ok row.scores) items rows ∧
      IsStableSort s.sort rows sorted ∧ result = (sorted.drop s.offset).take s.limit := by
  obtain ⟨rows, hrows⟩ : ∃ rows, (items.mapM fun i => do
      return (⟨i, ← scoresOf s.filter.parameters i s.ranks⟩ : Row)) = .ok rows := by
    rcases hranks with rfl | hranks
    · exact ⟨[], rfl⟩
    · exact exists_rows hranks items
  have hselect : l.select now s =
      .ok (((rows.mergeSort (mayPrecede s.sort)).drop s.offset).take s.limit) := by
    rw [select_eq_window, ordered_of_rows h hrows hkeys]
    rfl
  have hscored := rows_eq_ok_iff.mp hrows
  have hmade : ∀ row ∈ rows, row.HasNumbers := fun row hrow =>
    (Selection.makes_of_rows hscored hnumbers row hrow).hasNumbers
  refine ⟨⟨_, hselect⟩, fun result => ⟨fun hresult => ?_, ?_⟩⟩
  · cases hselect.symm.trans hresult
    exact ⟨rows, _, hscored, isStableSort_mergeSort hmade, rfl⟩
  · rintro ⟨rows', sorted, hscored', hsorted, rfl⟩
    cases hrows.symm.trans (rows_eq_ok_iff.mpr hscored')
    rw [hselect, hsorted.unique hmade (isStableSort_mergeSort hmade)]

/-- If the filter can be evaluated on every item and every sort key exists, the rows that the
selection makes are compared by a total preorder: by the first directive that tells two of them
apart. If also the rank columns refer to texts, the selection is the window of the one stable sort
of the accepted items' rows. Otherwise it fails with the error of the first column that does not,
unless it accepts no item. -/
theorem select_sorts_stably (hnumbers : ∀ i ∈ l.items, i.HasNumbers)
    (hfilter : ∀ i ∈ l.items, ∃ b, s.filter.accepts now i = .ok b)
    (hkeys : ∀ d ∈ s.sort, Column.ofName? d.key ≠ none ∨ ∃ c ∈ s.ranks, c.name = d.key) :
    let accepted := l.items.filter (s.filter.passes now)
    let ps := s.filter.parameters
    (∀ a b c, s.Makes a → s.Makes b → s.Makes c →
      compareRows s.sort a b = (compareRows s.sort b a).swap ∧
      ((compareRows s.sort a b).isLE = true → (compareRows s.sort b c).isLE = true →
        (compareRows s.sort a c).isLE = true) ∧
      (compareRows s.sort a b = .lt ↔ Before s.sort a b) ∧
      (compareRows s.sort a b = .eq ↔ Tied s.sort a b)) ∧
    ((accepted = [] ∨ ∀ c ∈ s.ranks, ∃ text, ps.text c.query = .ok text) →
      (∃ result, l.select now s = .ok result) ∧
      ∀ result, l.select now s = .ok result ↔ ∃ rows sorted,
        List.Forall₂ (fun i row => row.item = i ∧ scoresOf ps i s.ranks = .ok row.scores)
          accepted rows ∧
        IsStableSort s.sort rows sorted ∧ result = (sorted.drop s.offset).take s.limit) ∧
    ∀ earlier c later e, s.ranks = earlier ++ c :: later →
      (∀ d ∈ earlier, ∃ text, ps.text d.query = .ok text) → ps.text c.query = .error e →
      accepted ≠ [] → l.select now s = .error e := by
  intro accepted ps
  have haccepted : l.matching now s.filter = .ok accepted := matching_eq_ok_iff.mpr ⟨hfilter, rfl⟩
  refine ⟨fun a b c ha hb hc => ⟨Selection.compareRows_swap ha hb,
    Selection.compareRows_trans ha hb hc, compareRows_eq_lt_iff ha.hasNumbers hb.hasNumbers,
    compareRows_eq_eq_iff ha.hasNumbers hb.hasNumbers⟩, fun hranks => ?_, ?_⟩
  · exact select_of_matching haccepted (fun i hi => hnumbers i (List.mem_of_mem_filter hi)) hranks
      (Selection.unknownKey?_eq_none hkeys)
  · intro earlier c later e hsplit hearlier hc hne
    refine select_of_scoresOf_error haccepted hne fun i => ?_
    rw [hsplit]
    exact scoresOf_eq_error hearlier hc i

/-- The longest item first and the one without a word count in front of it, below a list that tells
nothing apart. Two items of one length stay as they are stored. -/
theorem select_sorts_stably_nulls_first :
    let a := { Item.saved "a" "u1" "Notes" .epoch with wordCount := some 3 }
    let b := Item.saved "b" "u1" "Coffee" .epoch
    let c := { Item.saved "c" "u2" "Coffee notes" .epoch with wordCount := some 5 }
    let d := { Item.saved "d" "u1" "Coffee" .epoch with wordCount := some 3, labelNames := ["x"] }
    let l : Library := { items := [a, b, c, d] }
    let s : Selection :=
      { filter := ⟨none, ⟨[⟨"q_0", .text "coffee"⟩]⟩⟩
        ranks := [⟨.search, "q_0", "rank_0"⟩]
        sort := [⟨"label_names", .ascending, .last⟩, ⟨"word_count", .descending, .first⟩]
        offset := 1
        limit := 3 }
    (∀ i ∈ l.items, i.HasNumbers) ∧
    (∀ i ∈ l.items, ∃ b, s.filter.accepts .epoch i = .ok b) ∧
    (∀ d ∈ s.sort, Column.ofName? d.key ≠ none ∨ ∃ c ∈ s.ranks, c.name = d.key) ∧
    (∀ c ∈ s.ranks, ∃ text, s.filter.parameters.text c.query = .ok text) ∧
    ∃ rows, l.select .epoch s = .ok rows ∧ rows.map (·.item.id) = ["c", "a", "d"] := by
  intro a b c d l s
  have hnumbers : ∀ i ∈ l.items, i.HasNumbers := by
    have hall : ∀ i ∈ l.items, Double.IsNumber i.readingProgressTop ∧
        Double.IsNumber i.readingProgressBottom := by decide +kernel
    exact fun i hi => ⟨(hall i hi).1, (hall i hi).2⟩
  have hfilter : ∀ i ∈ l.items, ∃ b, s.filter.accepts .epoch i = .ok b := fun i _ => ⟨true, rfl⟩
  have hkeys : ∀ d ∈ s.sort, Column.ofName? d.key ≠ none ∨ ∃ c ∈ s.ranks, c.name = d.key := by
    decide +kernel
  have hranks : ∀ c ∈ s.ranks, ∃ text, s.filter.parameters.text c.query = .ok text := by
    intro c hc
    cases List.mem_singleton.mp hc
    exact ⟨"coffee", rfl⟩
  let row (i : Item) : Row :=
    ⟨i, [("rank_0", (FullText.Query.parse "coffee").rank (i.title ++ " " ++ i.content))]⟩
  have hscores (i : Item) : scoresOf s.filter.parameters i s.ranks = .ok (row i).scores := rfl
  have hrows : List.Forall₂ (fun i row => row.item = i ∧
      scoresOf s.filter.parameters i s.ranks = .ok row.scores) [a, b, c, d]
      ([a, b, c, d].map row) :=
    List.forall₂_map_right_iff.mpr (List.forall₂_same.mpr fun i _ => ⟨rfl, hscores i⟩)
  have hmade : ∀ r ∈ [row a, row b, row c, row d], r.HasNumbers := fun r hr =>
    (Selection.makes_of_rows hrows hnumbers r hr).hasNumbers
  let placed := [(row b, 1), (row c, 2), (row a, 0), (row d, 3)]
  have hperm : placed.Perm [row a, row b, row c, row d].zipIdx :=
    (List.Perm.cons _ (List.Perm.swap ..)).trans (List.Perm.swap ..)
  have hcompared : placed.Pairwise fun p q => compareRows s.sort p.1 q.1 = .lt ∨
      compareRows s.sort p.1 q.1 = .eq ∧ p.2 < q.2 := by decide +kernel
  have horder : placed.Pairwise fun p q =>
      Before s.sort p.1 q.1 ∨ Tied s.sort p.1 q.1 ∧ p.2 < q.2 := by
    refine hcompared.imp_of_mem fun {p q} hp hq h => ?_
    have hp' := hmade p.1 (List.fst_mem_of_mem_zipIdx (hperm.subset hp))
    have hq' := hmade q.1 (List.fst_mem_of_mem_zipIdx (hperm.subset hq))
    rwa [compareRows_eq_lt_iff hp' hq', compareRows_eq_eq_iff hp' hq'] at h
  obtain ⟨-, hselect, -⟩ := select_sorts_stably hnumbers hfilter hkeys
  obtain ⟨-, hiff⟩ := hselect (.inr hranks)
  exact ⟨hnumbers, hfilter, hkeys, hranks, _,
    (hiff _).mpr ⟨_, _, hrows, ⟨placed, hperm, rfl, horder⟩, rfl⟩, rfl⟩

/-- A rank column over a name that is not bound: there are no rows to sort. -/
theorem select_fails_of_unbound_rank :
    let l : Library := { items := [Item.saved "a" "u1" "Notes" .epoch] }
    let s : Selection := ⟨⟨none, ⟨[]⟩⟩, [⟨.search, "ghost_0", "rank_0"⟩], [], 0, 1000⟩
    (∀ i ∈ l.items, i.HasNumbers) ∧
    (∀ i ∈ l.items, s.filter.accepts .epoch i = .ok true) ∧
    (∀ d ∈ s.sort, Column.ofName? d.key ≠ none ∨ ∃ c ∈ s.ranks, c.name = d.key) ∧
    l.select .epoch s = .error (.unbound "ghost_0") ∧
    ∀ rows, l.select .epoch s ≠ .ok rows := by
  intro l s
  have hfails : l.select .epoch s = .error (.unbound "ghost_0") := rfl
  refine ⟨fun i hi => ?_, fun i _ => rfl, by simp [s], hfails, fun rows hrows => ?_⟩
  · cases List.mem_singleton.mp hi
    exact ⟨by decide, by decide⟩
  · cases hfails.symm.trans hrows

end Library

end ReadLater
