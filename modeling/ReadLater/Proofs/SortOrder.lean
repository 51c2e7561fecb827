import Mathlib.Data.Set.List
import Mathlib.Tactic.Lemma
import Mathlib.Tactic.Lift
import ReadLater.Library.Selection
import ReadLater.Proofs.Typing

/-!
# The order of rows

Among rows that hold no NaN the sort directives compare like a total preorder. So sorting the rows
puts them in order, and those that no directive tells apart stay in storage order.
-/

namespace ReadLater

open Std (OrientedCmp TransCmp)

namespace Value

lemma OfKind.isNull {k : ValueKind} {v : Value} (h : OfKind k v) : v.isNull = false := by
  cases h <;> rfl

/-- The order of values of one kind; lists are not told apart. -/
def order (a b : Value) : Ordering :=
  (a.compare? b).getD .eq

lemma order_text (s t : String) : order (.text s) (.text t) = compare s t := rfl

lemma order_time (s t : Time.Instant) :
    order (.time s) (.time t) = compareLex (compareOn (·.seconds)) (compareOn (·.nanos)) s t := rfl

lemma order_number {x y : Float} {k l : Int} (hx : Double.orderKey? x = some k)
    (hy : Double.orderKey? y = some l) : order (.number x) (.number y) = compare k l := by
  simp [order, compare?, Double.compare?, hx, hy]

lemma OfKind.order_swap {k : ValueKind} {a b : Value} (ha : OfKind k a) (hb : OfKind k b) :
    a.order b = (b.order a).swap := by
  cases ha with
  | text s =>
    cases hb with
    | text t =>
      rw [order_text, order_text]
      exact OrientedCmp.eq_swap
  | number hx =>
    cases hb with
    | number hy =>
      obtain ⟨m, hm⟩ := hx.exists_orderKey
      obtain ⟨n, hn⟩ := hy.exists_orderKey
      rw [order_number hm hn, order_number hn hm]
      exact OrientedCmp.eq_swap
  | time s =>
    cases hb with
    | time t =>
      rw [order_time, order_time]
      exact OrientedCmp.eq_swap
  | list ss =>
    cases hb with
    | list ts => rfl

lemma OfKind.order_trans {k : ValueKind} {a b c : Value} (ha : OfKind k a) (hb : OfKind k b)
    (hc : OfKind k c) (hab : (a.order b).isLE = true) (hbc : (b.order c).isLE = true) :
    (a.order c).isLE = true := by
  cases ha with
  | text s =>
    cases hb with
    | text t =>
      cases hc with
      | text u =>
        rw [order_text] at hab hbc ⊢
        exact TransCmp.isLE_trans hab hbc
  | number hx =>
    cases hb with
    | number hy =>
      cases hc with
      | number hz =>
        obtain ⟨l, hl⟩ := hx.exists_orderKey
        obtain ⟨m, hm⟩ := hy.exists_orderKey
        obtain ⟨n, hn⟩ := hz.exists_orderKey
        rw [order_number hl hm] at hab
        rw [order_number hm hn] at hbc
        rw [order_number hl hn]
        exact TransCmp.isLE_trans hab hbc
  | time s =>
    cases hb with
    | time t =>
      cases hc with
      | time u =>
        rw [order_time] at hab hbc ⊢
        exact TransCmp.isLE_trans hab hbc
  | list ss =>
    cases hb with
    | list ts =>
      cases hc with
      | list us => rfl

end Value

/-- Neither the item nor a score of the row is a NaN. -/
structure Row.HasNumbers (r : Row) : Prop where
  item : r.item.HasNumbers
  scores : ∀ s ∈ r.scores, Double.IsNumber s.2

/-- The kind of the values under a key, those of a rank column being numbers. -/
def sortKind (key : String) : ValueKind :=
  match Column.ofName? key with
  | some c => c.kind
  | none => .number

lemma Row.HasNumbers.key {r : Row} (h : r.HasNumbers) (key : String) :
    (r.key key).isNull = false ∧ (r.key key).OfKind (sortKind key) ∨
      (r.key key).isNull = true := by
  unfold Row.key sortKind
  cases Column.ofName? key with
  | some c =>
    rcases Item.ofKind_or_null h.item c with hvalue | ⟨-, hnull⟩
    · exact .inl ⟨hvalue.isNull, hvalue⟩
    · exact .inr (congrArg Value.isNull hnull)
  | none =>
    cases hfind : r.scores.find? fun s => s.1 == key with
    | none => exact .inr rfl
    | some s => exact .inl ⟨rfl, .number (h.scores s (List.mem_of_find?_eq_some hfind))⟩

namespace SortDirective

variable {d : SortDirective} {a b c : Row}

lemma compare_eq (d : SortDirective) (a b : Row) :
    d.compare a b =
      match (a.key d.key).isNull, (b.key d.key).isNull with
      | true, true => .eq
      | true, false => if d.nulls = .first then .lt else .gt
      | false, true => if d.nulls = .first then .gt else .lt
      | false, false =>
        match d.direction with
        | .ascending => (a.key d.key).order (b.key d.key)
        | .descending => ((a.key d.key).order (b.key d.key)).swap := rfl

lemma compare_swap (ha : a.HasNumbers) (hb : b.HasNumbers) :
    d.compare a b = (d.compare b a).swap := by
  rw [compare_eq, compare_eq]
  rcases ha.key d.key with ⟨hx, hxkind⟩ | hx <;> rcases hb.key d.key with ⟨hy, hykind⟩ | hy <;>
    rw [hx, hy] <;> dsimp only
  · cases d.direction <;> rw [hxkind.order_swap hykind]
  · split <;> rfl
  · split <;> rfl
  · rfl

lemma compare_trans (ha : a.HasNumbers) (hb : b.HasNumbers) (hc : c.HasNumbers)
    (hab : (d.compare a b).isLE = true) (hbc : (d.compare b c).isLE = true) :
    (d.compare a c).isLE = true := by
  rw [compare_eq] at hab hbc ⊢
  rcases ha.key d.key with ⟨hx, hxkind⟩ | hx <;> rcases hb.key d.key with ⟨hy, hykind⟩ | hy <;>
    rcases hc.key d.key with ⟨hz, hzkind⟩ | hz <;>
    simp only [hx, hy, hz] at hab hbc ⊢
  · cases hdirection : d.direction with
    | ascending =>
      simp only [hdirection] at hab hbc
      exact hxkind.order_trans hykind hzkind hab hbc
    | descending =>
      simp only [hdirection, ← hykind.order_swap hxkind, ← hzkind.order_swap hykind] at hab hbc
      rw [← hzkind.order_swap hxkind]
      exact hzkind.order_trans hykind hxkind hbc hab
  -- a null among the three: the place of nulls decides
  all_goals cases hnulls : d.nulls <;> simp [hnulls] at hab hbc ⊢

end SortDirective

/-- A row without a NaN. -/
abbrev NumberedRow := { r : Row // r.HasNumbers }

instance (d : SortDirective) : TransCmp fun a b : NumberedRow => d.compare a.1 b.1 where
  eq_swap {a b} := SortDirective.compare_swap a.2 b.2
  isLE_trans {a b c} := SortDirective.compare_trans a.2 b.2 c.2

instance transCmp_compareRows (sort : List SortDirective) :
    TransCmp fun a b : NumberedRow => compareRows sort a.1 b.1 := by
  induction sort with
  | nil => exact { eq_swap := rfl, isLE_trans := fun _ _ => rfl }
  | cons d rest ih =>
    exact inferInstanceAs (TransCmp (compareLex (fun a b : NumberedRow => d.compare a.1 b.1)
      fun a b : NumberedRow => compareRows rest a.1 b.1))

/-- The row may stand before the other one. -/
def mayPrecede (sort : List SortDirective) (a b : Row) : Bool :=
  compareRows sort a b != .gt

lemma mayPrecede_eq_isLE (sort : List SortDirective) (a b : Row) :
    mayPrecede sort a b = (compareRows sort a b).isLE := by
  unfold mayPrecede
  cases compareRows sort a b <;> rfl

lemma mayPrecede_trans (sort : List SortDirective) (a b c : NumberedRow)
    (hab : mayPrecede sort a.1 b.1 = true) (hbc : mayPrecede sort b.1 c.1 = true) :
    mayPrecede sort a.1 c.1 = true := by
  rw [mayPrecede_eq_isLE] at hab hbc ⊢
  exact (transCmp_compareRows sort).isLE_trans hab hbc

lemma mayPrecede_total (sort : List SortDirective) (a b : NumberedRow) :
    (mayPrecede sort a.1 b.1 || mayPrecede sort b.1 a.1) = true := by
  have hswap := (transCmp_compareRows sort).eq_swap (a := a) (b := b)
  rw [mayPrecede_eq_isLE, mayPrecede_eq_isLE, hswap]
  cases compareRows sort b.1 a.1 <;> rfl

lemma mergeSort_map_val (sort : List SortDirective) (rows : List NumberedRow) :
    (rows.map Subtype.val).mergeSort (mayPrecede sort) =
      (rows.mergeSort fun a b => mayPrecede sort a.1 b.1).map Subtype.val :=
  (List.map_mergeSort (f := Subtype.val) fun _ _ _ _ => rfl).symm

theorem pairwise_sorted (sort : List SortDirective) {rows : List Row}
    (h : ∀ r ∈ rows, r.HasNumbers) :
    (rows.mergeSort (mayPrecede sort)).Pairwise fun a b => mayPrecede sort a b = true := by
  lift rows to List NumberedRow using h
  rw [mergeSort_map_val, List.pairwise_map]
  exact List.pairwise_mergeSort (mayPrecede_trans sort) (mayPrecede_total sort) rows

/-- Rows that are in order already, such as those that no directive tells apart, keep their order
among each other. -/
theorem sublist_sorted (sort : List SortDirective) {rows kept : List Row}
    (h : ∀ r ∈ rows, r.HasNumbers) (hkept : kept.Sublist rows)
    (horder : kept.Pairwise fun a b => mayPrecede sort a b = true) :
    kept.Sublist (rows.mergeSort (mayPrecede sort)) := by
  lift rows to List NumberedRow using h
  obtain ⟨kept, hsublist, rfl⟩ := List.sublist_map_iff.mp hkept
  rw [mergeSort_map_val]
  refine List.Sublist.map _ (List.sublist_mergeSort (mayPrecede_trans sort)
    (mayPrecede_total sort) ?_ hsublist)
  exact List.pairwise_map.mp horder

end ReadLater
