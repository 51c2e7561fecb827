import Mathlib.Data.List.Perm.Basic
import Mathlib.Data.Set.List
import ReadLater.Proofs.SortOrder
import ReadLater.Proofs.Totality

/-!
# Items that no directive tells apart

The default order of a search is by a time, which two items may share. Items that are tied stay in
storage order. So libraries that store the same items in different orders show them in one order up
to ties, and show the same pages when tied items are stored in one order.
-/

namespace ReadLater

section Sorting

variable {α : Type}

lemma pair_sublist_or {as : List α} {a b : α} (ha : a ∈ as) (hb : b ∈ as) (hne : a ≠ b) :
    [a, b].Sublist as ∨ [b, a].Sublist as := by
  induction as with
  | nil => cases ha
  | cons c cs ih =>
    rcases List.mem_cons.mp ha with rfl | ha' <;> rcases List.mem_cons.mp hb with rfl | hb'
    · exact absurd rfl hne
    · exact .inl (.cons_cons _ (List.singleton_sublist.mpr hb'))
    · exact .inr (.cons_cons _ (List.singleton_sublist.mpr ha'))
    · exact (ih ha' hb').imp (.cons _) (.cons _)

lemma not_pair_sublist {as : List α} (h : as.Nodup) {a b : α} (hab : [a, b].Sublist as) :
    ¬[b, a].Sublist as := by
  induction as with
  | nil => cases hab
  | cons c cs ih =>
    obtain ⟨hc, hcs⟩ := List.nodup_cons.mp h
    intro hba
    rcases List.cons_sublist_cons'.mp hab with hab' | ⟨rfl, hb⟩
    · rcases List.cons_sublist_cons'.mp hba with hba' | ⟨rfl, -⟩
      · exact ih hcs hab' hba'
      · exact hc (hab'.subset (by simp))
    · rcases List.cons_sublist_cons'.mp hba with hba' | ⟨rfl, -⟩
      · exact hc (hba'.subset (by simp))
      · exact hc (List.singleton_sublist.mp hb)

lemma map_sublist_map_iff {β : Type} {f : α → β} (hf : f.Injective) {as bs : List α} :
    (as.map f).Sublist (bs.map f) ↔ as.Sublist bs := by
  refine ⟨fun h => ?_, fun h => h.map f⟩
  obtain ⟨cs, hcs, heq⟩ := List.sublist_map_iff.mp h
  rwa [hf.list_map heq]

variable {le : α → α → Bool} (htrans : ∀ a b c, le a b = true → le b c = true → le a c = true)
  (htotal : ∀ a b, (le a b || le b a) = true) {as bs : List α}

include htrans htotal

/-- Sorted lists of the same elements agree at each place up to ties. -/
theorem tied_of_perm (h : as.Perm bs) :
    List.Forall₂ (fun a b => le a b = true ∧ le b a = true)
      (as.mergeSort le) (bs.mergeSort le) := by
  -- ties are equal sets of what stands below
  let below : α → Set α := fun a => {c | le c a = true}
  have hmono : ∀ {a b}, le a b = true → below a ⊆ below b := fun hab c hc => htrans c _ _ hc hab
  have hsorted : ∀ cs : List α, ((cs.mergeSort le).map below).Pairwise (· ⊆ ·) := fun cs =>
    List.pairwise_map.mpr ((List.pairwise_mergeSort htrans htotal cs).imp hmono)
  have hperm : ((as.mergeSort le).map below).Perm ((bs.mergeSort le).map below) :=
    (((List.mergeSort_perm as le).trans h).trans (List.mergeSort_perm bs le).symm).map below
  have heq := hperm.eq_of_pairwise (fun _ _ _ _ => Set.Subset.antisymm) (hsorted as) (hsorted bs)
  have hrefl : ∀ a, le a a = true := fun a => by simpa using htotal a a
  rw [← List.forall₂_eq_eq_eq, List.forall₂_map_left_iff, List.forall₂_map_right_iff] at heq
  exact heq.imp fun a b hab => ⟨hab.subset (hrefl a), hab.symm.subset (hrefl b)⟩

lemma pairwise_precedes (h : as.Nodup) : (as.mergeSort le).Pairwise fun a b =>
    le a b = true ∧ (le b a = true → [a, b].Sublist as) := by
  refine List.pairwise_iff_forall_sublist.mpr fun {a b} hab => ?_
  have hle := List.pairwise_iff_forall_sublist.mp (List.pairwise_mergeSort htrans htotal as) hab
  refine ⟨hle, fun hback => ?_⟩
  have hperm := List.mergeSort_perm as le
  have hnodup := hperm.nodup_iff.mpr h
  have hne : a ≠ b := by
    rintro rfl
    exact List.nodup_iff_sublist.mp hnodup a hab
  have ha : a ∈ as := hperm.mem_iff.mp (hab.subset (by simp))
  have hb : b ∈ as := hperm.mem_iff.mp (hab.subset (by simp))
  refine (pair_sublist_or ha hb hne).resolve_right fun hba => ?_
  exact not_pair_sublist hnodup hab (List.pair_sublist_mergeSort htrans htotal hback hba)

theorem mergeSort_eq_of_perm (hperm : as.Perm bs) (hnodup : as.Nodup)
    (hties : ∀ a ∈ as, ∀ b ∈ as, a ≠ b → le a b = true → le b a = true →
      ([a, b].Sublist as ↔ [a, b].Sublist bs)) : as.mergeSort le = bs.mergeSort le := by
  have hbs := hperm.nodup_iff.mp hnodup
  -- both sorts are ordered by `le` and then by the places in `as`, which only one list is
  have hsorted : (bs.mergeSort le).Pairwise fun a b =>
      le a b = true ∧ (le b a = true → [a, b].Sublist as) := by
    refine (pairwise_precedes htrans htotal hbs).imp fun {a b} h => ⟨h.1, fun hback => ?_⟩
    have hab := h.2 hback
    have hne : a ≠ b := by
      rintro rfl
      exact List.nodup_iff_sublist.mp hbs a hab
    exact (hties a (hperm.mem_iff.mpr (hab.subset (by simp))) b
      (hperm.mem_iff.mpr (hab.subset (by simp))) hne h.1 hback).mpr hab
  refine List.Perm.eq_of_pairwise (fun a b _ _ hab hba => ?_)
    (pairwise_precedes htrans htotal hnodup) hsorted
    (((List.mergeSort_perm as le).trans hperm).trans (List.mergeSort_perm bs le).symm)
  exact absurd (hba.2 hab.1) (not_pair_sublist hnodup (hab.2 hba.1))

end Sorting

/-- The row of an item in the selection. -/
def Selection.row (s : Selection) (i : Item) : Row :=
  ⟨i, (scoresOf s.filter.parameters i s.ranks).toOption.getD []⟩

lemma eq_map_row {s : Selection} {items : List Item} {rows : List Row}
    (h : List.Forall₂ (fun i row => row.item = i ∧
      scoresOf s.filter.parameters i s.ranks = .ok row.scores) items rows) :
    rows = items.map s.row := by
  induction h with
  | nil => rfl
  | @cons i row items rows hrow _ ih =>
    obtain ⟨item, scores⟩ := row
    obtain ⟨rfl, hscores⟩ := hrow
    rw [List.map_cons, ← ih, Selection.row, hscores]
    rfl

lemma compareRows_eq_iff {sort : List SortDirective} {a b : Row} (ha : a.HasNumbers)
    (hb : b.HasNumbers) :
    compareRows sort a b = .eq ↔ mayPrecede sort a b = true ∧ mayPrecede sort b a = true := by
  have hswap : compareRows sort a b = (compareRows sort b a).swap :=
    (transCmp_compareRows sort).eq_swap (a := ⟨a, ha⟩) (b := ⟨b, hb⟩)
  rw [mayPrecede, mayPrecede, hswap]
  cases compareRows sort b a <;> decide

namespace Library

variable {l l' : Library} {clock : Time.Instant} {s : SearchSettings} {now : Time.Moment}
  {r : SearchRequest} {selection : Selection}

/-- The items that the selection accepts, in storage order. -/
def accepted (l : Library) (clock : Time.Instant) (selection : Selection) : List Item :=
  l.items.filter (selection.filter.passes clock)

/-- The rows of the accepted items in the order of the selection. -/
def sortedRows (l : Library) (clock : Time.Instant) (selection : Selection) : List Row :=
  ((l.accepted clock selection).map selection.row).mergeSort (mayPrecede selection.sort)

/-- The page of a selection, with the number of all rows if it is asked for. -/
def pageOf (selection : Selection) (withTotal : Bool) (sorted : List Row) : Page :=
  let rows := (sorted.drop selection.offset).take selection.limit
  { rows
    nextCursor :=
      if rows.length = selection.limit then
        some (Cursor.write (selection.offset + selection.limit)) else none
    total := if withTotal then some sorted.length else none }

lemma search_eq_pageOf (hselection : r.selection s now = .ok selection)
    (hkeys : selection.unknownKey? = none) : l.search clock s r now =
      .ok (pageOf selection r.includeTotal (l.sortedRows clock selection)) := by
  obtain ⟨items, hitems⟩ :=
    exists_matching (SearchRequest.evaluable_of_selection hselection) l clock
  obtain ⟨rows, hrows⟩ := exists_rows (SearchRequest.text_of_ranks hselection) items
  have hordered : l.ordered clock selection = .ok (l.sortedRows clock selection) := by
    rw [ordered_of_rows hitems hrows hkeys, eq_map_row (rows_eq_ok_iff.mp hrows),
      (matching_eq_ok_iff.mp hitems).2]
    rfl
  have hselect : l.select clock selection = .ok (((l.sortedRows clock selection).drop
      selection.offset).take selection.limit) := by
    rw [select_eq_window, hordered]
    rfl
  have hlength : (l.sortedRows clock selection).length = items.length := by
    rw [sortedRows, List.length_mergeSort, List.length_map, accepted,
      (matching_eq_ok_iff.mp hitems).2]
  rw [search_of_select hselection hselect, total?,
    count_eq_ok_iff.mpr ⟨items, hitems, rfl⟩, pageOf, hlength]
  cases r.includeTotal <;> rfl

/-- Rows that are in order already, such as ties, are shown in storage order. -/
lemma search_of_ordered_rows (hselection : r.selection s now = .ok selection)
    (hkeys : selection.unknownKey? = none)
    (horder : ((l.accepted clock selection).map selection.row).Pairwise fun a b =>
      mayPrecede selection.sort a b = true) :
    l.search clock s r now =
      .ok (pageOf selection r.includeTotal ((l.accepted clock selection).map selection.row)) := by
  rw [search_eq_pageOf hselection hkeys, sortedRows, List.mergeSort_of_pairwise horder]

lemma search_error_iff (l l' : Library) {e : RequestError} :
    l.search clock s r now = .error e ↔ l'.search clock s r now = .error e := by
  cases hselection : r.selection s now with
  | error e' => rw [search_of_selection_error hselection, search_of_selection_error hselection]
  | ok selection =>
    cases hkey : selection.unknownKey? with
    | none => simp [search_eq_pageOf hselection hkey]
    | some key => rw [search_of_unknownKey hselection hkey, search_of_unknownKey hselection hkey]

lemma exists_mem_withDefaultSort (sort : List SortDirective) (fallback : SortDirective) :
    ∃ d ∈ withDefaultSort sort fallback, d.key = fallback.key := by
  unfold withDefaultSort
  split_ifs with hany
  · simpa using hany
  · exact ⟨fallback, by simp, rfl⟩

/-! ## Permuted libraries -/

section Permuted

lemma pair_sublist_accepted {i j : Item} (hi : i ∈ l.accepted clock selection)
    (hj : j ∈ l.accepted clock selection) :
    [i, j].Sublist (l.accepted clock selection) ↔ [i, j].Sublist l.items := by
  refine ⟨fun h => h.trans List.filter_sublist, fun h => ?_⟩
  have hpair := h.filter (selection.filter.passes clock)
  rwa [List.filter_cons_of_pos (List.of_mem_filter hi),
    List.filter_cons_of_pos (List.of_mem_filter hj), List.filter_nil] at hpair

/-- An item whose row in the selection holds no NaN. -/
abbrev NumberedItem (selection : Selection) := { i : Item // (selection.row i).HasNumbers }

/-- The row of the item may stand before that of the other one. -/
def itemLe (selection : Selection) (i j : NumberedItem selection) : Bool :=
  mayPrecede selection.sort (selection.row i.1) (selection.row j.1)

lemma itemLe_trans (i j k : NumberedItem selection) (hij : itemLe selection i j = true)
    (hjk : itemLe selection j k = true) : itemLe selection i k = true :=
  mayPrecede_trans selection.sort ⟨_, i.2⟩ ⟨_, j.2⟩ ⟨_, k.2⟩ hij hjk

lemma itemLe_total (i j : NumberedItem selection) :
    (itemLe selection i j || itemLe selection j i) = true :=
  mayPrecede_total selection.sort ⟨_, i.2⟩ ⟨_, j.2⟩

lemma exists_sortedRows (h : ∀ i ∈ l.accepted clock selection, (selection.row i).HasNumbers) :
    ∃ items : List (NumberedItem selection), items.map Subtype.val = l.accepted clock selection ∧
      l.sortedRows clock selection =
        (items.mergeSort (itemLe selection)).map fun i => selection.row i.1 := by
  unfold sortedRows
  generalize l.accepted clock selection = items at h ⊢
  lift items to List (NumberedItem selection) using h
  refine ⟨items, rfl, ?_⟩
  have hrow : ∀ i ∈ items, ∀ j ∈ items, itemLe selection i j =
      mayPrecede selection.sort (selection.row i.1) (selection.row j.1) := fun _ _ _ _ => rfl
  rw [List.map_map]
  exact (List.map_mergeSort (f := fun i : NumberedItem selection => selection.row i.1) hrow).symm

variable (hnumbers : ∀ i ∈ l.accepted clock selection, (selection.row i).HasNumbers)

include hnumbers

lemma pair_sublist_rows (hids : (l.items.map (·.id)).Nodup) {i j : Item}
    (hi : i ∈ l.accepted clock selection) (hj : j ∈ l.accepted clock selection)
    (hij : [i, j].Sublist l.items)
    (htie : compareRows selection.sort (selection.row i) (selection.row j) = .eq) {rows : List Row}
    (hrows : rows.Sublist (l.sortedRows clock selection)) (hi' : selection.row i ∈ rows)
    (hj' : selection.row j ∈ rows) : [selection.row i, selection.row j].Sublist rows := by
  have hnumbers' : ∀ row ∈ (l.accepted clock selection).map selection.row, row.HasNumbers := by
    simpa using hnumbers
  have hrow : Function.Injective selection.row := fun _ _ h => congrArg Row.item h
  have hnodup : (l.sortedRows clock selection).Nodup := by
    rw [sortedRows, (List.mergeSort_perm _ _).nodup_iff]
    exact (hids.of_map.filter _).map hrow
  have hne : selection.row i ≠ selection.row j := by
    intro heq
    have hsame : i = j := hrow heq
    exact List.nodup_iff_sublist.mp hids.of_map i (hsame ▸ hij)
  have hsorted : [selection.row i, selection.row j].Sublist (l.sortedRows clock selection) := by
    refine sublist_sorted selection.sort hnumbers'
      (((pair_sublist_accepted hi hj).mpr hij).map selection.row) ?_
    simp [mayPrecede, htie]
  exact (pair_sublist_or hi' hj' hne).resolve_right fun h =>
    not_pair_sublist hnodup hsorted (h.trans hrows)

variable (hperm : l.items.Perm l'.items)

include hperm

/-- Both libraries sort the same items. -/
lemma exists_perm_sortedRows : ∃ items items' : List (NumberedItem selection), items.Perm items' ∧
    items.map Subtype.val = l.accepted clock selection ∧
    items'.map Subtype.val = l'.accepted clock selection ∧
    l.sortedRows clock selection =
      (items.mergeSort (itemLe selection)).map (fun i => selection.row i.1) ∧
    l'.sortedRows clock selection =
      (items'.mergeSort (itemLe selection)).map fun i => selection.row i.1 := by
  have haccepted : (l.accepted clock selection).Perm (l'.accepted clock selection) :=
    hperm.filter _
  obtain ⟨items, hitems, hsorted⟩ := exists_sortedRows hnumbers
  obtain ⟨items', hitems', hsorted'⟩ :=
    exists_sortedRows (l := l') fun i hi => hnumbers i (haccepted.mem_iff.mpr hi)
  rw [← hitems, ← hitems', List.map_perm_map_iff Subtype.val_injective] at haccepted
  exact ⟨items, items', haccepted, hitems, hitems', hsorted, hsorted'⟩

lemma sortedRows_tied : List.Forall₂ (fun a b => compareRows selection.sort a b = .eq)
    (l.sortedRows clock selection) (l'.sortedRows clock selection) := by
  obtain ⟨items, items', hitems, -, -, hsorted, hsorted'⟩ := exists_perm_sortedRows hnumbers hperm
  rw [hsorted, hsorted', List.forall₂_map_left_iff, List.forall₂_map_right_iff]
  exact (tied_of_perm itemLe_trans itemLe_total hitems).imp fun i j hij =>
    (compareRows_eq_iff i.2 j.2).mpr hij

lemma sortedRows_eq (hids : (l.items.map (·.id)).Nodup)
    (hties : ∀ i ∈ l.accepted clock selection, ∀ j ∈ l.accepted clock selection, i.id ≠ j.id →
      compareRows selection.sort (selection.row i) (selection.row j) = .eq →
      ([i, j].Sublist l.items ↔ [i, j].Sublist l'.items)) :
    l.sortedRows clock selection = l'.sortedRows clock selection := by
  obtain ⟨items, items', hitems, hmap, hmap', hsorted, hsorted'⟩ :=
    exists_perm_sortedRows hnumbers hperm
  have hnodup : items.Nodup := by
    refine List.Nodup.of_map Subtype.val ?_
    rw [hmap]
    exact hids.of_map.filter _
  have hmem : ∀ {i}, i ∈ items → i.1 ∈ l.accepted clock selection := fun hi =>
    hmap ▸ List.mem_map_of_mem hi
  rw [hsorted, hsorted', mergeSort_eq_of_perm itemLe_trans itemLe_total hitems hnodup]
  intro i hi j hj hne hij hji
  have hiff := pair_sublist_accepted (l := l) (hmem hi) (hmem hj)
  have hiff' := pair_sublist_accepted (l := l') ((hperm.filter _).mem_iff.mp (hmem hi))
    ((hperm.filter _).mem_iff.mp (hmem hj))
  have hpair : [i.1, j.1] = [i, j].map Subtype.val := rfl
  rw [← hmap, hpair, map_sublist_map_iff Subtype.val_injective] at hiff
  rw [← hmap', hpair, map_sublist_map_iff Subtype.val_injective] at hiff'
  rw [hiff, hiff']
  refine hties i.1 (hmem hi) j.1 (hmem hj) (fun hid => hne (Subtype.ext ?_))
    ((compareRows_eq_iff i.2 j.2).mpr ⟨hij, hji⟩)
  exact List.inj_on_of_nodup_map hids (List.mem_of_mem_filter (hmem hi))
    (List.mem_of_mem_filter (hmem hj)) hid

end Permuted

/-- The order of a search always has a directive for the column of the default order, and without a
NaN a page shows ties in storage order. Two libraries that store the same items in different orders
fail alike, and their pages agree up to ties: each row of the one is tied with the row of the other
at its place, beside the same cursor and total. They are the same pages if the items that no
directive tells apart are stored in one order. -/
theorem search_of_perm (hperm : l.items.Perm l'.items) (hids : (l.items.map (·.id)).Nodup)
    (clock : Time.Instant) (s : SearchSettings) (now : Time.Moment) (r : SearchRequest) :
    (∀ e, l.search clock s r now = .error e ↔ l'.search clock s r now = .error e) ∧
    ∀ selection, r.selection s now = .ok selection →
      (∃ d ∈ selection.sort, d.key = (r.sort.getD s.defaultSort).key.column.name) ∧
      ((∀ i ∈ l.accepted clock selection, (selection.row i).HasNumbers) →
        (∀ page, l.search clock s r now = .ok page → ∀ i ∈ l.accepted clock selection,
          ∀ j ∈ l.accepted clock selection, [i, j].Sublist l.items →
          compareRows selection.sort (selection.row i) (selection.row j) = .eq →
          selection.row i ∈ page.rows → selection.row j ∈ page.rows →
          [selection.row i, selection.row j].Sublist page.rows) ∧
        (∀ page page', l.search clock s r now = .ok page → l'.search clock s r now = .ok page' →
          List.Forall₂ (fun a b => compareRows selection.sort a b = .eq) page.rows page'.rows ∧
          page'.nextCursor = page.nextCursor ∧ page'.total = page.total) ∧
        ((∀ i ∈ l.accepted clock selection, ∀ j ∈ l.accepted clock selection, i.id ≠ j.id →
            compareRows selection.sort (selection.row i) (selection.row j) = .eq →
            ([i, j].Sublist l.items ↔ [i, j].Sublist l'.items)) →
          l'.search clock s r now = l.search clock s r now)) := by
  refine ⟨fun e => search_error_iff l l', fun selection hselection => ⟨?_, fun hnumbers => ?_⟩⟩
  · obtain ⟨offset, c, -, -, rfl⟩ := SearchRequest.selection_eq_ok_iff.mp hselection
    exact exists_mem_withDefaultSort _ _
  · cases hkey : selection.unknownKey? with
    | some key =>
      have hfails : ∀ l : Library, l.search clock s r now = .error (.store (.noSuchColumn key)) :=
        fun l => search_of_unknownKey hselection hkey
      simp [hfails]
    | none =>
      have hpage : ∀ l : Library, l.search clock s r now =
          .ok (pageOf selection r.includeTotal (l.sortedRows clock selection)) :=
        fun l => search_eq_pageOf hselection hkey
      refine ⟨fun page h i hi j hj hij htie hi' hj' => ?_, fun page page' h h' => ?_,
        fun hties => ?_⟩
      · rw [hpage] at h
        cases h
        exact pair_sublist_rows hnumbers hids hi hj hij htie
          ((List.take_sublist _ _).trans (List.drop_sublist _ _)) hi' hj'
      · have htied := sortedRows_tied hnumbers hperm
        rw [hpage] at h h'
        cases h
        cases h'
        have hrows := List.forall₂_take selection.limit (List.forall₂_drop selection.offset htied)
        refine ⟨hrows, ?_, ?_⟩
        · simp only [pageOf, hrows.length_eq]
        · simp only [pageOf, htied.length_eq]
      · rw [hpage, hpage, sortedRows_eq hnumbers hperm hids hties]

/-- Two items that were saved at one time and a later one, which moves in storage while the two stay
in their order: the page is the same. -/
theorem search_of_perm_moved :
    let now : Time.Moment := ⟨.epoch, 0⟩
    let a := Item.saved "a" "u1" "Notes" .epoch
    let b := Item.saved "b" "u1" "Notes" .epoch
    let c := Item.saved "c" "u1" "Essays" ⟨60, 0, by decide⟩
    let l : Library := { items := [a, b, c] }
    let l' : Library := { items := [c, a, b] }
    let r : SearchRequest := { userId := "u1" }
    ∃ selection, r.selection {} now = .ok selection ∧
      (∃ d ∈ selection.sort, d.key = "updated_at") ∧
      compareRows selection.sort (selection.row a) (selection.row b) = .eq ∧
      (∀ i ∈ l.accepted .epoch selection, (selection.row i).HasNumbers) ∧
      (∃ page, l.search .epoch {} r now = .ok page) ∧
      l'.search .epoch {} r now = l.search .epoch {} r now := by
  intro now a b c l l' r
  have hkeys : (r.selection {} now).toOption.map (fun selection =>
      (selection.sort, selection.ranks)) =
      some ([⟨"updated_at", .descending, .last⟩], []) := by decide +kernel
  obtain ⟨selection, hselection, hkeys⟩ := Except.exists_of_toOption hkeys
  obtain ⟨hsort, hranks⟩ := Prod.mk.inj hkeys
  have hrow : ∀ i, selection.row i = ⟨i, []⟩ := by
    intro i
    rw [Selection.row, hranks]
    rfl
  have hnumbers : ∀ i ∈ l.accepted .epoch selection, (selection.row i).HasNumbers := by
    intro i hi
    have hmem : i ∈ [a, b, c] := List.mem_of_mem_filter hi
    simp only [List.mem_cons, List.not_mem_nil, or_false] at hmem
    rw [hrow]
    rcases hmem with rfl | rfl | rfl <;>
      exact ⟨⟨by decide +kernel, by decide +kernel⟩, by simp⟩
  have hperm : l.items.Perm l'.items :=
    (List.Perm.cons a (List.Perm.swap c b [])).trans (List.Perm.swap c a [b])
  obtain ⟨herror, hordered⟩ :=
    search_of_perm hperm (by decide +kernel) .epoch ({} : SearchSettings) now r
  obtain ⟨hdefault, hpages⟩ := hordered selection hselection
  have hunknown : selection.unknownKey? = none := by
    rw [Selection.unknownKey?, hsort, hranks]
    decide +kernel
  refine ⟨selection, hselection, hdefault, ?_, hnumbers,
    ⟨_, search_eq_pageOf hselection hunknown⟩, (hpages hnumbers).2.2 ?_⟩
  · rw [hsort, hrow, hrow]
    decide +kernel
  · intro i hi j hj hid hcompare
    have hmem : i ∈ [a, b, c] := List.mem_of_mem_filter hi
    have hmem' : j ∈ [a, b, c] := List.mem_of_mem_filter hj
    have hstored : ∀ i ∈ [a, b, c], ∀ j ∈ [a, b, c], i.id ≠ j.id →
        compareRows [⟨"updated_at", .descending, .last⟩] ⟨i, []⟩ ⟨j, []⟩ = .eq →
        ([i, j].Sublist l.items ↔ [i, j].Sublist l'.items) := by decide +kernel
    rw [hsort, hrow, hrow] at hcompare
    exact hstored i hmem j hmem' hid hcompare

/-- Two items with one update time are shown in the order in which they are stored. -/
theorem search_follows_storage :
    let now : Time.Moment := ⟨.epoch, 0⟩
    let a := Item.saved "a" "u1" "Notes" .epoch
    let b := Item.saved "b" "u1" "Notes" .epoch
    let l : Library := { items := [a, b] }
    let l' : Library := { items := [b, a] }
    let r : SearchRequest := { userId := "u1" }
    l.items.Perm l'.items ∧ (l.items.map (·.id)).Nodup ∧
    (∃ selection, r.selection {} now = .ok selection ∧
      selection.filter.accepts .epoch a = .ok true ∧
      selection.filter.accepts .epoch b = .ok true ∧
      compareRows selection.sort (selection.row a) (selection.row b) = .eq) ∧
    ∃ page page', l.search .epoch {} r now = .ok page ∧ l'.search .epoch {} r now = .ok page' ∧
      page.rows.map (·.item.id) = ["a", "b"] ∧ page'.rows.map (·.item.id) = ["b", "a"] := by
  intro now a b l l' r
  have hselected : (r.selection {} now).toOption.map (fun selection =>
      (selection.unknownKey?, [a, b].all (selection.filter.passes .epoch),
        compareRows selection.sort (selection.row a) (selection.row b),
        compareRows selection.sort (selection.row b) (selection.row a))) =
      some (none, true, .eq, .eq) := by decide +kernel
  have hshown : (r.selection {} now).toOption.map (fun selection =>
      ((pageOf selection false ([a, b].map selection.row)).rows.map (·.item.id),
        (pageOf selection false ([b, a].map selection.row)).rows.map (·.item.id))) =
      some (["a", "b"], ["b", "a"]) := by decide +kernel
  obtain ⟨selection, hselection, hfacts⟩ := Except.exists_of_toOption hselected
  simp only [Prod.mk.injEq, List.all_cons, List.all_nil, Bool.and_true, Bool.and_eq_true] at hfacts
  obtain ⟨hkeys, ⟨ha, hb⟩, hab, hba⟩ := hfacts
  rw [hselection] at hshown
  obtain ⟨hids, hids'⟩ := Prod.mk.inj (Option.some.inj hshown)
  have haccepted : l.accepted .epoch selection = [a, b] := by simp [accepted, l, ha, hb]
  have haccepted' : l'.accepted .epoch selection = [b, a] := by simp [accepted, l', ha, hb]
  refine ⟨.swap b a [], by decide +kernel,
    ⟨selection, hselection, Filter.passes_iff.mp ha, Filter.passes_iff.mp hb, hab⟩,
    _, _, search_of_ordered_rows hselection hkeys ?_, search_of_ordered_rows hselection hkeys ?_,
    ?_, ?_⟩
  · simp [haccepted, mayPrecede, hab]
  · simp [haccepted', mayPrecede, hba]
  · rw [haccepted]
    exact hids
  · rw [haccepted']
    exact hids'

end Library

end ReadLater
