import ReadLater.Command.Table
import ReadLater.Proofs.Columns

/-!
# Cells of tables

A text that is too wide for its column is cut after the characters that fit each on its own. As some
are wider in the text, what is kept of it may still be too wide; the cell then takes more columns
than the others in its column.
-/

namespace ReadLater.Text

/-- The longest beginning of a text whose characters, each on its own, leave one of the columns. -/
structure Cut (columns : Nat) (s kept : List Char) : Prop where
  begins : kept <+: s
  room : ownWidths kept < columns
  longest : ∀ c, kept ++ [c] <+: s → columns ≤ ownWidths kept + ownWidth c

lemma cut_fitting (room : Nat) (s : List Char) : Cut (room + 1) s (fitting room s) := by
  induction s generalizing room with
  | nil =>
    refine ⟨List.prefix_rfl, Nat.succ_pos room, fun c hc => ?_⟩
    cases List.prefix_nil.mp hc
  | cons d s ih =>
    rw [fitting]
    by_cases hd : ownWidth d ≤ room
    · obtain ⟨hbegins, hroom, hlongest⟩ := ih (room - ownWidth d)
      simp only [← ownWidth.eq_def d, if_pos hd]
      refine ⟨List.cons_prefix_cons.mpr ⟨rfl, hbegins⟩, ?_, fun c hc => ?_⟩
      · rw [ownWidths]
        omega
      · have hfurther := hlongest c (List.cons_prefix_cons.mp hc).2
        rw [ownWidths]
        omega
    · simp only [← ownWidth.eq_def d, if_neg hd]
      refine ⟨List.nil_prefix, Nat.succ_pos room, fun c hc => ?_⟩
      obtain ⟨rfl, -⟩ := List.cons_prefix_cons.mp hc
      exact Nat.le_trans (Nat.lt_of_not_le hd) (Nat.le_add_left _ _)

namespace Cut

variable {columns : Nat} {s kept kept' : List Char}

lemma length_le (h : Cut columns s kept) (h' : Cut columns s kept') :
    kept'.length ≤ kept.length := by
  refine Nat.le_of_not_lt fun hlonger => ?_
  obtain ⟨c, rest, rfl⟩ : ∃ c rest, kept' = kept ++ c :: rest := by
    obtain ⟨rest, hrest⟩ :=
      List.prefix_of_prefix_length_le h.begins h'.begins (Nat.le_of_lt hlonger)
    cases rest with
    | nil =>
      rw [← hrest, List.append_nil] at hlonger
      exact absurd hlonger (Nat.lt_irrefl _)
    | cons c rest => exact ⟨c, rest, hrest.symm⟩
  -- The longer beginning has room for a character that does not fit behind the shorter one.
  have hnext : kept ++ [c] <+: s := by
    refine List.IsPrefix.trans ⟨rest, ?_⟩ h'.begins
    rw [List.append_assoc, List.singleton_append]
  have hfurther := h.longest c hnext
  have hroom := h'.room
  rw [ownWidths_append, ownWidths] at hroom
  omega

lemma unique (h : Cut columns s kept) (h' : Cut columns s kept') : kept = kept' := by
  refine List.IsPrefix.eq_of_length ?_ (Nat.le_antisymm (h'.length_le h) (h.length_le h'))
  exact List.prefix_of_prefix_length_le h.begins h'.begins (h'.length_le h)

/-- What is kept of a text is too wide by no more than its characters that are wider in it. -/
lemma width_lt (h : Cut columns s kept) : width kept < columns + widened kept := by
  have hwidth := width_le kept
  have hroom := h.room
  omega

lemma widened_le (h : Cut columns s kept) : widened kept ≤ widened s := by
  obtain ⟨rest, rfl⟩ := h.begins
  exact widened_le_append kept rest

end Cut

/-- The text fits, or what is kept of it leaves a column for the ellipsis also as it is measured. -/
def StaysIn (columns : Nat) (s : List Char) : Prop :=
  width s ≤ columns ∨ ∀ kept, Cut columns s kept → width kept < columns

section Truncation

variable {columns : Nat} {s : List Char}

lemma truncate_of_fits (h : width s ≤ columns) : truncate columns s = s := by
  rw [truncate, if_pos h]

lemma exists_cut_of_wide (hcolumns : 1 ≤ columns) (h : columns < width s) :
    ∃ kept, Cut columns s kept ∧ truncate columns s = kept ++ ['…'] := by
  obtain ⟨room, rfl⟩ := Nat.exists_eq_add_of_le' hcolumns
  refine ⟨fitting room s, cut_fitting room s, ?_⟩
  rw [truncate, if_neg (Nat.not_le_of_lt h), if_neg (Nat.succ_ne_zero room), Nat.add_sub_cancel]

lemma staysIn_iff_truncate (hcolumns : 1 ≤ columns) :
    StaysIn columns s ↔ width (truncate columns s) ≤ columns := by
  rcases Nat.lt_or_ge columns (width s) with hwide | hfits
  · obtain ⟨kept, hcut, hkept⟩ := exists_cut_of_wide hcolumns hwide
    rw [hkept, width_append_ellipsis]
    constructor
    · rintro (hfits | hroom)
      · exact absurd hwide (Nat.not_lt_of_le hfits)
      · exact hroom kept hcut
    · intro hroom
      refine .inr fun kept' hcut' => ?_
      rwa [hcut'.unique hcut]
  · rw [truncate_of_fits hfits]
    exact ⟨fun _ => hfits, .inl⟩

lemma staysIn_iff_padColumns (hcolumns : 1 ≤ columns) :
    StaysIn columns s ↔ width (padColumns columns (truncate columns s)) = columns := by
  rw [staysIn_iff_truncate hcolumns, width_padColumns]
  omega

lemma staysIn_of_widened (h : widened s = 0) : StaysIn columns s := by
  refine .inr fun kept hcut => ?_
  have hkept := hcut.widened_le
  have hwidth := hcut.width_lt
  omega

end Truncation

end ReadLater.Text

namespace ReadLater.Command

open Text

/-- A text that fits its column is shown as it is, and of any other one the cell shows what fits of
it character by character. A cell is as wide as its column just if its text stays in the column, as
each does that has no characters which are wider in it than on their own; so it is for the titles
and folders of a page. -/
theorem cell_columns {columns : Nat} (hcolumns : 1 ≤ columns) (s : String) :
    (width s.toList ≤ columns → truncate columns s.toList = s.toList) ∧
      (columns < width s.toList → ∃ kept, Cut columns s.toList kept ∧
        truncate columns s.toList = kept ++ ['…'] ∧
        width (truncate columns s.toList) = width kept + 1 ∧
        width kept < columns + widened kept) ∧
      width (cell columns s) = max columns (width (truncate columns s.toList)) ∧
      (StaysIn columns s.toList ↔ width (truncate columns s.toList) ≤ columns) ∧
      (StaysIn columns s.toList ↔ width (cell columns s) = columns) ∧
      (widened s.toList = 0 → StaysIn columns s.toList) ∧
      ∀ p : Page, (∀ r ∈ p.rows, StaysIn titleColumns r.item.title.toList ∧
          StaysIn folderColumns r.item.folder.toList) ↔
        ∀ r ∈ p.rows, width (cell titleColumns r.item.title) = titleColumns ∧
          width (cell folderColumns r.item.folder) = folderColumns := by
  refine ⟨truncate_of_fits, fun hwide => ?_, width_padColumns _ _, staysIn_iff_truncate hcolumns,
    staysIn_iff_padColumns hcolumns, staysIn_of_widened, fun p => ?_⟩
  · obtain ⟨kept, hcut, hkept⟩ := exists_cut_of_wide hcolumns hwide
    refine ⟨kept, hcut, hkept, ?_, hcut.width_lt⟩
    rw [hkept, width_append_ellipsis]
  · refine forall₂_congr fun r _ => and_congr ?_ ?_
    · exact staysIn_iff_padColumns (by decide)
    · exact staysIn_iff_padColumns (by decide)

/-- Ideographs of two columns, of which one would take the last column and the one after it. -/
theorem cell_columns_ideographs :
    let s := String.ofList (List.replicate 30 '漢')
    1 ≤ titleColumns ∧ titleColumns < width s.toList ∧ widened s.toList = 0 ∧
      truncate titleColumns s.toList = List.replicate 23 '漢' ++ ['…'] ∧
      width (truncate titleColumns s.toList) = 47 ∧
      width (cell titleColumns s) = titleColumns := by
  intro s
  have hs : s.toList = List.replicate 30 '漢' := String.toList_ofList
  have hcolumns : 1 ≤ titleColumns := by decide
  obtain ⟨-, -, -, -, hcell, hstays, -⟩ := cell_columns hcolumns s
  have hwidened : widened s.toList = 0 := by
    rw [hs]
    decide +kernel
  refine ⟨hcolumns, ?_, hwidened, ?_, ?_, hcell.mp (hstays hwidened)⟩
  · rw [hs]
    decide +kernel
  · rw [hs]
    decide +kernel
  · rw [hs]
    decide +kernel

/-- Each character of these hearts fits on its own, but the selectors of the emoji style make the
title too wide. -/
theorem hearts_leave_column :
    let s := String.ofList ('I' :: (List.replicate 30 ['❤', '\uFE0F']).flatten)
    truncate titleColumns s.toList = s.toList ++ ['…'] ∧
      ¬width (truncate titleColumns s.toList) ≤ titleColumns ∧
      width (cell titleColumns s) = 62 ∧ width (cell titleColumns "Notes") = titleColumns := by
  intro s
  have hs : s.toList = 'I' :: (List.replicate 30 ['❤', '\uFE0F']).flatten := String.toList_ofList
  rw [cell, hs]
  decide +kernel

end ReadLater.Command
