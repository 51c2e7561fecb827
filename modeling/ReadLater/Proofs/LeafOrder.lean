import ReadLater.Proofs.Contribution

/-!
# What tags add to the order of a query

Free text adds a rank over the one parameter that it binds, a `sort:` tag its directive, and no
other tag has a part in the order.
-/

namespace ReadLater

namespace Query.Tag

/-- Free text that is not blank. It is searched for and ranked by. -/
def isSearch (t : Tag) : Bool :=
  match t.field with
  | .freeText => Text.trim t.operand.text != ""
  | .named _ _ => false

/-- The directive of a `sort:` tag that is not blank. -/
def directive? (t : Tag) : Option SortDirective :=
  let value := Text.trim t.operand.text
  match t.field with
  | .freeText => none
  | .named field _ =>
    if Keyword.ofName? field = some .sort ∧ value ≠ "" then
      (TagOperand.sort ⟨field, value, t.operand.isQuoted⟩).toOption.bind (·.sort)
    else none

lemma directive?_of_isSearch {t : Tag} (h : t.isSearch = true) : t.directive? = none := by
  obtain ⟨field, operand⟩ := t
  cases field with
  | freeText => rfl
  | named field quoted => cases h

end Query.Tag

/-- Neither a rank nor a directive is added. -/
def Contribution.Unordered (c : Contribution) : Prop :=
  c.ranked = none ∧ c.sort = none

namespace TagOperand

open Contribution

variable {t : TagOperand} {c : Contribution} {bound : Nat}

lemma inPlace_unordered (t : TagOperand) (foldersScoped : Bool) (bound : Nat) :
    (t.inPlace foldersScoped bound).Unordered := by
  unfold inPlace
  split_ifs <;> exact ⟨rfl, rfl⟩

lemma isProgress_unordered (h : t.isProgress = .ok c) : c.Unordered := by
  obtain ⟨test, -, rfl⟩ := isProgress_eq_ok h
  exact ⟨rfl, rfl⟩

lemma has_unordered (h : t.has = .ok c) : c.Unordered := by
  obtain ⟨test, -, rfl⟩ := has_eq_ok h
  exact ⟨rfl, rfl⟩

lemma no_unordered (h : t.no = .ok c) : c.Unordered := by
  obtain ⟨test, -, rfl⟩ := no_eq_ok h
  exact ⟨rfl, rfl⟩

lemma anyLabel_unordered (bound : Nat) (labels : List String) (test : Predicate)
    (parameters : List Parameter) : (anyLabel bound test parameters labels).Unordered := by
  induction labels generalizing bound test parameters with
  | nil => exact ⟨rfl, rfl⟩
  | cons label rest ih => exact ih _ _ _

lemma label_unordered (h : t.label bound = .ok c) : c.Unordered := by
  obtain ⟨first, rest, -, rfl⟩ := label_eq_ok h
  exact anyLabel_unordered _ _ _ _

lemma includes_unordered (h : t.includes bound = .ok c) : c.Unordered := by
  rw [includes_eq_ok h]
  exact ⟨rfl, rfl⟩

lemma recommendedBy_unordered (t : TagOperand) (bound : Nat) :
    (t.recommendedBy bound).Unordered := by
  unfold recommendedBy
  split_ifs <;> exact ⟨rfl, rfl⟩

lemma date_unordered {stem : String} {column : Column} {options : CompileOptions}
    (h : t.date stem column options bound = .ok c) : c.Unordered := by
  obtain ⟨start, stop, rfl⟩ := date_eq_ok h
  exact ⟨rfl, rfl⟩

lemma number_unordered {stem : String} {column : Column} (h : t.number stem column bound = .ok c) :
    c.Unordered := by
  obtain ⟨comparison, rest, n, -, rfl⟩ := number_eq_ok h
  exact ⟨rfl, rfl⟩

end TagOperand

lemma Keyword.contribution_unordered {k : Keyword} {options : CompileOptions} {bound : Nat}
    {t : TagOperand} {c : Contribution} (hk : k ≠ .sort)
    (h : k.contribution options bound t = .ok c) : c.Unordered := by
  cases k with
  | sort => exact absurd rfl hk
  | inPlace => cases h; exact t.inPlace_unordered _ _
  | isProgress => exact TagOperand.isProgress_unordered h
  | has => exact TagOperand.has_unordered h
  | no => exact TagOperand.no_unordered h
  | label => exact TagOperand.label_unordered h
  | includes => exact TagOperand.includes_unordered h
  | recommendedBy => cases h; exact t.recommendedBy_unordered _
  | saved | read | updated | published =>
    simp only [contribution] at h
    exact TagOperand.date_unordered h
  | readPosition | wordsCount =>
    simp only [contribution] at h
    exact TagOperand.number_unordered h
  | itemType | subscription | rss | language | author | title | description | note | site
  | use | mode => cases h; exact ⟨rfl, rfl⟩

/-- What a tag adds to the order: a rank over the one parameter that free text binds, or the
directive of a `sort:` tag. -/
structure Contribution.Orders (t : Query.Tag) (c : Contribution) : Prop where
  ranked : if t.isSearch then
      ∃ name text, c.ranked = some name ∧ c.parameters = [⟨name, .text text⟩]
    else c.ranked = none
  sort : c.sort = t.directive?

lemma Query.Tag.contribution_orders {t : Query.Tag} {options : CompileOptions} {bound : Nat}
    {c : Contribution} (h : t.contribution options bound = .ok c) : c.Orders t := by
  obtain ⟨field, operand⟩ := t
  unfold contribution at h
  dsimp only at h
  cases field with
  | freeText =>
    dsimp only at h
    split_ifs at h with hblank
    · cases h
      exact ⟨by simp [isSearch, hblank], rfl⟩
    · cases h
      refine ⟨?_, rfl⟩
      rw [if_pos (by simpa [isSearch] using hblank)]
      exact ⟨_, _, rfl, rfl⟩
  | named field quoted =>
    dsimp only at h
    cases hk : Keyword.ofName? field with
    | none =>
      rw [hk] at h
      cases h
    | some k =>
      rw [hk] at h
      dsimp only at h
      by_cases hblank : Text.trim operand.text = ""
      · rw [if_pos hblank] at h
        cases h
        exact ⟨rfl, by simp [directive?, hblank]⟩
      · rw [if_neg hblank] at h
        rcases eq_or_ne k .sort with rfl | hne
        · simp only [Keyword.contribution] at h
          refine ⟨?_, ?_⟩
          · rw [TagOperand.sort_eq h]
            rfl
          · simp [directive?, hk, hblank, h, Except.toOption]
        · obtain ⟨hranked, hsort⟩ := Keyword.contribution_unordered hne h
          exact ⟨hranked, by simp [directive?, hk, hne, hsort]⟩

end ReadLater
