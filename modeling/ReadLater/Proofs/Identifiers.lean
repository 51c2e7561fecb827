import ReadLater.Proofs.Decimal
import ReadLater.Proofs.FieldTyping
import ReadLater.Sql.Expression

/-!
# Plain identifiers

The names that stand in statements consist of small letters, digits and underscores: those of
columns, of parameters and of rank columns, and the keys that `sort:` accepts.
-/

namespace ReadLater

namespace Text

def isPlain (c : Char) : Bool :=
  ('a' ≤ c && c ≤ 'z') || isAsciiDigit c || c = '_'

/-- The text is a plain identifier. -/
def IsIdentifier (s : String) : Prop :=
  s ≠ "" ∧ s.toList.all isPlain = true

instance (s : String) : Decidable (IsIdentifier s) :=
  inferInstanceAs (Decidable (_ ∧ _))

lemma isIdentifier_numbered {stem : String} (h : IsIdentifier stem) (n : Nat) :
    IsIdentifier (numbered stem n) := by
  have hdigits : (decimal n).all isPlain = true := List.all_eq_true.mpr fun c hc => by
    simp [isPlain, isAsciiDigit_of_mem_decimal hc]
  have hchars : (numbered stem n).toList = stem.toList ++ '_' :: decimal n := by
    simp [numbered]
  refine ⟨fun hempty => ?_, ?_⟩
  · rw [hempty] at hchars
    simp at hchars
  · rw [hchars, List.all_append, h.2, List.all_cons, hdigits]
    decide

end Text

open Text (IsIdentifier isIdentifier_numbered)

lemma Column.isIdentifier_name (c : Column) : IsIdentifier c.name := by
  cases c <;> decide

lemma Column.name_of_ofName? {name : String} {c : Column} (h : ofName? name = some c) :
    c.name = name := by
  unfold ofName? at h
  simpa using List.find?_some h

lemma TagOperand.isIdentifier_of_sortKey? {key k : String} (hne : key ≠ "")
    (h : sortKey? key = some k) : IsIdentifier k := by
  unfold sortKey? at h
  split_ifs at h with htime hwords hposition hplain
  · cases h
    rcases htime with rfl | rfl | rfl | rfl <;> decide
  · cases h
    exact Column.isIdentifier_name _
  · cases h
    exact Column.isIdentifier_name _
  · cases h
    exact ⟨hne, hplain⟩

/-- An accepted operand of `sort:` orders by one identifier. -/
theorem TagOperand.sort_isIdentifier {t : TagOperand} {c : Contribution} (h : t.sort = .ok c) :
    ∃ d, c = { sort := some d } ∧ IsIdentifier d.key ∧ d.nulls = .last := by
  simp only [sort] at h
  split at h
  · cases h
  · rename_i hne
    split at h
    · cases h
    · rename_i key hkey
      cases h
      exact ⟨_, rfl, isIdentifier_of_sortKey? hne hkey, rfl⟩

lemma Sql.sortDirective_eq (d : SortDirective) :
    ∃ entry direction, (entry = "library_item." ++ d.key ∨ entry = d.key) ∧
      (direction = "ASC" ∨ direction = "DESC") ∧
      sortDirective d = entry ++ " " ++ direction ++ " " ++ d.nulls.name := by
  refine ⟨sortKey d.key, d.direction.name, ?_, ?_, rfl⟩
  · unfold sortKey
    cases hcolumn : Column.ofName? d.key with
    | none => exact .inr rfl
    | some c =>
      have hname := Column.name_of_ofName? hcolumn
      exact .inl (hname ▸ rfl)
  · cases d.direction with
    | ascending => exact .inl rfl
    | descending => exact .inr rfl

/-! ## Contributions -/

/-- The directive orders by an identifier, with nulls last. -/
def SortDirective.Plain (d : SortDirective) : Prop :=
  IsIdentifier d.key ∧ d.nulls = .last

/-- The names of the parameters and the key of the directive are identifiers. -/
structure Contribution.Plain (c : Contribution) : Prop where
  names : ∀ p ∈ c.parameters, IsIdentifier p.name
  sort : ∀ d, c.sort = some d → d.Plain

namespace Contribution

lemma plain_of_unbound {c : Contribution} (hparameters : c.parameters = [])
    (hsort : c.sort = none) : c.Plain where
  names := by simp [hparameters]
  sort := by simp [hsort]

lemma plain_ofValue {stem : String} (hstem : IsIdentifier stem) (bound : Nat)
    (value : ParameterValue) (test : String → Condition) :
    (ofValue bound stem value test).Plain where
  names p hp := by
    rw [List.mem_singleton.mp hp]
    exact isIdentifier_numbered hstem bound
  sort := by simp [ofValue]

end Contribution

namespace TagOperand

open Contribution

variable {t : TagOperand} {c : Contribution} {bound : Nat}

lemma freeText_plain (t : TagOperand) (bound : Nat) : (t.freeText bound).Plain where
  names p hp := by
    rw [List.mem_singleton.mp hp]
    exact isIdentifier_numbered (by decide) bound
  sort := by simp [freeText, ofValue]

lemma inPlace_plain (t : TagOperand) (foldersScoped : Bool) (bound : Nat) :
    (t.inPlace foldersScoped bound).Plain := by
  unfold inPlace
  split_ifs
  · exact plain_of_unbound rfl rfl
  · exact plain_of_unbound rfl rfl
  · exact plain_of_unbound rfl rfl
  · refine ⟨fun p hp => ?_, by simp⟩
    rw [List.mem_singleton.mp hp]
    exact isIdentifier_numbered (by decide) bound
  · exact plain_of_unbound rfl rfl

lemma isProgress_plain (h : t.isProgress = .ok c) : c.Plain := by
  obtain ⟨test, -, rfl⟩ := isProgress_eq_ok h
  exact plain_of_unbound rfl rfl

lemma has_plain (h : t.has = .ok c) : c.Plain := by
  obtain ⟨test, -, rfl⟩ := has_eq_ok h
  exact plain_of_unbound rfl rfl

lemma no_plain (h : t.no = .ok c) : c.Plain := by
  obtain ⟨test, -, rfl⟩ := no_eq_ok h
  exact plain_of_unbound rfl rfl

lemma sort_plain (h : t.sort = .ok c) : c.Plain := by
  obtain ⟨d, rfl, hd⟩ := sort_isIdentifier h
  refine ⟨by simp, ?_⟩
  rintro _ ⟨⟩
  exact hd

lemma wording_plain (t : TagOperand) {stem : String} (hstem : IsIdentifier stem) (column : Column)
    (bound : Nat) : (t.wording stem column bound).Plain where
  names p hp := by
    simp only [wording, List.mem_cons, List.not_mem_nil, or_false] at hp
    rcases hp with rfl | rfl <;> exact isIdentifier_numbered hstem _
  sort := by simp [wording]

lemma anyLabel_plain (bound : Nat) (labels : List String) (test : Predicate)
    {parameters : List Parameter} (h : ∀ p ∈ parameters, IsIdentifier p.name) :
    (anyLabel bound test parameters labels).Plain := by
  induction labels generalizing bound test parameters with
  | nil => exact ⟨h, by simp [anyLabel]⟩
  | cons label rest ih =>
    refine ih (bound + 1) _ fun p hp => ?_
    rcases List.mem_append.mp hp with hold | hnew
    · exact h p hold
    · rw [List.mem_singleton.mp hnew]
      exact isIdentifier_numbered (by decide) bound

lemma label_plain (h : t.label bound = .ok c) : c.Plain := by
  obtain ⟨first, rest, -, rfl⟩ := label_eq_ok h
  refine anyLabel_plain _ _ _ fun p hp => ?_
  rw [List.mem_singleton.mp hp]
  exact isIdentifier_numbered (by decide) bound

lemma recommendedBy_plain (t : TagOperand) (bound : Nat) : (t.recommendedBy bound).Plain := by
  unfold recommendedBy
  split_ifs
  · exact plain_of_unbound rfl rfl
  · exact plain_ofValue (by decide) _ _ _

lemma date_plain {stem : String} (hstart : IsIdentifier (stem ++ "_start"))
    (hend : IsIdentifier (stem ++ "_end")) {column : Column} {options : CompileOptions}
    (h : t.date stem column options bound = .ok c) : c.Plain := by
  obtain ⟨start, stop, rfl⟩ := date_eq_ok h
  refine ⟨fun p hp => ?_, by simp⟩
  simp only [List.mem_cons, List.not_mem_nil, or_false] at hp
  rcases hp with rfl | rfl
  · exact isIdentifier_numbered hstart bound
  · exact isIdentifier_numbered hend (bound + 1)

lemma number_plain {stem : String} (hstem : IsIdentifier stem) {column : Column}
    (h : t.number stem column bound = .ok c) : c.Plain := by
  obtain ⟨comparison, rest, n, -, rfl⟩ := number_eq_ok h
  exact plain_ofValue hstem _ _ _

end TagOperand

open Contribution in
lemma Keyword.contribution_plain {k : Keyword} {options : CompileOptions} {bound : Nat}
    {t : TagOperand} {c : Contribution} (h : k.contribution options bound t = .ok c) : c.Plain := by
  cases k with
  | inPlace =>
    rw [← Except.ok.inj h]
    exact t.inPlace_plain _ bound
  | isProgress => exact TagOperand.isProgress_plain h
  | has => exact TagOperand.has_plain h
  | no => exact TagOperand.no_plain h
  | label => exact TagOperand.label_plain h
  | sort =>
    simp only [contribution] at h
    exact TagOperand.sort_plain h
  | saved | read | updated | published =>
    simp only [contribution] at h
    exact TagOperand.date_plain (by decide) (by decide) h
  | includes =>
    rw [TagOperand.includes_eq_ok h]
    exact plain_ofValue (by decide) _ _ _
  | recommendedBy =>
    rw [← Except.ok.inj h]
    exact t.recommendedBy_plain bound
  | readPosition | wordsCount =>
    simp only [contribution] at h
    exact TagOperand.number_plain (by decide) h
  | itemType | subscription | rss | language =>
    rw [← Except.ok.inj h]
    exact plain_ofValue (by decide) _ _ _
  | author | title | description | note | site =>
    rw [← Except.ok.inj h]
    exact t.wording_plain (by decide) _ bound
  | use | mode =>
    rw [← Except.ok.inj h]
    exact plain_of_unbound rfl rfl

lemma Query.Tag.contribution_plain {t : Query.Tag} {options : CompileOptions} {bound : Nat}
    {c : Contribution} (h : t.contribution options bound = .ok c) : c.Plain := by
  unfold contribution at h
  dsimp only at h
  split at h
  · split at h
    · rw [← Except.ok.inj h]
      exact Contribution.plain_of_unbound rfl rfl
    · rw [← Except.ok.inj h]
      exact TagOperand.freeText_plain _ bound
  · split at h
    · cases h
    · split at h
      · rw [← Except.ok.inj h]
        exact Contribution.plain_of_unbound rfl rfl
      · exact Keyword.contribution_plain h

namespace Accumulator

structure Plain (acc : Accumulator) : Prop where
  names : ∀ p ∈ acc.parameters.entries, IsIdentifier p.name
  sort : ∀ d ∈ acc.sort, d.Plain

variable {acc : Accumulator}

lemma Plain.addRank (h : acc.Plain) (query : String) : (acc.addRank query).Plain := by
  refine ⟨by simpa using h.names, ?_⟩
  unfold Accumulator.addRank
  dsimp only
  split
  · exact h.sort
  · intro d hd
    simp only [List.mem_append, List.mem_cons] at hd
    rcases hd with htake | rfl | hdrop
    · exact h.sort d (List.mem_of_mem_take htake)
    · exact ⟨isIdentifier_numbered (by decide) _, rfl⟩
    · exact h.sort d (List.mem_of_mem_drop hdrop)

lemma Plain.addSort (h : acc.Plain) {d : SortDirective} (hd : d.Plain) : (acc.addSort d).Plain := by
  refine ⟨by simpa using h.names, ?_⟩
  unfold Accumulator.addSort
  split
  · exact h.sort
  · intro e he
    rcases List.mem_append.mp he with hold | hnew
    · exact h.sort e hold
    · rw [List.mem_singleton.mp hnew]
      exact hd

lemma Plain.add (h : acc.Plain) (required : Bool) {c : Contribution} (hc : c.Plain) :
    (acc.add required c).Plain := by
  obtain ⟨predicate, parameters, ranked, sort, trash⟩ := c
  have hbind : (acc.bind parameters).Plain := by
    refine ⟨fun p hp => ?_, h.sort⟩
    rcases List.mem_append.mp hp with hold | hnew
    · exact h.names p hold
    · exact hc.names p hnew
  cases ranked with
  | none =>
    cases sort with
    | none => exact ⟨hbind.names, hbind.sort⟩
    | some d =>
      have hsort := hbind.addSort (hc.sort d rfl)
      exact ⟨hsort.names, hsort.sort⟩
  | some query =>
    have hrank := hbind.addRank query
    cases sort with
    | none => exact ⟨hrank.names, hrank.sort⟩
    | some d =>
      have hsort := hrank.addSort (hc.sort d rfl)
      exact ⟨hsort.names, hsort.sort⟩

end Accumulator

lemma Compiles.plain {options : CompileOptions} {required : Bool} {q : Query}
    {acc acc' : Accumulator} {p : Option Predicate} (h : Compiles options required q acc p acc')
    (hacc : acc.Plain) : acc'.Plain := by
  induction h with
  | empty => exact hacc
  | tag hc => exact hacc.add _ (Query.Tag.contribution_plain hc)
  | logical _ _ ihl ihr => exact ihr (ihl hacc)
  | negation _ ih => exact ih hacc
  | group _ ih => exact ih hacc

lemma Query.plain_of_compile {options : CompileOptions} {q : Query} {c : Compiled}
    (h : q.compile options = .ok c) :
    (∀ p ∈ c.parameters.entries, IsIdentifier p.name) ∧ ∀ d ∈ c.sort, d.Plain := by
  obtain ⟨acc, hcompiles, hparameters, -, hsort, -⟩ := compiles_of_compile h
  have hplain : acc.Plain := hcompiles.plain ⟨by simp [Parameters.empty], by simp⟩
  rw [hparameters, hsort]
  exact ⟨hplain.names, hplain.sort⟩

lemma Parameters.isIdentifier_bind {ps : Parameters} (h : ∀ p ∈ ps.entries, IsIdentifier p.name)
    {stem : String} (hstem : IsIdentifier stem) (v : ParameterValue) :
    ∀ p ∈ (ps.bind stem v).entries, IsIdentifier p.name := by
  intro p hp
  rcases List.mem_append.mp hp with hold | hnew
  · exact h p hold
  · rw [List.mem_singleton.mp hnew]
    exact isIdentifier_numbered hstem _

lemma foldl_hide_names {base : Predicate × Parameters}
    (h : ∀ p ∈ base.2.entries, IsIdentifier p.name) (states : List ItemState) :
    ∀ p ∈ (states.foldl hide base).2.entries, IsIdentifier p.name := by
  induction states generalizing base with
  | nil => exact h
  | cons s states ih => exact ih (Parameters.isIdentifier_bind h (by decide) _)

lemma Compiled.visibleTo_names {c : Compiled} (h : ∀ p ∈ c.parameters.entries, IsIdentifier p.name)
    (userId : String) (v : Visibility) :
    ∀ p ∈ (c.visibleTo userId v).parameters.entries, IsIdentifier p.name := by
  rw [visibleTo_parameters]
  exact foldl_hide_names (Parameters.isIdentifier_bind h (by decide) _) _

section References

variable {ps : List Parameter}

lemma Bound.exists_name {name : String} {k : ValueKind} (h : Bound ps name k) :
    ∃ p ∈ ps, p.name = name := by
  obtain ⟨v, hv, -⟩ := h
  exact ⟨_, hv, rfl⟩

lemma Comparand.WellTyped.exists_name {c : Comparand} {k : ValueKind} (h : c.WellTyped ps k) :
    ∀ name ∈ c.references, ∃ p ∈ ps, p.name = name := by
  cases c with
  | parameter name =>
    intro n hn
    rw [List.mem_singleton.mp hn]
    exact Bound.exists_name h
  | constant n => simp [Comparand.references]

lemma Condition.WellTyped.exists_name {c : Condition} (h : c.WellTyped ps) :
    ∀ name ∈ c.references, ∃ p ∈ ps, p.name = name := by
  intro name hname
  cases c with
  | textMatch | iLike | equalsIgnoringCase | equals | notEquals | inList =>
    rw [List.mem_singleton.mp hname]
    exact h.2.exists_name
  | compare => exact h.2.exists_name name hname
  | between =>
    rcases List.mem_append.mp hname with hlow | hhigh
    · exact h.2.1.exists_name name hlow
    · exact h.2.2.exists_name name hhigh
  | anyEquals | anyLike =>
    rw [List.mem_singleton.mp hname]
    exact Bound.exists_name h
  | isNull | isNotNull | notEmpty | isEmpty | withinDays =>
    exact absurd hname (List.not_mem_nil)

lemma Predicate.WellTyped.exists_name {p : Predicate} (h : p.WellTyped ps) :
    ∀ name ∈ p.references, ∃ q ∈ ps, q.name = name := by
  induction p with
  | test c => exact Condition.WellTyped.exists_name h
  | and left right ihl ihr | or left right ihl ihr =>
    intro name hname
    rcases List.mem_append.mp hname with hl | hr
    · exact ihl h.1 name hl
    · exact ihr h.2 name hr
  | not inner ih | group inner ih => exact ih h

end References

theorem Query.references_isIdentifier {options : CompileOptions} {q : Query} {c : Compiled}
    (h : q.compile options = .ok c) (userId : String) (v : Visibility) {p : Predicate}
    (hp : (c.visibleTo userId v).predicate = some p) :
    ∀ name ∈ p.references, IsIdentifier name := by
  obtain ⟨p', hp', htyped⟩ := Compiled.exists_visibleTo_wellTyped h userId v
  cases hp.symm.trans hp'
  intro name hname
  obtain ⟨q, hq, rfl⟩ := htyped.exists_name name hname
  exact Compiled.visibleTo_names (Query.plain_of_compile h).1 userId v q hq

end ReadLater
