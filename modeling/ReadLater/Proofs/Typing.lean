import ReadLater.Proofs.Compilation
import ReadLater.Proofs.Doubles

/-!
# Well-typed predicates

A predicate is well-typed under a list of parameters if each test finds the parameters it names,
with values of the kind that its column holds. Then its truth can be told of every item, and it is
unknown only for a null in one of the columns. Compiled predicates are well-typed.
-/

namespace ReadLater

/-- What columns and parameters hold. -/
inductive ValueKind
  | text
  | number
  | time
  | list
deriving DecidableEq, Repr

def ParameterValue.kind : ParameterValue → ValueKind
  | .text _ => .text
  | .list _ => .list
  | .int _ => .number
  | .time _ => .time

namespace Column

/-- What the column holds where it is not null. -/
def kind : Column → ValueKind
  | .wordCount | .readingProgressTop | .readingProgressBottom => .number
  | .savedAt | .updatedAt | .publishedAt | .readAt | .archivedAt | .deletedAt => .time
  | .labelNames | .highlightLabels | .highlightAnnotations | .recommenderNames => .list
  | .id | .userId | .state | .folder | .itemType | .title | .author | .description | .note
  | .siteName | .subscription | .itemLanguage => .text

def isNullable : Column → Bool
  | .author | .description | .note | .siteName | .subscription | .itemLanguage | .wordCount
  | .updatedAt | .publishedAt | .readAt | .archivedAt | .deletedAt => true
  | _ => false

end Column

/-- The index over title and content is over no nullable column. -/
def TextIndex.columns : TextIndex → List Column
  | .search => [.title]
  | .column c => [c]

def Condition.columns : Condition → List Column
  | .textMatch index _ => index.columns
  | .iLike c _ | .equalsIgnoringCase c _ | .equals c _ | .notEquals c _ | .compare c _ _
  | .between c _ _ | .inList c _ | .isNull c | .isNotNull c | .notEmpty c | .isEmpty c
  | .withinDays c _ => [c]
  | .anyEquals cs _ | .anyLike cs _ => cs

/-- The columns that a predicate mentions. -/
def Predicate.columns : Predicate → List Column
  | .test c => c.columns
  | .and left right | .or left right => left.columns ++ right.columns
  | .not inner | .group inner => inner.columns

/-- The reading progress of the item is given in numbers. -/
structure Item.HasNumbers (i : Item) : Prop where
  top : Double.IsNumber i.readingProgressTop
  bottom : Double.IsNumber i.readingProgressBottom

/-- One of the columns is nullable and null in the item. -/
def Item.Lacks (i : Item) (columns : List Column) : Prop :=
  ∃ c ∈ columns, c.isNullable = true ∧ i.value c = .null

lemma Item.Lacks.mono {i : Item} {cs ds : List Column} (h : i.Lacks cs) (hsub : cs ⊆ ds) :
    i.Lacks ds := by
  obtain ⟨c, hc, hnull⟩ := h
  exact ⟨c, hsub hc, hnull⟩

namespace Value

/-- The value is of the kind, and a number is no NaN. -/
inductive OfKind : ValueKind → Value → Prop
  | text (s : String) : OfKind .text (.text s)
  | number {x : Float} : Double.IsNumber x → OfKind .number (.number x)
  | time (t : Time.Instant) : OfKind .time (.time t)
  | list (ss : List String) : OfKind .list (.list ss)

lemma ofKind_ofInt (n : Int64) : OfKind .number (.ofInt n) :=
  .number (Double.isNumber_ofInt n.toInt)

lemma ofKind_ofText? (s : Option String) : OfKind .text (ofText? s) ∨ ofText? s = .null := by
  cases s with
  | none => exact .inr rfl
  | some s => exact .inl (.text s)

lemma ofKind_ofTime? (t : Option Time.Instant) : OfKind .time (ofTime? t) ∨ ofTime? t = .null := by
  cases t with
  | none => exact .inr rfl
  | some t => exact .inl (.time t)

lemma OfKind.ne_null {k : ValueKind} {v : Value} (h : OfKind k v) : v ≠ .null := by
  rintro rfl
  cases h

lemma OfKind.exists_compare {k : ValueKind} {a b : Value} (ha : OfKind k a) (hb : OfKind k b)
    (hk : k ≠ .list) : ∃ o, a.compare? b = some o := by
  cases ha with
  | text s =>
    cases hb with
    | text t => exact ⟨_, rfl⟩
  | number hx =>
    cases hb with
    | number hy => exact hx.exists_compare hy
  | time s =>
    cases hb with
    | time t => exact ⟨_, rfl⟩
  | list ss => exact absurd rfl hk

lemma OfKind.exists_text {v : Value} (h : OfKind .text v) : ∃ s, v.text? = some s := by
  cases h with
  | text s => exact ⟨s, rfl⟩

end Value

lemma Item.ofKind_or_null {i : Item} (h : i.HasNumbers) (c : Column) :
    (i.value c).OfKind c.kind ∨ c.isNullable = true ∧ i.value c = .null := by
  cases c with
  | author | description | note | siteName | subscription | itemLanguage =>
    exact (Value.ofKind_ofText? _).imp_right fun hnull => ⟨rfl, hnull⟩
  | updatedAt | publishedAt | readAt | archivedAt | deletedAt =>
    exact (Value.ofKind_ofTime? _).imp_right fun hnull => ⟨rfl, hnull⟩
  | wordCount =>
    change Value.OfKind .number ((i.wordCount.map Value.ofInt).getD .null) ∨
      _ ∧ (i.wordCount.map Value.ofInt).getD .null = .null
    cases i.wordCount with
    | none => exact .inr ⟨rfl, rfl⟩
    | some n => exact .inl (Value.ofKind_ofInt n)
  | readingProgressTop => exact .inl (.number h.top)
  | readingProgressBottom => exact .inl (.number h.bottom)
  | savedAt => exact .inl (.time _)
  | labelNames | highlightLabels | highlightAnnotations | recommenderNames =>
    exact .inl (.list _)
  | id | userId | state | folder | itemType | title => exact .inl (.text _)

def TextIndex.IsText : TextIndex → Prop
  | .search => True
  | .column c => c.kind = .text

/-- The name is bound to a value of the kind. -/
def Bound (ps : List Parameter) (name : String) (k : ValueKind) : Prop :=
  ∃ v, ⟨name, v⟩ ∈ ps ∧ v.kind = k

def Comparand.WellTyped (ps : List Parameter) (k : ValueKind) : Comparand → Prop
  | .parameter name => Bound ps name k
  | .constant _ => k = .number

def Condition.WellTyped (ps : List Parameter) : Condition → Prop
  | .textMatch index query => index.IsText ∧ Bound ps query .text
  | .iLike c p | .equalsIgnoringCase c p | .equals c p | .notEquals c p =>
    c.kind = .text ∧ Bound ps p .text
  | .inList c p => c.kind = .text ∧ Bound ps p .list
  | .compare c _ value => c.kind ≠ .list ∧ value.WellTyped ps c.kind
  | .between c low high =>
    c.kind ≠ .list ∧ low.WellTyped ps c.kind ∧ high.WellTyped ps c.kind
  | .anyEquals _ p | .anyLike _ p => Bound ps p .text
  | .isNull _ | .isNotNull _ | .notEmpty _ | .isEmpty _ | .withinDays _ _ => True

def Predicate.WellTyped (ps : List Parameter) : Predicate → Prop
  | .test c => c.WellTyped ps
  | .and left right | .or left right => left.WellTyped ps ∧ right.WellTyped ps
  | .not inner | .group inner => inner.WellTyped ps

section Weakening

variable {ps qs : List Parameter}

lemma Bound.mono {name : String} {k : ValueKind} (h : Bound ps name k) (hsub : ps ⊆ qs) :
    Bound qs name k := by
  obtain ⟨v, hv, hk⟩ := h
  exact ⟨v, hsub hv, hk⟩

lemma Comparand.WellTyped.mono {k : ValueKind} {c : Comparand} (h : c.WellTyped ps k)
    (hsub : ps ⊆ qs) : c.WellTyped qs k := by
  cases c with
  | parameter name => exact Bound.mono h hsub
  | constant n => exact h

lemma Condition.WellTyped.mono {c : Condition} (h : c.WellTyped ps) (hsub : ps ⊆ qs) :
    c.WellTyped qs := by
  cases c with
  | textMatch | iLike | equalsIgnoringCase | equals | notEquals | inList =>
    exact ⟨h.1, h.2.mono hsub⟩
  | compare => exact ⟨h.1, h.2.mono hsub⟩
  | between => exact ⟨h.1, h.2.1.mono hsub, h.2.2.mono hsub⟩
  | anyEquals | anyLike => exact Bound.mono h hsub
  | isNull | isNotNull | notEmpty | isEmpty | withinDays => trivial

lemma Predicate.WellTyped.mono {p : Predicate} (h : p.WellTyped ps) (hsub : ps ⊆ qs) :
    p.WellTyped qs := by
  induction p with
  | test c => exact Condition.WellTyped.mono h hsub
  | and left right ihl ihr | or left right ihl ihr => exact ⟨ihl h.1, ihr h.2⟩
  | not inner ih | group inner ih => exact ih h

end Weakening

/-! ## Truth of well-typed predicates -/

section Truth

variable {ps : Parameters} {i : Item}

lemma text_of_bound_kind (hps : ps.Numbered) {name : String} (h : Bound ps.entries name .text) :
    ∃ s, ps.text name = .ok s := by
  obtain ⟨v, hv, hk⟩ := h
  cases v with
  | text s => exact ⟨s, by rw [Parameters.text, hps.get?_of_mem hv]⟩
  | list ss => cases hk
  | int n => cases hk
  | time t => cases hk

lemma list_of_bound_kind (hps : ps.Numbered) {name : String} (h : Bound ps.entries name .list) :
    ∃ ss, ps.list name = .ok ss := by
  obtain ⟨v, hv, hk⟩ := h
  cases v with
  | list ss => exact ⟨ss, by rw [Parameters.list, hps.get?_of_mem hv]⟩
  | text s => cases hk
  | int n => cases hk
  | time t => cases hk

lemma comparand_of_wellTyped (hps : ps.Numbered) {k : ValueKind} {c : Comparand}
    (h : c.WellTyped ps.entries k) (hk : k ≠ .list) :
    ∃ v, ps.comparand c = .ok v ∧ v.OfKind k := by
  cases c with
  | constant n =>
    cases h
    exact ⟨_, rfl, Value.ofKind_ofInt n⟩
  | parameter name =>
    obtain ⟨v, hv, rfl⟩ := h
    have hvalue := hps.get?_of_mem hv
    cases v with
    | text s => exact ⟨.text s, by simp only [Parameters.comparand, hvalue], .text s⟩
    | int n => exact ⟨.ofInt n, by simp only [Parameters.comparand, hvalue], Value.ofKind_ofInt n⟩
    | time t => exact ⟨.time t, by simp only [Parameters.comparand, hvalue], .time t⟩
    | list ss => exact absurd rfl hk

lemma lacks_of_text_map {c : Column} (hnumbers : i.HasNumbers) (hkind : c.kind = .text)
    {f : String → Bool} (h : (i.value c).text?.map f = none) : i.Lacks [c] := by
  rcases i.ofKind_or_null hnumbers c with hvalue | hnull
  · rw [hkind] at hvalue
    obtain ⟨s, hs⟩ := hvalue.exists_text
    rw [hs] at h
    cases h
  · exact ⟨c, List.mem_singleton.mpr rfl, hnull⟩

lemma lacks_of_compare {c : Column} {v : Value} (hnumbers : i.HasNumbers)
    (hkind : c.kind ≠ .list) (hv : v.OfKind c.kind) (h : (i.value c).compare? v = none) :
    i.Lacks [c] := by
  rcases i.ofKind_or_null hnumbers c with hvalue | hnull
  · obtain ⟨o, ho⟩ := hvalue.exists_compare hv hkind
    rw [h] at ho
    cases ho
  · exact ⟨c, List.mem_singleton.mpr rfl, hnull⟩

lemma lacks_of_document {index : TextIndex} (hnumbers : i.HasNumbers) (hindex : index.IsText)
    {f : String → Bool} (h : (i.document? index).map f = none) : i.Lacks index.columns := by
  cases index with
  | search => cases h
  | column c => exact lacks_of_text_map hnumbers hindex h

/-- A well-typed test can be told of every item, and is unknown only for a null. -/
lemma Condition.truth_of_wellTyped {c : Condition} (hps : ps.Numbered)
    (h : c.WellTyped ps.entries) (clock : Time.Instant) (i : Item) :
    ∃ t, c.truth ps clock i = .ok t ∧ (i.HasNumbers → t = none → i.Lacks c.columns) := by
  cases c with
  | textMatch index query =>
    obtain ⟨s, hs⟩ := text_of_bound_kind hps h.2
    simp only [truth, hs]
    exact ⟨_, rfl, fun hnumbers => lacks_of_document hnumbers h.1⟩
  | iLike column p | equalsIgnoringCase column p | equals column p | notEquals column p =>
    obtain ⟨s, hs⟩ := text_of_bound_kind hps h.2
    simp only [truth, hs]
    exact ⟨_, rfl, fun hnumbers => lacks_of_text_map hnumbers h.1⟩
  | inList column p =>
    obtain ⟨ss, hss⟩ := list_of_bound_kind hps h.2
    simp only [truth, hss]
    exact ⟨_, rfl, fun hnumbers => lacks_of_text_map hnumbers h.1⟩
  | compare column comparison value =>
    obtain ⟨v, hv, hkind⟩ := comparand_of_wellTyped hps h.2 h.1
    simp only [truth, hv]
    refine ⟨_, rfl, fun hnumbers hnone => lacks_of_compare hnumbers h.1 hkind ?_⟩
    exact Option.map_eq_none_iff.mp hnone
  | between column low high =>
    obtain ⟨l, hl, hlkind⟩ := comparand_of_wellTyped hps h.2.1 h.1
    obtain ⟨u, hu, hukind⟩ := comparand_of_wellTyped hps h.2.2 h.1
    simp only [truth, hl, hu]
    refine ⟨_, rfl, fun hnumbers hnone => ?_⟩
    cases hlow : (i.value column).compare? l with
    | none => exact lacks_of_compare hnumbers h.1 hlkind hlow
    | some a =>
      cases hhigh : (i.value column).compare? u with
      | none => exact lacks_of_compare hnumbers h.1 hukind hhigh
      | some b => simp [hlow, hhigh] at hnone
  | anyEquals columns p | anyLike columns p =>
    obtain ⟨s, hs⟩ := text_of_bound_kind hps h
    simp only [truth, hs]
    exact ⟨_, rfl, by simp⟩
  | isNull column | isNotNull column | withinDays column days =>
    exact ⟨_, rfl, fun _ hnone => by cases hnone⟩
  | isEmpty column =>
    refine ⟨_, rfl, fun _ hnone => ?_⟩
    split at hnone <;> cases hnone
  | notEmpty column =>
    refine ⟨_, rfl, fun hnumbers hnone => ?_⟩
    rcases i.ofKind_or_null hnumbers column with hvalue | hnull
    · cases hcolumn : i.value column with
      | null => exact absurd hcolumn hvalue.ne_null
      | text s => simp [hcolumn] at hnone
      | number x => simp [hcolumn] at hnone
      | time t => simp [hcolumn] at hnone
      | list ss => simp [hcolumn] at hnone
    · exact ⟨column, List.mem_singleton.mpr rfl, hnull⟩

/-- A well-typed predicate can be told of every item, and is unknown only for a null in one of its
columns. -/
theorem Predicate.truth_of_wellTyped {p : Predicate} (hps : ps.Numbered)
    (h : p.WellTyped ps.entries) (clock : Time.Instant) (i : Item) :
    ∃ t, p.truth ps clock i = .ok t ∧ (i.HasNumbers → t = none → i.Lacks p.columns) := by
  induction p with
  | test c => exact Condition.truth_of_wellTyped hps h clock i
  | and left right ihl ihr =>
    obtain ⟨l, hl, hllacks⟩ := ihl h.1
    obtain ⟨r, hr, hrlacks⟩ := ihr h.2
    simp only [truth, hl, hr]
    refine ⟨_, rfl, fun hnumbers hnone => ?_⟩
    rcases Truth.eq_none_of_and hnone with hleft | hright
    · exact (hllacks hnumbers hleft).mono (List.subset_append_left _ _)
    · exact (hrlacks hnumbers hright).mono (List.subset_append_right _ _)
  | or left right ihl ihr =>
    obtain ⟨l, hl, hllacks⟩ := ihl h.1
    obtain ⟨r, hr, hrlacks⟩ := ihr h.2
    simp only [truth, hl, hr]
    refine ⟨_, rfl, fun hnumbers hnone => ?_⟩
    rcases Truth.eq_none_of_or hnone with hleft | hright
    · exact (hllacks hnumbers hleft).mono (List.subset_append_left _ _)
    · exact (hrlacks hnumbers hright).mono (List.subset_append_right _ _)
  | not inner ih =>
    obtain ⟨t, ht, hlacks⟩ := ih h
    simp only [truth, ht]
    refine ⟨_, rfl, fun hnumbers hnone => hlacks hnumbers ?_⟩
    exact Option.map_eq_none_iff.mp hnone
  | group inner ih => exact ih h

end Truth

end ReadLater
