import ReadLater.Filter.Compile
import ReadLater.Proofs.Contribution

/-!
# Runs of the compiler

A successful compilation as a derivation with one rule for each kind of node. What holds of all
compilations is proved along it: parameters are only appended and stay numbered by their places,
every rank column has the text that its tag bound, and sort tags leave no trace in the predicate.
-/

namespace ReadLater

lemma Parameters.eq_of_entries_eq {a b : Parameters} (h : a.entries = b.entries) : a = b :=
  congrArg Parameters.mk h

namespace Accumulator

@[simp] lemma bind_parameters (acc : Accumulator) (ps : List Parameter) :
    (acc.bind ps).parameters.entries = acc.parameters.entries ++ ps := rfl

@[simp] lemma bind_ranks (acc : Accumulator) (ps : List Parameter) :
    (acc.bind ps).ranks = acc.ranks := rfl

@[simp] lemma bind_trash (acc : Accumulator) (ps : List Parameter) :
    (acc.bind ps).trash = acc.trash := rfl

@[simp] lemma addRank_parameters (acc : Accumulator) (query : String) :
    (acc.addRank query).parameters = acc.parameters := by
  unfold addRank
  dsimp only
  split <;> rfl

@[simp] lemma addRank_ranks (acc : Accumulator) (query : String) :
    (acc.addRank query).ranks =
      acc.ranks ++ [⟨.search, query, numbered "rank" acc.ranks.length⟩] := by
  unfold addRank
  dsimp only
  split <;> rfl

@[simp] lemma addRank_trash (acc : Accumulator) (query : String) :
    (acc.addRank query).trash = acc.trash := by
  unfold addRank
  dsimp only
  split <;> rfl

@[simp] lemma addSort_parameters (acc : Accumulator) (d : SortDirective) :
    (acc.addSort d).parameters = acc.parameters := by
  unfold addSort
  split <;> rfl

@[simp] lemma addSort_ranks (acc : Accumulator) (d : SortDirective) :
    (acc.addSort d).ranks = acc.ranks := by
  unfold addSort
  split <;> rfl

@[simp] lemma addSort_trash (acc : Accumulator) (d : SortDirective) :
    (acc.addSort d).trash = acc.trash := by
  unfold addSort
  split <;> rfl

@[simp] lemma add_parameters (acc : Accumulator) (required : Bool) (c : Contribution) :
    (acc.add required c).parameters.entries = acc.parameters.entries ++ c.parameters := by
  obtain ⟨predicate, parameters, ranked, sort, trash⟩ := c
  cases ranked <;> cases sort <;> simp [add]

@[simp] lemma add_ranks (acc : Accumulator) (required : Bool) (c : Contribution) :
    (acc.add required c).ranks = acc.ranks ++
      (c.ranked.map fun query => ⟨.search, query, numbered "rank" acc.ranks.length⟩).toList := by
  obtain ⟨predicate, parameters, ranked, sort, trash⟩ := c
  cases ranked <;> cases sort <;> simp [add]

@[simp] lemma add_trash (acc : Accumulator) (required : Bool) (c : Contribution) :
    (acc.add required c).trash = (acc.trash || (required && c.trash)) := by
  obtain ⟨predicate, parameters, ranked, sort, trash⟩ := c
  cases ranked <;> cases sort <;> simp [add]

end Accumulator

/-- `Compiles options required q acc p acc'`: the tree `q` compiles to `p` and turns the accumulator
`acc` into `acc'`. -/
inductive Compiles (options : CompileOptions) :
    Bool → Query → Accumulator → Option Predicate → Accumulator → Prop
  | empty {required acc} : Compiles options required .empty acc none acc
  | tag {required t acc c} :
      t.contribution options acc.parameters.entries.length = .ok c →
      Compiles options required (.tag t) acc c.predicate (acc.add required c)
  | logical {required connective left right acc mid acc' l r} :
      Compiles options (required && connective = .and) left acc l mid →
      Compiles options (required && connective = .and) right mid r acc' →
      Compiles options required (.logical connective left right) acc (connective.join l r) acc'
  | negation {required mark operand acc p acc'} :
      Compiles options false operand acc p acc' →
      Compiles options required (.negation mark operand) acc (p.map .not) acc'
  | group {required inner acc p acc'} :
      Compiles options required inner acc p acc' →
      Compiles options required (.group inner) acc (p.map .group) acc'

lemma compiles_of_compileInto {options : CompileOptions} {required : Bool} {q : Query}
    {acc acc' : Accumulator} {p : Option Predicate}
    (h : q.compileInto options required acc = (.ok p, acc')) :
    Compiles options required q acc p acc' := by
  induction q generalizing required acc p acc' with
  | empty =>
    cases h
    exact .empty
  | tag t =>
    simp only [Query.compileInto] at h
    split at h
    · cases h
    · rename_i c hc
      cases h
      exact .tag hc
  | logical connective left right ihl ihr =>
    simp only [Query.compileInto] at h
    split at h
    · cases h
    · rename_i l mid hl
      split at h
      · cases h
      · rename_i r after hr
        cases h
        exact .logical (ihl hl) (ihr hr)
  | negation mark operand ih =>
    simp only [Query.compileInto] at h
    split at h
    · cases h
    · rename_i inner after hoperand
      cases h
      exact .negation (ih hoperand)
  | group inner ih =>
    simp only [Query.compileInto] at h
    split at h
    · cases h
    · rename_i p after hinner
      cases h
      exact .group (ih hinner)

lemma compileInto_of_compiles {options : CompileOptions} {required : Bool} {q : Query}
    {acc acc' : Accumulator} {p : Option Predicate} (h : Compiles options required q acc p acc') :
    q.compileInto options required acc = (.ok p, acc') := by
  induction h with
  | empty => rfl
  | tag hc => simp only [Query.compileInto, hc]
  | logical _ _ ihl ihr => simp only [Query.compileInto, ihl, ihr]
  | negation _ ih => simp only [Query.compileInto, ih]
  | group _ ih => simp only [Query.compileInto, ih]

namespace Compiles

variable {options : CompileOptions} {required : Bool} {q : Query} {acc acc' : Accumulator}
  {p : Option Predicate}

lemma parameters_extend (h : Compiles options required q acc p acc') :
    acc.parameters.entries <+: acc'.parameters.entries := by
  induction h with
  | empty => exact List.prefix_rfl
  | tag hc => simp
  | logical _ _ ihl ihr => exact ihl.trans ihr
  | negation _ ih => exact ih
  | group _ ih => exact ih

lemma numbered (h : Compiles options required q acc p acc') (hacc : acc.parameters.Numbered) :
    acc'.parameters.Numbered := by
  induction h with
  | empty => exact hacc
  | tag hc =>
    rw [Parameters.Numbered, Accumulator.add_parameters, numberedFrom_append, Nat.zero_add]
    exact ⟨hacc, (Query.Tag.contribution_wellBound hc).numbered⟩
  | logical _ _ ihl ihr => exact ihr (ihl hacc)
  | negation _ ih => exact ih hacc
  | group _ ih => exact ih hacc

end Compiles

/-- Every rank column refers to a text. -/
def Accumulator.RanksBound (acc : Accumulator) : Prop :=
  ∀ r ∈ acc.ranks, ∃ s, ⟨r.query, .text s⟩ ∈ acc.parameters.entries

lemma Compiles.ranksBound {options : CompileOptions} {required : Bool} {q : Query}
    {acc acc' : Accumulator} {p : Option Predicate} (h : Compiles options required q acc p acc')
    (hacc : acc.RanksBound) : acc'.RanksBound := by
  induction h with
  | empty => exact hacc
  | tag hc =>
    rename_i c
    intro r hr
    rw [Accumulator.add_ranks, List.mem_append] at hr
    rw [Accumulator.add_parameters]
    rcases hr with hold | hnew
    · obtain ⟨s, hs⟩ := hacc r hold
      exact ⟨s, List.mem_append_left _ hs⟩
    · cases hranked : c.ranked with
      | none => simp [hranked] at hnew
      | some name =>
        obtain ⟨s, hs⟩ := (Query.Tag.contribution_wellBound hc).ranked name hranked
        simp only [hranked, Option.map_some, Option.toList_some, List.mem_singleton] at hnew
        subst hnew
        exact ⟨s, List.mem_append_right _ hs⟩
  | logical _ _ ihl ihr => exact ihr (ihl hacc)
  | negation _ ih => exact ih hacc
  | group _ ih => exact ih hacc

lemma Query.compiles_of_compile {options : CompileOptions} {q : Query} {c : Compiled}
    (h : q.compile options = .ok c) :
    ∃ acc, Compiles options true q {} c.predicate acc ∧ c.parameters = acc.parameters ∧
      c.ranks = acc.ranks ∧ c.sort = acc.sort ∧ c.trash = acc.trash := by
  unfold compile at h
  split at h
  · cases h
  · rename_i p acc hinto
    cases h
    exact ⟨acc, compiles_of_compileInto hinto, rfl, rfl, rfl, rfl⟩

lemma Query.numbered_of_compile {options : CompileOptions} {q : Query} {c : Compiled}
    (h : q.compile options = .ok c) : c.parameters.Numbered := by
  obtain ⟨acc, hcompiles, hparameters, -, -⟩ := compiles_of_compile h
  rw [hparameters]
  exact hcompiles.numbered Parameters.numbered_empty

lemma Query.compile_of_compiles {options : CompileOptions} {q : Query} {p : Option Predicate}
    {acc : Accumulator} (h : Compiles options true q {} p acc) :
    q.compile options = .ok ⟨p, acc.parameters, acc.ranks, acc.sort, acc.trash⟩ := by
  unfold compile
  rw [compileInto_of_compiles h]

lemma Query.exists_compile {options : CompileOptions} {q : Query} {p : Option Predicate}
    {acc : Accumulator} (h : Compiles options true q {} p acc) :
    ∃ c, q.compile options = .ok c ∧ c.predicate = p ∧ c.parameters = acc.parameters ∧
      c.trash = acc.trash :=
  ⟨_, compile_of_compiles h, rfl, rfl, rfl⟩

lemma Query.compile_of_compileText {options : CompileOptions} {text : String} {c : Compiled}
    (h : compileText options text = .ok c) :
    ∃ q, parse text = .ok q ∧ q.compile
      { options with foldersScoped := options.foldersScoped || wantsFolders text } = .ok c := by
  unfold compileText at h
  cases hparse : parse text with
  | error e => rw [hparse] at h; cases h
  | ok q => rw [hparse] at h; exact ⟨q, rfl, h⟩

namespace Query

def Tag.isSort (t : Tag) : Bool :=
  match t.field with
  | .freeText => false
  | .named field _ => Keyword.ofName? field == some .sort

/-- The query with its sort tags left empty. -/
def unsorted : Query → Query
  | .empty => .empty
  | .tag t => if t.isSort then .empty else .tag t
  | .logical connective left right => .logical connective left.unsorted right.unsorted
  | .negation mark operand => .negation mark operand.unsorted
  | .group inner => .group inner.unsorted

lemma Tag.contribution_of_isSort {t : Tag} {options : CompileOptions} {bound : Nat}
    {c : Contribution} (hsort : t.isSort = true) (h : t.contribution options bound = .ok c) :
    c = { sort := c.sort } := by
  unfold contribution at h
  dsimp only at h
  unfold isSort at hsort
  split at hsort
  · cases hsort
  · rename_i field quoted hfield
    rw [hfield] at h
    simp only [beq_iff_eq.mp hsort] at h
    split at h
    · cases h
      rfl
    · simp only [Keyword.contribution] at h
      exact TagOperand.sort_eq h

end Query

/-- Without its sort tags a query compiles to the same predicate and the same parameters. -/
lemma Compiles.unsorted {options : CompileOptions} {required : Bool} {q : Query}
    {acc acc' : Accumulator} {p : Option Predicate} (h : Compiles options required q acc p acc')
    {base : Accumulator} (hparameters : base.parameters = acc.parameters)
    (htrash : base.trash = acc.trash) :
    ∃ after, Compiles options required q.unsorted base p after ∧
      after.parameters = acc'.parameters ∧ after.trash = acc'.trash := by
  induction h generalizing base with
  | empty => exact ⟨base, .empty, hparameters, htrash⟩
  | @tag required t acc c hc =>
    by_cases hsort : t.isSort = true
    · rw [Query.unsorted, if_pos hsort]
      have hc' := t.contribution_of_isSort hsort hc
      rw [hc']
      refine ⟨base, .empty, Parameters.eq_of_entries_eq ?_, ?_⟩
      · simp [hparameters]
      · simp [htrash]
    · rw [Query.unsorted, if_neg hsort]
      refine ⟨base.add required c, .tag (hparameters ▸ hc), Parameters.eq_of_entries_eq ?_, ?_⟩
      · simp [hparameters]
      · simp [htrash]
  | logical _ _ ihl ihr =>
    obtain ⟨mid, hl, hmid, hmid'⟩ := ihl hparameters htrash
    obtain ⟨after, hr, hafter, hafter'⟩ := ihr hmid hmid'
    exact ⟨after, .logical hl hr, hafter, hafter'⟩
  | negation _ ih =>
    obtain ⟨after, hoperand, hafter⟩ := ih hparameters htrash
    exact ⟨after, .negation hoperand, hafter⟩
  | group _ ih =>
    obtain ⟨after, hinner, hafter⟩ := ih hparameters htrash
    exact ⟨after, .group hinner, hafter⟩

theorem Query.compile_unsorted {options : CompileOptions} {q : Query} {c : Compiled}
    (h : q.compile options = .ok c) :
    ∃ d, q.unsorted.compile options = .ok d ∧ d.predicate = c.predicate ∧
      d.parameters = c.parameters ∧ d.trash = c.trash := by
  obtain ⟨acc, hcompiles, hparameters, -, -, htrash⟩ := compiles_of_compile h
  obtain ⟨after, hunsorted, hparameters', htrash'⟩ := hcompiles.unsorted rfl rfl
  obtain ⟨d, hd, hpredicate, hd', hd''⟩ := exists_compile hunsorted
  exact ⟨d, hd, hpredicate, hd'.trans (hparameters'.trans hparameters.symm),
    hd''.trans (htrash'.trans htrash.symm)⟩

end ReadLater
