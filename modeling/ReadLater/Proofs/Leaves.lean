import ReadLater.Proofs.Compilation

/-!
# Compilation tag by tag

Whatever connectives stand above them, the tags of a tree add their contributions in reading order,
up to the first one that fails. All that depends on the place of a tag in the tree is whether it may
open the trash.
-/

namespace ReadLater

/-- The parameters of several contributions, in binding order. -/
def parametersOf (cs : List Contribution) : List Parameter :=
  cs.flatMap (·.parameters)

@[simp] lemma parametersOf_nil : parametersOf [] = [] := rfl

@[simp] lemma parametersOf_cons (c : Contribution) (cs : List Contribution) :
    parametersOf (c :: cs) = c.parameters ++ parametersOf cs := rfl

@[simp] lemma parametersOf_append (cs ds : List Contribution) :
    parametersOf (cs ++ ds) = parametersOf cs ++ parametersOf ds :=
  List.flatMap_append

/-- What tags contribute that are compiled one after another from `bound` bound values on, up to the
first one that fails. -/
def contributionsFrom (options : CompileOptions) : Nat → List Query.Tag → List Contribution
  | _, [] => []
  | bound, t :: ts =>
    match t.contribution options bound with
    | .error _ => []
    | .ok c => c :: contributionsFrom options (bound + c.parameters.length) ts

section Contributions

variable {options : CompileOptions} {bound : Nat} {ts : List Query.Tag}

lemma contributionsFrom_cons {t : Query.Tag} {c : Contribution}
    (h : t.contribution options bound = .ok c) :
    contributionsFrom options bound (t :: ts) =
      c :: contributionsFrom options (bound + c.parameters.length) ts := by
  rw [contributionsFrom, h]

lemma contributionsFrom_of_error {t : Query.Tag} {e : QueryError}
    (h : t.contribution options bound = .error e) :
    contributionsFrom options bound (t :: ts) = [] := by
  rw [contributionsFrom, h]

lemma contributionsFrom_append (h : (contributionsFrom options bound ts).length = ts.length)
    (us : List Query.Tag) :
    contributionsFrom options bound (ts ++ us) =
      contributionsFrom options bound ts ++
        contributionsFrom options
          (bound + (parametersOf (contributionsFrom options bound ts)).length) us := by
  induction ts generalizing bound with
  | nil => rfl
  | cons t ts ih =>
    cases hc : t.contribution options bound with
    | error e =>
      rw [contributionsFrom_of_error hc] at h
      cases h
    | ok c =>
      rw [contributionsFrom_cons hc, List.length_cons, List.length_cons, Nat.succ_inj] at h
      rw [List.cons_append, contributionsFrom_cons hc, contributionsFrom_cons hc, ih h]
      simp [Nat.add_assoc]

/-- After a tag that fails nothing is contributed. -/
lemma contributionsFrom_append_of_lt
    (h : (contributionsFrom options bound ts).length < ts.length) (us : List Query.Tag) :
    contributionsFrom options bound (ts ++ us) = contributionsFrom options bound ts := by
  induction ts generalizing bound with
  | nil => cases h
  | cons t ts ih =>
    cases hc : t.contribution options bound with
    | error e => rw [List.cons_append, contributionsFrom_of_error hc, contributionsFrom_of_error hc]
    | ok c =>
      rw [contributionsFrom_cons hc, List.length_cons, List.length_cons, Nat.succ_lt_succ_iff] at h
      rw [List.cons_append, contributionsFrom_cons hc, contributionsFrom_cons hc, ih h]

lemma forall₂_contributionsFrom
    (h : (contributionsFrom options bound ts).length = ts.length) :
    List.Forall₂ (fun t c => ∃ n, t.contribution options n = .ok c) ts
      (contributionsFrom options bound ts) := by
  induction ts generalizing bound with
  | nil => exact .nil
  | cons t ts ih =>
    cases hc : t.contribution options bound with
    | error e =>
      rw [contributionsFrom_of_error hc] at h
      cases h
    | ok c =>
      rw [contributionsFrom_cons hc] at h ⊢
      exact .cons ⟨bound, hc⟩ (ih (Nat.succ.inj h))

lemma exists_of_mem_contributionsFrom {c : Contribution}
    (h : c ∈ contributionsFrom options bound ts) :
    ∃ t ∈ ts, ∃ n, t.contribution options n = .ok c := by
  induction ts generalizing bound with
  | nil => cases h
  | cons t ts ih =>
    cases hc : t.contribution options bound with
    | error e =>
      rw [contributionsFrom_of_error hc] at h
      cases h
    | ok d =>
      rw [contributionsFrom_cons hc] at h
      rcases List.mem_cons.mp h with rfl | hmem
      · exact ⟨t, List.mem_cons_self, bound, hc⟩
      · obtain ⟨u, hu, hcontributes⟩ := ih hmem
        exact ⟨u, List.mem_cons_of_mem t hu, hcontributes⟩

lemma numberedFrom_contributionsFrom :
    NumberedFrom bound (parametersOf (contributionsFrom options bound ts)) := by
  induction ts generalizing bound with
  | nil => trivial
  | cons t ts ih =>
    cases hc : t.contribution options bound with
    | error e =>
      rw [contributionsFrom_of_error hc]
      trivial
    | ok c =>
      rw [contributionsFrom_cons hc]
      exact (numberedFrom_append _ _ _).mpr ⟨(Query.Tag.contribution_wellBound hc).numbered, ih⟩

end Contributions

/-- The parameters that a predicate names, if there is one. -/
def referencesOf (p : Option Predicate) : List String :=
  (p.map Predicate.references).getD []

lemma Contribution.WellBound.references {bound : Nat} {c : Contribution} (h : c.WellBound bound) :
    referencesOf c.predicate = c.parameters.map (·.name) := by
  have hnames : referencesOf c.predicate = c.demands.map (·.name) := by
    unfold referencesOf Contribution.demands
    cases c.predicate with
    | none => rfl
    | some p => exact p.demands_names.symm
  rw [hnames]
  have htakes := h.demands
  generalize c.demands = demands at htakes
  generalize c.parameters = parameters at htakes
  induction htakes with
  | nil => rfl
  | cons htake _ ih => rw [List.map_cons, List.map_cons, htake.1, ih]

lemma referencesOf_join (connective : Query.Connective) (l r : Option Predicate) :
    referencesOf (connective.join l r) = referencesOf l ++ referencesOf r := by
  cases l <;> cases r <;> cases connective <;> simp [referencesOf, Query.Connective.join,
    Predicate.references]

lemma referencesOf_map (f : Predicate → Predicate) (hf : ∀ p, (f p).references = p.references)
    (p : Option Predicate) : referencesOf (p.map f) = referencesOf p := by
  cases p with
  | none => rfl
  | some p => exact hf p

namespace Accumulator

/-- The accumulator without its mark of the trash. -/
def untrashed (acc : Accumulator) : Accumulator :=
  { acc with trash := false }

/-- Adds contributions in order. -/
def gather (acc : Accumulator) (cs : List Contribution) : Accumulator :=
  cs.foldl (add · false ·) acc

lemma gather_append (acc : Accumulator) (cs ds : List Contribution) :
    acc.gather (cs ++ ds) = (acc.gather cs).gather ds :=
  List.foldl_append

@[simp] lemma untrashed_parameters (acc : Accumulator) :
    acc.untrashed.parameters = acc.parameters := rfl

@[simp] lemma untrashed_ranks (acc : Accumulator) : acc.untrashed.ranks = acc.ranks := rfl

lemma untrashed_bind (acc : Accumulator) (ps : List Parameter) :
    (acc.bind ps).untrashed = acc.untrashed.bind ps := rfl

lemma untrashed_addRank (acc : Accumulator) (query : String) :
    (acc.addRank query).untrashed = acc.untrashed.addRank query := by
  unfold addRank hasSort untrashed
  dsimp only
  split_ifs <;> rfl

lemma untrashed_addSort (acc : Accumulator) (d : SortDirective) :
    (acc.addSort d).untrashed = acc.untrashed.addSort d := by
  unfold addSort hasSort untrashed
  dsimp only
  split_ifs <;> rfl

lemma untrashed_add (acc : Accumulator) (required : Bool) (c : Contribution) :
    (acc.add required c).untrashed = acc.untrashed.add false c := by
  obtain ⟨predicate, parameters, ranked, sort, trash⟩ := c
  have hmark : ∀ {a b : Accumulator} {flag : Bool}, a.untrashed = b →
      ({ a with trash := flag } : Accumulator).untrashed =
        { b with trash := b.trash || false } := by
    rintro a b flag rfl
    rfl
  cases ranked <;> cases sort
  · rfl
  · exact hmark (by rw [untrashed_addSort, untrashed_bind])
  · exact hmark (by rw [untrashed_addRank, untrashed_bind])
  · exact hmark (by rw [untrashed_addSort, untrashed_addRank, untrashed_bind])

@[simp] lemma gather_parameters (acc : Accumulator) (cs : List Contribution) :
    (acc.gather cs).parameters.entries = acc.parameters.entries ++ parametersOf cs := by
  induction cs generalizing acc with
  | nil => simp [gather, parametersOf]
  | cons c cs ih =>
    have hcons : acc.gather (c :: cs) = (acc.add false c).gather cs := rfl
    rw [hcons, ih, add_parameters, List.append_assoc]
    rfl

/-- Each ranked contribution adds the rank column with the next number. -/
@[simp] lemma gather_ranks (acc : Accumulator) (cs : List Contribution) :
    (acc.gather cs).ranks = acc.ranks ++ (cs.filterMap (·.ranked)).mapIdx fun k query =>
      ⟨.search, query, numbered "rank" (acc.ranks.length + k)⟩ := by
  induction cs generalizing acc with
  | nil => simp [gather]
  | cons c cs ih =>
    have hcons : acc.gather (c :: cs) = (acc.add false c).gather cs := rfl
    rw [hcons, ih, add_ranks]
    cases hranked : c.ranked with
    | none => simp [hranked]
    | some query => simp [hranked, List.mapIdx_cons, Nat.add_assoc, Nat.add_comm 1]

end Accumulator

/-- A tree gathers the contributions of its tags, all of them if it compiles and else those before
the tag that fails. Its predicate names just the parameters that it has bound, in binding order. -/
theorem Query.compileInto_gathers (options : CompileOptions) (q : Query) (required : Bool)
    (acc : Accumulator) :
    let cs := contributionsFrom options acc.parameters.entries.length q.tags
    (q.compileInto options required acc).2.untrashed = acc.untrashed.gather cs ∧
      match (q.compileInto options required acc).1 with
      | .error _ => cs.length < q.tags.length
      | .ok p => cs.length = q.tags.length ∧ referencesOf p = (parametersOf cs).map (·.name) := by
  induction q generalizing required acc with
  | empty => exact ⟨rfl, rfl, rfl⟩
  | tag t =>
    simp only [compileInto, tags]
    cases hc : t.contribution options acc.parameters.entries.length with
    | error e =>
      rw [contributionsFrom_of_error hc]
      exact ⟨rfl, Nat.one_pos⟩
    | ok c =>
      rw [contributionsFrom_cons hc]
      refine ⟨acc.untrashed_add required c, rfl, ?_⟩
      rw [(Tag.contribution_wellBound hc).references]
      simp [contributionsFrom]
  | logical connective left right ihl ihr =>
    have hl := ihl (required && connective = .and) acc
    simp only [compileInto, tags]
    cases hleft : left.compileInto options (required && connective = .and) acc with
    | mk result mid =>
      rw [hleft] at hl
      obtain ⟨hgather, hresult⟩ := hl
      cases result with
      | error e =>
        dsimp only at hresult ⊢
        rw [contributionsFrom_append_of_lt hresult, List.length_append]
        exact ⟨hgather, by omega⟩
      | ok l =>
        obtain ⟨hcomplete, hnames⟩ := hresult
        have hmid : mid.parameters.entries = acc.parameters.entries ++ parametersOf
            (contributionsFrom options acc.parameters.entries.length left.tags) := by
          simpa only [Accumulator.untrashed_parameters, Accumulator.gather_parameters] using
            congrArg (fun acc => acc.parameters.entries) hgather
        have hr := ihr (required && connective = .and) mid
        rw [hmid, List.length_append] at hr
        dsimp only at hgather hr ⊢
        rw [contributionsFrom_append hcomplete, Accumulator.gather_append, ← hgather]
        cases hright : right.compileInto options (required && connective = .and) mid with
        | mk result acc' =>
          rw [hright] at hr
          obtain ⟨hgather', hresult'⟩ := hr
          cases result with
          | error e =>
            refine ⟨hgather', ?_⟩
            dsimp only at hresult' ⊢
            rw [List.length_append, List.length_append]
            omega
          | ok r =>
            refine ⟨hgather', ?_, ?_⟩
            · rw [List.length_append, List.length_append, hcomplete, hresult'.1]
            · rw [referencesOf_join, hnames, hresult'.2, parametersOf_append, List.map_append]
  | negation mark operand ih =>
    have h := ih false acc
    simp only [compileInto, tags]
    cases hoperand : operand.compileInto options false acc with
    | mk result acc' =>
      rw [hoperand] at h
      cases result with
      | error e => exact h
      | ok inner =>
        obtain ⟨hgather, hcomplete, hnames⟩ := h
        exact ⟨hgather, hcomplete, (referencesOf_map .not (fun _ => rfl) inner).trans hnames⟩
  | group inner ih =>
    have h := ih required acc
    simp only [compileInto, tags]
    cases hinner : inner.compileInto options required acc with
    | mk result acc' =>
      rw [hinner] at h
      cases result with
      | error e => exact h
      | ok found =>
        obtain ⟨hgather, hcomplete, hnames⟩ := h
        exact ⟨hgather, hcomplete, (referencesOf_map .group (fun _ => rfl) found).trans hnames⟩

lemma Query.gathers_of_compile {options : CompileOptions} {q : Query} {c : Compiled}
    (h : q.compile options = .ok c) :
    let leaves := contributionsFrom options 0 q.tags
    let acc := Accumulator.gather {} leaves
    leaves.length = q.tags.length ∧ referencesOf c.predicate = (parametersOf leaves).map (·.name) ∧
      c.parameters = acc.parameters ∧ c.ranks = acc.ranks ∧ c.sort = acc.sort := by
  obtain ⟨acc, hcompiles, hparameters, hranks, hsort, -⟩ := compiles_of_compile h
  obtain ⟨hgather, hresult⟩ := q.compileInto_gathers options true {}
  rw [compileInto_of_compiles hcompiles] at hgather hresult
  exact ⟨hresult.1, hresult.2, hparameters.trans (congrArg (·.parameters) hgather),
    hranks.trans (congrArg (·.ranks) hgather), hsort.trans (congrArg (·.sort) hgather)⟩

end ReadLater
