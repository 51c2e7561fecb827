import ReadLater.Proofs.Leaves
import ReadLater.Proofs.Requests

/-!
# Parameters are used once

A compiled predicate names each of its parameters once, in the order in which they were bound, also
behind the tests of visible items. Trees that share an accumulator do not disturb each other: what
one of them has bound keeps its name and its value, even if the tree or a later one fails.
-/

namespace ReadLater

lemma NumberedFrom.nodup_names {n : Nat} {ps : List Parameter} (h : NumberedFrom n ps) :
    (ps.map (·.name)).Nodup := by
  induction ps generalizing n with
  | nil => exact .nil
  | cons p ps ih =>
    refine List.nodup_cons.mpr ⟨fun hmem => ?_, ih h.2⟩
    obtain ⟨q, hq, hname⟩ := List.mem_map.mp hmem
    obtain ⟨s, hp⟩ := h.1
    obtain ⟨t, k, hk, hnumbered⟩ := h.2.number_le hq
    have := (numbered_injective (hp.symm.trans (hname.symm.trans hnumbered))).2
    omega

lemma Parameters.get?_of_prefix {ps qs : Parameters} (h : ps.entries <+: qs.entries)
    {name : String} {value : ParameterValue} (hget : ps.get? name = some value) :
    qs.get? name = some value := by
  obtain ⟨later, hlater⟩ := h
  obtain ⟨p, hp, hvalue⟩ := Option.map_eq_some_iff.mp hget
  rw [get?, ← hlater, List.find?_append, hp]
  exact congrArg some hvalue

/-- What the tests of hidden states bind after `bound` bound values. -/
def hiddenParameters (bound : Nat) (states : List ItemState) : List Parameter :=
  states.mapIdx fun k s => ⟨numbered "state" (bound + k), .text s.name⟩

lemma hiddenParameters_cons (bound : Nat) (s : ItemState) (states : List ItemState) :
    hiddenParameters bound (s :: states) =
      ⟨numbered "state" bound, .text s.name⟩ :: hiddenParameters (bound + 1) states := by
  simp [hiddenParameters, List.mapIdx_cons, Nat.add_comm, Nat.add_left_comm]

lemma foldl_hide (states : List ItemState) (base : Predicate × Parameters) :
    (states.foldl hide base).2.entries =
        base.2.entries ++ hiddenParameters base.2.entries.length states ∧
      (states.foldl hide base).1.references =
        base.1.references ++ (hiddenParameters base.2.entries.length states).map (·.name) := by
  induction states generalizing base with
  | nil => simp [hiddenParameters]
  | cons s states ih =>
    obtain ⟨hentries, hreferences⟩ := ih (hide base s)
    rw [List.foldl_cons, hentries, hreferences, hiddenParameters_cons]
    simp [hide, Parameters.bind, Parameters.nextName, Predicate.references, Condition.references]

namespace Compiled

/-- What the tests of visible items bind after the values of the query. -/
def baselineParameters (c : Compiled) (userId : String) (v : Visibility) : List Parameter :=
  ⟨numbered "user_id" c.parameters.entries.length, .text userId⟩ ::
    hiddenParameters (c.parameters.entries.length + 1) (v.hidden c.trash)

variable (c : Compiled) (userId : String) (v : Visibility)

lemma baseline_eq :
    (c.baseline userId v).2.entries = c.parameters.entries ++ c.baselineParameters userId v ∧
      (c.baseline userId v).1.references = (c.baselineParameters userId v).map (·.name) := by
  obtain ⟨hentries, hreferences⟩ :=
    foldl_hide (v.hidden c.trash) (ownedBy c.parameters userId)
  refine ⟨hentries.trans ?_, hreferences.trans ?_⟩ <;>
    simp [baselineParameters, ownedBy, Parameters.bind, Parameters.nextName, Predicate.references,
      Condition.references]

lemma visibleTo_entries : (c.visibleTo userId v).parameters.entries =
    c.parameters.entries ++ c.baselineParameters userId v := by
  rw [visibleTo_parameters, (c.baseline_eq userId v).1]

lemma visibleTo_references : referencesOf (c.visibleTo userId v).predicate =
    (c.baselineParameters userId v).map (·.name) ++ referencesOf c.predicate := by
  rw [visibleTo_predicate, ← (c.baseline_eq userId v).2]
  cases c.predicate <;> simp [referencesOf, Predicate.references]

end Compiled

/-- Compiles trees one after another. A tree that fails leaves what it has added so far. -/
def compileEach : List (CompileOptions × Query) → Accumulator →
    List (Except QueryError (Option Predicate)) × Accumulator
  | [], acc => ([], acc)
  | (options, q) :: trees, acc =>
    let (result, acc) := q.compileInto options true acc
    let (results, acc) := compileEach trees acc
    (result :: results, acc)

/-- The contributions of each tree, after the values that the trees before it have bound. -/
def contributionsOfEach : Nat → List (CompileOptions × Query) → List (List Contribution)
  | _, [] => []
  | bound, (options, q) :: trees =>
    let cs := contributionsFrom options bound q.tags
    cs :: contributionsOfEach (bound + (parametersOf cs).length) trees

/-- The contribution mentions just what it has bound, and it finds its own values there. -/
structure Contribution.ResolvedBy (c : Contribution) (ps : Parameters) : Prop where
  references : referencesOf c.predicate = c.parameters.map (·.name)
  ranked : ∀ query, c.ranked = some query → ∃ text, ⟨query, .text text⟩ ∈ c.parameters
  values : ∀ p ∈ c.parameters, ps.get? p.name = some p.value

lemma referencesOf_contributions {options : CompileOptions} {bound : Nat} {ts : List Query.Tag} :
    (contributionsFrom options bound ts).flatMap (fun c => referencesOf c.predicate) =
      (parametersOf (contributionsFrom options bound ts)).map (·.name) := by
  rw [parametersOf, List.map_flatMap]
  refine List.flatMap_congr fun c hc => ?_
  obtain ⟨t, -, n, hcontributes⟩ := exists_of_mem_contributionsFrom hc
  exact (Query.Tag.contribution_wellBound hcontributes).references

lemma exists_wellBound_of_mem {bound : Nat} {trees : List (CompileOptions × Query)}
    {c : Contribution} (h : c ∈ (contributionsOfEach bound trees).flatten) :
    ∃ n, c.WellBound n := by
  induction trees generalizing bound with
  | nil => cases h
  | cons tree trees ih =>
    rcases List.mem_append.mp h with hmem | hmem
    · obtain ⟨t, -, n, hcontributes⟩ := exists_of_mem_contributionsFrom hmem
      exact ⟨n, Query.Tag.contribution_wellBound hcontributes⟩
    · exact ih hmem

lemma numberedFrom_contributionsOfEach (bound : Nat) (trees : List (CompileOptions × Query)) :
    NumberedFrom bound (parametersOf (contributionsOfEach bound trees).flatten) := by
  induction trees generalizing bound with
  | nil => trivial
  | cons tree trees ih =>
    rw [contributionsOfEach, List.flatten_cons, parametersOf_append, numberedFrom_append]
    exact ⟨numberedFrom_contributionsFrom, ih _⟩

lemma compileEach_append (before after : List (CompileOptions × Query)) (acc : Accumulator) :
    (compileEach (before ++ after) acc).2 = (compileEach after (compileEach before acc).2).2 := by
  induction before generalizing acc with
  | nil => rfl
  | cons tree before ih => exact ih _

/-- A run over trees gathers all their contributions, those of failing trees too. -/
lemma compileEach_gathers (trees : List (CompileOptions × Query)) (acc : Accumulator) :
    let gathered := contributionsOfEach acc.parameters.entries.length trees
    (compileEach trees acc).2.untrashed = acc.untrashed.gather gathered.flatten ∧
      List.Forall₂ (fun (tree, result) cs => ∀ p, result = .ok p →
        cs.length = tree.2.tags.length ∧
          referencesOf p = cs.flatMap fun c => referencesOf c.predicate)
        (trees.zip (compileEach trees acc).1) gathered := by
  induction trees generalizing acc with
  | nil => exact ⟨rfl, .nil⟩
  | cons tree trees ih =>
    obtain ⟨options, q⟩ := tree
    obtain ⟨hgather, hresult⟩ := q.compileInto_gathers options true acc
    simp only [compileEach, contributionsOfEach]
    generalize hcs : contributionsFrom options acc.parameters.entries.length q.tags = cs
      at hgather hresult ⊢
    have hmid : (q.compileInto options true acc).2.parameters.entries =
        acc.parameters.entries ++ parametersOf cs := by
      simpa only [Accumulator.untrashed_parameters, Accumulator.gather_parameters] using
        congrArg (fun acc => acc.parameters.entries) hgather
    obtain ⟨hrest, hresults⟩ := ih (q.compileInto options true acc).2
    rw [hmid, List.length_append] at hrest hresults
    refine ⟨?_, .cons (fun p hp => ?_) hresults⟩
    · rw [hrest, hgather, List.flatten_cons, Accumulator.gather_append]
    · dsimp only at hp
      rw [hp] at hresult
      refine ⟨hresult.1, ?_⟩
      rw [hresult.2, ← hcs, referencesOf_contributions]

lemma compileEach_entries (trees : List (CompileOptions × Query)) (acc : Accumulator) :
    (compileEach trees acc).2.parameters.entries = acc.parameters.entries ++
      parametersOf (contributionsOfEach acc.parameters.entries.length trees).flatten := by
  simpa only [Accumulator.untrashed_parameters, Accumulator.gather_parameters] using
    congrArg (fun acc => acc.parameters.entries) (compileEach_gathers trees acc).1

/-- Every bound value has a name of its own and is mentioned once, in binding order and after those
of the baseline. Of trees that share an accumulator, each one that succeeds and each rank column
mentions just what its own leaves have bound, and finds it among the parameters at the end. -/
theorem references_resolve :
    (∀ (options : CompileOptions) (q : Query) (c : Compiled), q.compile options = .ok c →
      referencesOf c.predicate = c.parameters.entries.map (·.name) ∧
      (c.parameters.entries.map (·.name)).Nodup ∧
      ∀ (userId : String) (v : Visibility),
        (c.visibleTo userId v).parameters.entries =
          c.parameters.entries ++ c.baselineParameters userId v ∧
        referencesOf (c.visibleTo userId v).predicate =
          (c.baselineParameters userId v).map (·.name) ++ referencesOf c.predicate ∧
        ((c.visibleTo userId v).parameters.entries.map (·.name)).Nodup) ∧
    ∀ trees : List (CompileOptions × Query),
      let results := (compileEach trees {}).1
      let last := (compileEach trees {}).2
      let gathered := contributionsOfEach 0 trees
      (last.parameters.entries.map (·.name)).Nodup ∧
      (∀ before after, trees = before ++ after →
        (compileEach before {}).2.parameters.entries <+: last.parameters.entries ∧
        ∀ name value, (compileEach before {}).2.parameters.get? name = some value →
          last.parameters.get? name = some value) ∧
      last.parameters.entries = parametersOf gathered.flatten ∧
      last.ranks = ((gathered.flatten.filterMap (·.ranked)).mapIdx fun k query =>
        ⟨.search, query, numbered "rank" k⟩) ∧
      (∀ c ∈ gathered.flatten, c.ResolvedBy last.parameters) ∧
      List.Forall₂ (fun (tree, result) cs => ∀ p, result = .ok p →
        cs.length = tree.2.tags.length ∧
          referencesOf p = cs.flatMap fun c => referencesOf c.predicate)
        (trees.zip results) gathered := by
  refine ⟨fun options q c hc => ?_, fun trees => ?_⟩
  · have hnumbered := Query.numbered_of_compile hc
    obtain ⟨-, hreferences, hparameters, -⟩ := Query.gathers_of_compile hc
    refine ⟨?_, hnumbered.nodup_names, fun userId v => ⟨c.visibleTo_entries userId v,
      c.visibleTo_references userId v, (c.visibleTo_numbered userId v hnumbered).nodup_names⟩⟩
    rw [hreferences, hparameters, Accumulator.gather_parameters]
    rfl
  · intro results last gathered
    obtain ⟨hgather, hresults⟩ := compileEach_gathers trees {}
    have hentries : last.parameters.entries = parametersOf gathered.flatten :=
      compileEach_entries trees {}
    have hnumbered : last.parameters.Numbered := by
      rw [Parameters.Numbered, hentries]
      exact numberedFrom_contributionsOfEach 0 trees
    refine ⟨hnumbered.nodup_names, ?_, hentries, ?_, fun c hc => ?_, hresults⟩
    · rintro before after rfl
      have hkept : (compileEach before {}).2.parameters.entries <+: last.parameters.entries := by
        change _ <+: (compileEach (before ++ after) {}).2.parameters.entries
        rw [compileEach_append, compileEach_entries after]
        exact List.prefix_append _ _
      exact ⟨hkept, fun name value => Parameters.get?_of_prefix hkept⟩
    · simpa [last, gathered, Accumulator.untrashed, Parameters.empty] using
        congrArg (·.ranks) hgather
    · obtain ⟨n, hbound⟩ := exists_wellBound_of_mem hc
      refine ⟨hbound.references, hbound.ranked, fun p hp => hnumbered.get?_of_mem ?_⟩
      rw [hentries]
      exact List.mem_flatMap.mpr ⟨c, hc, hp⟩

/-- A tree that fails after a title has bound two values, between two trees that compile. -/
theorem references_resolve_after_failure :
    let options : CompileOptions := { now := ⟨.epoch, 0⟩ }
    let tagged (field value : String) : Query :=
      .tag ⟨.named field false, .literal (.string value) false⟩
    let coffee : Query := .text "coffee" false
    let trees : List (CompileOptions × Query) :=
      [(options, tagged "label" "a,b*"),
        (options, .logical .and (tagged "title" "tea") (tagged "is" "bogus")), (options, coffee)]
    let last := (compileEach trees {}).2.parameters
    (∃ c, coffee.compile options = .ok c ∧
      referencesOf (c.visibleTo "u1" {}).predicate =
        ["user_id_1", "state_2", "state_3", "implicit_0"]) ∧
    last.entries.map (·.name) = ["label_0", "label_1", "title_2", "title_3", "implicit_4"] ∧
    (last.entries.map (·.name)).Nodup ∧
    last.get? "label_1" = some (.text "b%") ∧
    last.get? "implicit_4" = some (.text "coffee") := by
  intro options tagged coffee trees last
  obtain ⟨hcompiled, hshared⟩ := references_resolve
  obtain ⟨hnodup, hkept, -⟩ := hshared trees
  refine ⟨?_, by decide +kernel, hnodup, ?_, by decide +kernel⟩
  · have hpresent : (coffee.compile options).toOption.map
        (fun c => ((c.baselineParameters "u1" {}).map (·.name), referencesOf c.predicate)) =
        some (["user_id_1", "state_2", "state_3"], ["implicit_0"]) := by decide +kernel
    obtain ⟨c, hc, hnames⟩ := Except.exists_of_toOption hpresent
    obtain ⟨hbaseline, hquery⟩ := Prod.mk.inj hnames
    refine ⟨c, hc, ?_⟩
    rw [((hcompiled _ _ c hc).2.2 "u1" {}).2.1, hbaseline, hquery]
    rfl
  · exact (hkept [(options, tagged "label" "a,b*")] _ rfl).2 _ _ (by decide +kernel)

end ReadLater
