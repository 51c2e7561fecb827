import ReadLater.Proofs.Baseline
import ReadLater.Search.Error

/-!
# The meaning of a query

A query says of an item that it is true, false or unknown, or says nothing. A tag says what it says
when it is compiled on its own, and the connectives combine this in three-valued logic, where a side
that says nothing is dropped. The filter of a whole query, whose tags are compiled one after another
into a common list of parameters, accepts just the items of which the query is true or says nothing.
-/

namespace ReadLater

/-- Joins what two sides say; a side that says nothing leaves the other one. -/
def Query.Connective.combine (c : Query.Connective) (left right : Option Truth) : Option Truth :=
  match left, right with
  | some l, some r => some (match c with | .and => l.and r | .or => l.or r)
  | l, none => l
  | none, r => r

/-- What a query says of an item, tag by tag. -/
def Query.meaning (options : CompileOptions) (clock : Time.Instant) (i : Item) :
    Query → Except RequestError (Option Truth)
  | .empty => .ok none
  | .tag t => do
    let c ← ((Query.tag t).compile options).mapError .query
    match c.predicate with
    | none => return none
    | some p => return some (← (p.truth c.parameters clock i).mapError .store)
  | .logical connective left right => do
    let l ← left.meaning options clock i
    let r ← right.meaning options clock i
    return connective.combine l r
  | .negation _ operand => do
    let m ← operand.meaning options clock i
    return m.map Truth.not
  | .group inner => inner.meaning options clock i

/-- `Tells ps clock i p m`: with the parameters `ps` the predicate `p`, if there is one, has the
truth `m` of the item. -/
inductive Tells (ps : Parameters) (clock : Time.Instant) (i : Item) :
    Option Predicate → Option Truth → Prop
  | absent : Tells ps clock i none none
  | present {p t} : p.truth ps clock i = .ok t → Tells ps clock i (some p) (some t)

namespace Tells

variable {ps : Parameters} {clock : Time.Instant} {i : Item} {p l r : Option Predicate}
  {m n : Option Truth}

lemma join (hl : Tells ps clock i l m) (hr : Tells ps clock i r n) (connective : Query.Connective) :
    Tells ps clock i (connective.join l r) (connective.combine m n) := by
  cases hl with
  | absent =>
    cases hr with
    | absent => exact .absent
    | present hr => exact .present hr
  | present hl =>
    cases hr with
    | absent => exact .present hl
    | present hr =>
      cases connective <;> refine .present ?_ <;> rw [Predicate.truth, hl, hr] <;> rfl

lemma not (h : Tells ps clock i p m) : Tells ps clock i (p.map .not) (m.map Truth.not) := by
  cases h with
  | absent => exact .absent
  | present h =>
    refine .present ?_
    rw [Predicate.truth, h]
    rfl

lemma group (h : Tells ps clock i p m) : Tells ps clock i (p.map .group) m := by
  cases h with
  | absent => exact .absent
  | present h => exact .present h

lemma unique (h : Tells ps clock i p m) (h' : Tells ps clock i p n) : m = n := by
  cases h with
  | absent =>
    cases h'
    rfl
  | present h =>
    cases h' with
    | present h' => rw [Except.ok.inj (h.symm.trans h')]

lemma accepts (h : Tells ps clock i p m) :
    Filter.accepts ⟨p, ps⟩ clock i = .ok (decide (m = none ∨ m = some (some true))) := by
  cases h with
  | absent => rfl
  | present h =>
    rename_i t
    rw [Filter.accepts_of_truth rfl h]
    rcases t with _ | _ | _ <;> rfl

end Tells

lemma exists_of_mem_demands {rs : List Reference} {ps : List Parameter}
    (h : List.Forall₂ Contribution.Takes rs ps) {r : Reference} (hr : r ∈ rs) :
    ∃ p ∈ ps, Contribution.Takes r p := by
  induction h with
  | nil => cases hr
  | cons htakes _ ih =>
    rcases List.mem_cons.mp hr with rfl | hmem
    · exact ⟨_, List.mem_cons_self, htakes⟩
    · obtain ⟨p, hp, hrp⟩ := ih hmem
      exact ⟨p, List.mem_cons_of_mem _ hp, hrp⟩

lemma Contribution.WellBound.carried {c : Contribution} (h : c.WellBound 0) {f : String → String}
    {new : Parameters} (hnew : ∀ p ∈ c.parameters, new.get? (f p.name) = some p.value)
    {r : Reference} (hr : r ∈ c.demands) : r.CarriedBy f ⟨c.parameters⟩ new := by
  obtain ⟨p, hp, hname, hkind⟩ := exists_of_mem_demands h.demands hr
  rw [Reference.CarriedBy, hname]
  exact ⟨p.value, Parameters.get?_of_numberedFrom h.numbered hp,
    hnew p hp, hkind⟩

lemma Contribution.WellBound.tells {c : Contribution} (h : c.WellBound 0) {f : String → String}
    {new : Parameters} (hnew : ∀ p ∈ c.parameters, new.get? (f p.name) = some p.value)
    (clock : Time.Instant) (i : Item) :
    ∃ m, Tells ⟨c.parameters⟩ clock i c.predicate m ∧
      Tells new clock i (c.rename f).predicate m := by
  obtain ⟨predicate, parameters, ranked, sort, trash⟩ := c
  cases predicate with
  | none => exact ⟨none, .absent, .absent⟩
  | some p =>
    obtain ⟨t, hold, hrenamed⟩ := Predicate.truth_of_carried (p := p)
      (fun r hr => h.carried hnew hr) clock i
    exact ⟨some t, .present hold, .present hrenamed⟩

lemma Query.compile_tag {t : Query.Tag} {options : CompileOptions} {c : Contribution}
    (h : t.contribution options 0 = .ok c) :
    ∃ alone, (Query.tag t).compile options = .ok alone ∧ alone.predicate = c.predicate ∧
      alone.parameters = ⟨c.parameters⟩ := by
  have hinto : (Query.tag t).compileInto options true {} =
      (.ok c.predicate, Accumulator.add {} true c) := by
    simp only [compileInto]
    rw [show ({} : Accumulator).parameters.entries.length = 0 from rfl, h]
  have hcompile : ∃ ranks sort trash, (Query.tag t).compile options =
      .ok ⟨c.predicate, (Accumulator.add {} true c).parameters, ranks, sort, trash⟩ := by
    unfold compile
    rw [hinto]
    exact ⟨_, _, _, rfl⟩
  obtain ⟨ranks, sort, trash, hcompile⟩ := hcompile
  exact ⟨_, hcompile, rfl, congrArg Parameters.mk (Accumulator.add_parameters {} true c)⟩

lemma Query.meaning_tag {t : Query.Tag} {options : CompileOptions} {clock : Time.Instant}
    {i : Item} {c : Contribution} {m : Option Truth} (h : t.contribution options 0 = .ok c)
    (hm : Tells ⟨c.parameters⟩ clock i c.predicate m) :
    (Query.tag t).meaning options clock i = .ok m := by
  obtain ⟨alone, hcompile, hpredicate, hparameters⟩ := compile_tag h
  simp only [meaning, hcompile]
  rw [← hpredicate, ← hparameters] at hm
  cases hp : alone.predicate with
  | none =>
    rw [hp] at hm
    cases hm
    simp only [Except.mapError, bind, Except.bind, hp]
    rfl
  | some p =>
    rw [hp] at hm
    cases hm with
    | present htruth =>
      simp only [Except.mapError, bind, Except.bind, hp, htruth]
      rfl

/-- A tag says the same among other tags as on its own. -/
lemma Query.Tag.tells_of_contribution {t : Query.Tag} {options : CompileOptions} {n : Nat}
    {c : Contribution} (h : t.contribution options n = .ok c) (clock : Time.Instant) (i : Item) :
    ∃ m, (Query.tag t).meaning options clock i = .ok m ∧
      ∀ ps : Parameters, ps.Numbered → (∀ p ∈ c.parameters, p ∈ ps.entries) →
        Tells ps clock i c.predicate m := by
  have hadd := t.contribution_add options n 0
  rw [Nat.add_zero, h] at hadd
  cases halone : t.contribution options 0 with
  | error e => rw [halone] at hadd; cases hadd
  | ok c₀ =>
    rw [halone] at hadd
    cases hadd
    have hbound := contribution_wellBound halone
    have halone_values : ∀ p ∈ c₀.parameters,
        (⟨c₀.parameters⟩ : Parameters).get? (id p.name) = some p.value :=
      fun p hp => Parameters.get?_of_numberedFrom hbound.numbered hp
    obtain ⟨m, hm, -⟩ := hbound.tells halone_values clock i
    refine ⟨m, meaning_tag halone hm, fun ps hps hsub => ?_⟩
    -- among other tags it is the same contribution under names with higher numbers
    have hvalues : ∀ p ∈ c₀.parameters, ps.get? (shifted n p.name) = some p.value := by
      intro p hp
      have hmem : (⟨shifted n p.name, p.value⟩ : Parameter) ∈ ps.entries :=
        hsub _ (List.mem_map.mpr ⟨p, hp, rfl⟩)
      have hvalue := hps.get?_of_mem hmem
      exact hvalue
    obtain ⟨m', hm', hrenamed⟩ := hbound.tells hvalues clock i
    rwa [hm.unique hm']

/-- Whatever is bound before and after, a compiled tree says what it means. -/
theorem Compiles.tells {options : CompileOptions} {required : Bool} {q : Query}
    {acc acc' : Accumulator} {p : Option Predicate} (h : Compiles options required q acc p acc')
    (clock : Time.Instant) (i : Item) :
    ∃ m, q.meaning options clock i = .ok m ∧
      ∀ ps : Parameters, ps.Numbered → acc'.parameters.entries <+: ps.entries →
        Tells ps clock i p m := by
  induction h with
  | empty => exact ⟨none, rfl, fun _ _ _ => .absent⟩
  | tag hc =>
    obtain ⟨m, hmeaning, htells⟩ := Query.Tag.tells_of_contribution hc clock i
    refine ⟨m, hmeaning, fun ps hps hext => htells ps hps fun p hp => ?_⟩
    rw [Accumulator.add_parameters] at hext
    exact hext.subset (List.mem_append_right _ hp)
  | @logical _ connective _ _ _ _ _ _ _ _ hright ihl ihr =>
    obtain ⟨m, hm, hl⟩ := ihl
    obtain ⟨n, hn, hr⟩ := ihr
    refine ⟨connective.combine m n, ?_, fun ps hps hext => ?_⟩
    · rw [Query.meaning, hm, hn]
      rfl
    -- what the right side binds comes after what the left side refers to
    · exact (hl ps hps (hright.parameters_extend.trans hext)).join (hr ps hps hext) connective
  | negation _ ih =>
    obtain ⟨m, hm, htells⟩ := ih
    refine ⟨m.map Truth.not, ?_, fun ps hps hext => (htells ps hps hext).not⟩
    rw [Query.meaning, hm]
    rfl
  | group _ ih =>
    obtain ⟨m, hm, htells⟩ := ih
    exact ⟨m, hm, fun ps hps hext => (htells ps hps hext).group⟩

/-- Compilation is compositional and free of context: with its own parameters, and also with those
that the restriction to the items of a user adds, the filter of a query accepts an item just when
the query is true of it or says nothing. -/
theorem Query.compile_accepts_iff_meaning (options : CompileOptions) (q : Query) (c : Compiled)
    (h : q.compile options = .ok c) (clock : Time.Instant) (i : Item) (userId : String)
    (v : Visibility) :
    ∃ m, q.meaning options clock i = .ok m ∧
      c.filter.accepts clock i = .ok (decide (m = none ∨ m = some (some true))) ∧
      Filter.accepts ⟨c.predicate, (c.visibleTo userId v).parameters⟩ clock i =
        .ok (decide (m = none ∨ m = some (some true))) := by
  obtain ⟨acc, hcompiles, hparameters, -, -⟩ := compiles_of_compile h
  obtain ⟨m, hmeaning, htells⟩ := hcompiles.tells clock i
  have hnumbered := numbered_of_compile h
  rw [← hparameters] at htells
  have halone := (htells c.parameters hnumbered List.prefix_rfl).accepts
  have hrestricted := (htells _ (c.visibleTo_numbered userId v hnumbered)
    (c.visibleTo_extends userId v)).accepts
  exact ⟨m, hmeaning, halone, hrestricted⟩

/-- `-label:fiction (sort:saved OR author:Knuth)` of an item without an author. -/
theorem Query.compile_accepts_iff_meaning_without_author :
    let q : Query := .logical .and
      (.negation .minus (.tag ⟨.named "label" false, .literal (.string "fiction") false⟩))
      (.group (.logical .or (.tag ⟨.named "sort" false, .literal (.string "saved") false⟩)
        (.tag ⟨.named "author" false, .literal (.string "Knuth") false⟩)))
    let options : CompileOptions := ⟨false, ⟨.epoch, 0⟩, .monday⟩
    let i := Item.saved "a" "u1" "Notes" .epoch
    ∃ c, q.compile options = .ok c ∧ q.meaning options .epoch i = .ok (some none) ∧
      c.filter.accepts .epoch i = .ok false ∧
      Filter.accepts ⟨c.predicate, (c.visibleTo "u1" {}).parameters⟩ .epoch i = .ok false := by
  intro q options i
  let c : Compiled :=
    { predicate := some (.and (.not (.group (.test (.anyEquals Column.labelSet "label_0"))))
        (.group (.group (.or (.test (.textMatch (.column .author) "author_1"))
          (.test (.iLike .author "author_2"))))))
      parameters := ⟨[⟨"label_0", .text "fiction"⟩, ⟨"author_1", .text "knuth"⟩,
        ⟨"author_2", .text "%knuth%"⟩]⟩
      ranks := []
      sort := [⟨"saved_at", .descending, .last⟩]
      trash := false }
  have hcompile : q.compile options = .ok c := by decide +kernel
  have hmeaning : q.meaning options .epoch i = .ok (some none) := by decide +kernel
  obtain ⟨m, hm, halone, hrestricted⟩ :=
    Query.compile_accepts_iff_meaning options q c hcompile .epoch i "u1" {}
  cases hmeaning.symm.trans hm
  exact ⟨c, hcompile, hmeaning, halone, hrestricted⟩

end ReadLater
