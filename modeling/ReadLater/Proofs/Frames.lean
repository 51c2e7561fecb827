import Mathlib.Data.Fintype.Option
import ReadLater.Proofs.Meaning

/-!
# Queries with a hole

A frame is a query with a hole, and what a filled frame says of an item depends on what fills the
hole through its truth alone. The truth is used once: a frame keeps what two truths have in common,
so that it takes an unknown one just as far as both known ones go together, and it keeps their order
or, below an odd number of negations, reverses it.
-/

namespace ReadLater

namespace Truth

/-- What two truths have in common: they are unknown where they differ. -/
def common (t u : Truth) : Truth :=
  if t = u then t else none

/-- The order of false, unknown and true. -/
def AtMost (t u : Truth) : Prop :=
  t.and u = t

instance (t u : Truth) : Decidable (t.AtMost u) :=
  inferInstanceAs (Decidable (t.and u = t))

lemma AtMost.eq_true {t u : Truth} (h : t.AtMost u) (ht : t = some true) : u = some true := by
  revert t u
  decide

/-- A function that uses a truth once, as it is or negated. -/
structure UsesOnce (positive : Bool) (f : Truth → Truth) : Prop where
  common (t u : Truth) : f (t.common u) = (f t).common (f u)
  order (t u : Truth) : t.AtMost u → if positive then (f t).AtMost (f u) else (f u).AtMost (f t)

namespace UsesOnce

variable {positive : Bool} {f g : Truth → Truth}

lemma id : UsesOnce true id where
  common _ _ := rfl
  order _ _ h := h

lemma const (positive : Bool) (t : Truth) : UsesOnce positive fun _ => t where
  common _ _ := (if_pos rfl).symm
  order _ _ _ := by
    have hself : t.AtMost t := by revert t; decide
    cases positive <;> exact hself

lemma comp (hg : UsesOnce true g) (hf : UsesOnce positive f) :
    UsesOnce positive fun t => g (f t) where
  common t u := by rw [hf.common, hg.common]
  order t u h := by
    have hinner := hf.order t u h
    cases positive with
    | true => exact hg.order _ _ hinner
    | false => exact hg.order _ _ hinner

lemma not (hf : UsesOnce positive f) : UsesOnce (!positive) fun t => (f t).not where
  common t u := by
    have hnot : ∀ t u : Truth, (t.common u).not = t.not.common u.not := by decide
    rw [hf.common, hnot]
  order t u h := by
    have hnot : ∀ t u : Truth, t.AtMost u → u.not.AtMost t.not := by decide
    have hinner := hf.order t u h
    cases positive <;> exact hnot _ _ hinner

lemma and (u : Truth) : UsesOnce true fun t => t.and u where
  common t s := by revert t s u; decide
  order t s := by revert t s u; decide

lemma or (u : Truth) : UsesOnce true fun t => t.or u where
  common t s := by revert t s u; decide
  order t s := by revert t s u; decide

lemma unknown_iff (hf : UsesOnce positive f) :
    f none = some true ↔ f (some true) = some true ∧ f (some false) = some true := by
  have hcommon : ∀ t u : Truth, t.common u = some true ↔ t = some true ∧ u = some true := by
    decide
  rw [← hcommon, ← hf.common]
  rfl

lemma unknown_iff_of_positive (hf : UsesOnce true f) :
    f none = some true ↔ f (some false) = some true := by
  have horder : (f (some false)).AtMost (f (some true)) := hf.order _ _ rfl
  rw [hf.unknown_iff]
  exact and_iff_right_of_imp horder.eq_true

lemma unknown_iff_of_negative (hf : UsesOnce false f) :
    f none = some true ↔ f (some true) = some true := by
  have horder : (f (some true)).AtMost (f (some false)) := hf.order _ _ rfl
  rw [hf.unknown_iff]
  exact and_iff_left_of_imp horder.eq_true

end UsesOnce

lemma and_comm (t u : Truth) : t.and u = u.and t := by
  revert t u
  decide

lemma or_comm (t u : Truth) : t.or u = u.or t := by
  revert t u
  decide

end Truth

namespace Query

lemma Connective.exists_combine (c : Connective) (m : Option Truth) :
    ∃ f, Truth.UsesOnce true f ∧ ∀ t, c.combine (some t) m = some (f t) ∧
      c.combine m (some t) = some (f t) := by
  cases m with
  | none => exact ⟨id, .id, fun _ => ⟨rfl, rfl⟩⟩
  | some u =>
    cases c with
    | and => exact ⟨fun t => t.and u, .and u, fun t => ⟨rfl, congrArg some (Truth.and_comm u t)⟩⟩
    | or => exact ⟨fun t => t.or u, .or u, fun t => ⟨rfl, congrArg some (Truth.or_comm u t)⟩⟩

/-- A query with a hole. -/
inductive Frame
  | hole
  | onLeft (connective : Connective) (inner : Frame) (right : Query)
  | onRight (connective : Connective) (left : Query) (inner : Frame)
  | negation (mark : NegationMark) (inner : Frame)
  | group (inner : Frame)

namespace Frame

/-- The query with `q` in the hole. -/
def fill (q : Query) : Frame → Query
  | .hole => q
  | .onLeft connective inner right => .logical connective (inner.fill q) right
  | .onRight connective left inner => .logical connective left (inner.fill q)
  | .negation mark inner => .negation mark (inner.fill q)
  | .group inner => .group (inner.fill q)

/-- The number of negations above the hole is even. -/
def isPositive : Frame → Bool
  | .hole => true
  | .onLeft _ inner _ | .onRight _ _ inner | .group inner => inner.isPositive
  | .negation _ inner => !inner.isPositive

end Frame

lemma meaning_negation {q : Query} {options : CompileOptions} {clock : Time.Instant} {i : Item}
    {t : Truth} (h : q.meaning options clock i = .ok (some t)) (mark : NegationMark) :
    (Query.negation mark q).meaning options clock i = .ok (some t.not) := by
  rw [meaning, h]
  rfl

/-- What a filled frame means is a function of the truth in the hole, unless it fails. -/
lemma Frame.exists_meaning (frame : Frame) (options : CompileOptions) (clock : Time.Instant)
    (i : Item) :
    (∃ e, ∀ q t, q.meaning options clock i = .ok (some t) →
      (frame.fill q).meaning options clock i = .error e) ∨
    ∃ f, Truth.UsesOnce frame.isPositive f ∧ ∀ q t, q.meaning options clock i = .ok (some t) →
      (frame.fill q).meaning options clock i = .ok (some (f t)) := by
  induction frame with
  | hole => exact .inr ⟨id, .id, fun _ _ h => h⟩
  | onLeft connective inner right ih =>
    rcases ih with ⟨e, herror⟩ | ⟨f, hf, hmeaning⟩
    · refine .inl ⟨e, fun q t h => ?_⟩
      rw [fill, meaning, herror q t h]
      rfl
    · cases hright : right.meaning options clock i with
      | error e =>
        refine .inl ⟨e, fun q t h => ?_⟩
        rw [fill, meaning, hmeaning q t h, hright]
        rfl
      | ok m =>
        obtain ⟨g, hg, hcombine⟩ := connective.exists_combine m
        refine .inr ⟨fun t => g (f t), hg.comp hf, fun q t h => ?_⟩
        rw [fill, meaning, hmeaning q t h, hright, ← (hcombine (f t)).1]
        rfl
  | onRight connective left inner ih =>
    cases hleft : left.meaning options clock i with
    | error e =>
      refine .inl ⟨e, fun q t _ => ?_⟩
      rw [fill, meaning, hleft]
      rfl
    | ok m =>
      rcases ih with ⟨e, herror⟩ | ⟨f, hf, hmeaning⟩
      · refine .inl ⟨e, fun q t h => ?_⟩
        rw [fill, meaning, hleft, herror q t h]
        rfl
      · obtain ⟨g, hg, hcombine⟩ := connective.exists_combine m
        refine .inr ⟨fun t => g (f t), hg.comp hf, fun q t h => ?_⟩
        rw [fill, meaning, hleft, hmeaning q t h, ← (hcombine (f t)).2]
        rfl
  | negation mark inner ih =>
    rcases ih with ⟨e, herror⟩ | ⟨f, hf, hmeaning⟩
    · refine .inl ⟨e, fun q t h => ?_⟩
      rw [fill, meaning, herror q t h]
      rfl
    · exact .inr ⟨fun t => (f t).not, hf.not, fun q t h => meaning_negation (hmeaning q t h) mark⟩
  | group inner ih => exact ih

/-! ## Filled frames compile alike -/

/-- The query compiles to a predicate and contributes nothing else. -/
def OnlyTests (options : CompileOptions) (q : Query) : Prop :=
  ∃ p, ∀ required acc, q.compileInto options required acc = (.ok p, acc)

variable {options : CompileOptions} {q q' : Query}

lemma OnlyTests.negation (h : q.OnlyTests options) (mark : NegationMark) :
    (Query.negation mark q).OnlyTests options := by
  obtain ⟨p, hp⟩ := h
  refine ⟨p.map .not, fun required acc => ?_⟩
  simp only [compileInto, hp]

lemma onlyTests_tag {t : Query.Tag} {test : Condition}
    (h : ∀ bound, t.contribution options bound = .ok (.ofTest test)) :
    (Query.tag t).OnlyTests options := by
  refine ⟨some (.test test), fun required acc => ?_⟩
  have hadd : acc.add required (.ofTest test) = acc := by
    simp [Accumulator.add, Accumulator.bind, Contribution.ofTest]
  simp only [compileInto, h, hadd]
  rfl

lemma Frame.compileInto_fill (frame : Frame) (h : q.OnlyTests options) (h' : q'.OnlyTests options)
    (required : Bool) (acc : Accumulator) :
    (∃ e after, (frame.fill q).compileInto options required acc = (.error e, after) ∧
      (frame.fill q').compileInto options required acc = (.error e, after)) ∨
    ∃ p p' after, (frame.fill q).compileInto options required acc = (.ok p, after) ∧
      (frame.fill q').compileInto options required acc = (.ok p', after) := by
  induction frame generalizing required acc with
  | hole =>
    obtain ⟨p, hp⟩ := h
    obtain ⟨p', hp'⟩ := h'
    exact .inr ⟨p, p', acc, hp required acc, hp' required acc⟩
  | onLeft connective inner right ih =>
    simp only [fill, compileInto]
    rcases ih (required && connective = .and) acc with ⟨e, mid, hl, hl'⟩ | ⟨p, p', mid, hl, hl'⟩
    · rw [hl, hl']
      exact .inl ⟨e, mid, rfl, rfl⟩
    · simp only [hl, hl']
      rcases right.compileInto options (required && connective = .and) mid with ⟨_ | r, after⟩
      · exact .inl ⟨_, after, rfl, rfl⟩
      · exact .inr ⟨_, _, after, rfl, rfl⟩
  | onRight connective left inner ih =>
    simp only [fill, compileInto]
    rcases left.compileInto options (required && connective = .and) acc with ⟨_ | l, mid⟩
    · exact .inl ⟨_, mid, rfl, rfl⟩
    · rcases ih (required && connective = .and) mid with
        ⟨e, after, hr, hr'⟩ | ⟨p, p', after, hr, hr'⟩
      · simp only [hr, hr']
        exact .inl ⟨e, after, rfl, rfl⟩
      · simp only [hr, hr']
        exact .inr ⟨_, _, after, rfl, rfl⟩
  | negation mark inner ih =>
    simp only [fill, compileInto]
    rcases ih false acc with ⟨e, after, hinner, hinner'⟩ | ⟨p, p', after, hinner, hinner'⟩
    · rw [hinner, hinner']
      exact .inl ⟨e, after, rfl, rfl⟩
    · rw [hinner, hinner']
      exact .inr ⟨_, _, after, rfl, rfl⟩
  | group inner ih =>
    simp only [fill, compileInto]
    rcases ih required acc with ⟨e, after, hinner, hinner'⟩ | ⟨p, p', after, hinner, hinner'⟩
    · rw [hinner, hinner']
      exact .inl ⟨e, after, rfl, rfl⟩
    · rw [hinner, hinner']
      exact .inr ⟨_, _, after, rfl, rfl⟩

/-- Both fail with one error, or they compile to the same but for the predicate. -/
def CompileAlike (options : CompileOptions) (q q' : Query) : Prop :=
  (∃ e, q.compile options = .error e ∧ q'.compile options = .error e) ∨
  ∃ c p', q.compile options = .ok c ∧ q'.compile options = .ok { c with predicate := p' }

theorem Frame.compile_fill (frame : Frame) (h : q.OnlyTests options) (h' : q'.OnlyTests options) :
    CompileAlike options (frame.fill q) (frame.fill q') := by
  unfold CompileAlike compile
  rcases frame.compileInto_fill h h' true {} with ⟨e, after, hq, hq'⟩ | ⟨p, p', after, hq, hq'⟩
  · rw [hq, hq']
    exact .inl ⟨e, rfl, rfl⟩
  · rw [hq, hq']
    exact .inr ⟨_, p', rfl, rfl⟩

/-- The query compiles, and its filter lets the item through. -/
def Accepts (q : Query) (options : CompileOptions) (clock : Time.Instant) (i : Item) : Prop :=
  ∃ c, q.compile options = .ok c ∧ c.filter.accepts clock i = .ok true

lemma exists_meaning_of_compile {c : Compiled} (h : q.compile options = .ok c)
    (clock : Time.Instant) (i : Item) :
    ∃ m, q.meaning options clock i = .ok m ∧
      (q.Accepts options clock i ↔ m = none ∨ m = some (some true)) := by
  obtain ⟨acc, hcompiles, hparameters, -⟩ := compiles_of_compile h
  obtain ⟨m, hmeaning, htells⟩ := hcompiles.tells clock i
  have haccepts : c.filter.accepts clock i = .ok (decide (m = none ∨ m = some (some true))) :=
    (htells c.parameters (numbered_of_compile h) (hparameters ▸ List.prefix_rfl)).accepts
  refine ⟨m, hmeaning, ?_⟩
  rw [Accepts, h]
  simp [haccepts]

lemma OnlyTests.accepts_iff (h : q.OnlyTests options) {clock : Time.Instant} {i : Item} {t : Truth}
    (hmeaning : q.meaning options clock i = .ok (some t)) :
    q.Accepts options clock i ↔ t = some true := by
  obtain ⟨p, hp⟩ := h
  have hcompile : q.compile options = .ok ⟨p, .empty, [], [], false⟩ := by
    rw [compile, hp]
  obtain ⟨m, hm, hiff⟩ := exists_meaning_of_compile hcompile clock i
  rw [hmeaning] at hm
  cases hm
  simpa using hiff

/-- Whether a frame filled with a test accepts an item is a function of the truth of the test. -/
theorem Frame.exists_acceptance (frame : Frame) (options : CompileOptions) (clock : Time.Instant)
    (i : Item) :
    ∃ f, Truth.UsesOnce frame.isPositive f ∧ ∀ q t, q.OnlyTests options →
      q.meaning options clock i = .ok (some t) →
        ((frame.fill q).Accepts options clock i ↔ f t = some true) := by
  by_cases hcompiles : ∀ q, q.OnlyTests options → ∃ c, (frame.fill q).compile options = .ok c
  · rcases frame.exists_meaning options clock i with ⟨e, herror⟩ | ⟨f, hf, hmeaning⟩
    · refine ⟨fun _ => some false, .const _ _, fun q t h hq => ?_⟩
      obtain ⟨c, hc⟩ := hcompiles q h
      obtain ⟨m, hm, -⟩ := exists_meaning_of_compile hc clock i
      rw [herror q t hq] at hm
      cases hm
    · refine ⟨f, hf, fun q t h hq => ?_⟩
      obtain ⟨c, hc⟩ := hcompiles q h
      obtain ⟨m, hm, hiff⟩ := exists_meaning_of_compile hc clock i
      rw [hmeaning q t hq] at hm
      cases hm
      simpa using hiff
  · -- one filling fails, and so do all others
    refine ⟨fun _ => some false, .const _ _, fun q t h _ => ?_⟩
    simp only [not_forall, not_exists] at hcompiles
    obtain ⟨q', h', hfails⟩ := hcompiles
    have hnone : ¬(frame.fill q).Accepts options clock i := by
      rintro ⟨c, hc, -⟩
      rcases frame.compile_fill h h' with ⟨e, he, -⟩ | ⟨c, p', -, hc'⟩
      · rw [hc] at he
        cases he
      · exact hfails _ hc'
    simpa using hnone

end Query

end ReadLater
