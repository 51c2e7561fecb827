import ReadLater.Proofs.SharedParameters
import ReadLater.Proofs.Trash

/-!
# Tags that every match requires

A compiled query opens the trash just if a tag asks for it that stands below conjunctions and groups
only. The flag is kept while a tree is compiled, whether the tree compiles or fails.
-/

namespace ReadLater

/-- The tag is a leaf of the query with nothing but conjunctions and groups above it. -/
inductive Query.Tag.RequiredBy (t : Query.Tag) : Query → Prop
  | tag : t.RequiredBy (.tag t)
  | left {l r} : t.RequiredBy l → t.RequiredBy (.logical .and l r)
  | right {l r} : t.RequiredBy r → t.RequiredBy (.logical .and l r)
  | group {q} : t.RequiredBy q → t.RequiredBy (.group q)

/-- Some required tag of the query asks for the trash. -/
def Query.RequiresTrash (q : Query) : Prop :=
  ∃ t : Query.Tag, t.RequiredBy q ∧ t.AsksForTrash

namespace Query

variable {t : Tag} {l r inner operand : Query}

lemma requiresTrash_tag : (Query.tag t).RequiresTrash ↔ t.AsksForTrash := by
  constructor
  · rintro ⟨_, hrequired, hasks⟩
    cases hrequired
    exact hasks
  · intro hasks
    exact ⟨t, .tag, hasks⟩

lemma requiresTrash_and :
    (logical .and l r).RequiresTrash ↔ l.RequiresTrash ∨ r.RequiresTrash := by
  constructor
  · rintro ⟨t, hrequired, hasks⟩
    cases hrequired with
    | left hl => exact .inl ⟨t, hl, hasks⟩
    | right hr => exact .inr ⟨t, hr, hasks⟩
  · rintro (⟨t, hl, hasks⟩ | ⟨t, hr, hasks⟩)
    · exact ⟨t, .left hl, hasks⟩
    · exact ⟨t, .right hr, hasks⟩

lemma requiresTrash_group : (group inner).RequiresTrash ↔ inner.RequiresTrash := by
  constructor
  · rintro ⟨t, hrequired, hasks⟩
    cases hrequired with
    | group hinner => exact ⟨t, hinner, hasks⟩
  · rintro ⟨t, hinner, hasks⟩
    exact ⟨t, .group hinner, hasks⟩

lemma not_requiresTrash_empty : ¬Query.empty.RequiresTrash := by
  rintro ⟨t, hrequired, -⟩
  cases hrequired

lemma not_requiresTrash_or : ¬(logical .or l r).RequiresTrash := by
  rintro ⟨t, hrequired, -⟩
  cases hrequired

lemma not_requiresTrash_negation {mark : NegationMark} :
    ¬(negation mark operand).RequiresTrash := by
  rintro ⟨t, hrequired, -⟩
  cases hrequired

end Query

/-- A tree opens the trash if it is required itself and requires it in turn. -/
theorem Compiles.trash_iff {options : CompileOptions} {required : Bool} {q : Query}
    {acc acc' : Accumulator} {p : Option Predicate} (h : Compiles options required q acc p acc') :
    acc'.trash = true ↔ acc.trash = true ∨ required = true ∧ q.RequiresTrash := by
  induction h with
  | empty => simp [Query.not_requiresTrash_empty]
  | tag hc =>
    rw [Accumulator.add_trash, Bool.or_eq_true, Bool.and_eq_true, Query.Tag.trash_iff hc,
      Query.requiresTrash_tag]
  | @logical required connective _ _ _ _ _ _ _ _ _ ihl ihr =>
    cases connective with
    | and =>
      have hrequired : (required && decide (Query.Connective.and = .and)) = required := by simp
      rw [hrequired] at ihl ihr
      rw [ihr, ihl, Query.requiresTrash_and, and_or_left, or_assoc]
    | or =>
      have hfree : (required && decide (Query.Connective.or = .and)) = false := by simp
      rw [hfree] at ihl ihr
      simpa [Query.not_requiresTrash_or, ihl] using ihr
  | negation _ ih => simpa [Query.not_requiresTrash_negation] using ih
  | group _ ih => rw [ih, Query.requiresTrash_group]

theorem Query.compileInto_trash (options : CompileOptions) (required : Bool) (q : Query)
    {acc : Accumulator} (h : acc.trash = true) :
    (q.compileInto options required acc).2.trash = true := by
  induction q generalizing required acc with
  | empty => exact h
  | tag t =>
    simp only [compileInto]
    split
    · exact h
    · simp [h]
  | logical connective left right ihl ihr =>
    simp only [compileInto]
    have hl := ihl (required && connective = .and) h
    split
    · rename_i e mid hleft
      rwa [hleft] at hl
    · rename_i l mid hleft
      rw [hleft] at hl
      have hr := ihr (required && connective = .and) hl
      split
      · rename_i e after hright
        rwa [hright] at hr
      · rename_i r after hright
        rwa [hright] at hr
  | negation mark operand ih =>
    simp only [compileInto]
    have hoperand := ih false h
    split <;> rename_i hinto <;> rwa [hinto] at hoperand
  | group inner ih =>
    simp only [compileInto]
    have hinner := ih required h
    split <;> rename_i hinto <;> rwa [hinto] at hinner

lemma compileEach_trash (trees : List (CompileOptions × Query)) {acc : Accumulator}
    (h : acc.trash = true) : (compileEach trees acc).2.trash = true := by
  induction trees generalizing acc with
  | nil => exact h
  | cons tree trees ih =>
    obtain ⟨options, q⟩ := tree
    exact ih (q.compileInto_trash options true h)

/-- A query opens the trash just if it requires the trash, and then its predicate is true only of
items that were deleted not more than the days of the trash ago. For trees that share an accumulator
the trash stays open once it is open, whatever trees follow. -/
theorem Query.trash_iff_requiresTrash :
    (∀ (options : CompileOptions) (q : Query) (c : Compiled), q.compile options = .ok c →
      (c.trash = true ↔ q.RequiresTrash) ∧
      (c.trash = true → ∃ p, c.predicate = some p ∧ ∀ (clock : Time.Instant) (i : Item),
        p.truth c.parameters clock i = .ok (some true) →
          ∃ t, i.deletedAt = some t ∧ t.compare (clock.addDays (-14)) ≠ .lt)) ∧
    ∀ (acc : Accumulator) (trees : List (CompileOptions × Query)), acc.trash = true →
      (compileEach trees acc).2.trash = true := by
  refine ⟨fun options q c h => ⟨?_, fun htrash => ?_⟩, fun acc trees => compileEach_trash trees⟩
  · obtain ⟨acc, hcompiles, -, -, -, hflag⟩ := compiles_of_compile h
    rw [hflag, hcompiles.trash_iff]
    simp
  · obtain ⟨p, hp, hretains⟩ := exists_retains_of_trash h htrash
    exact ⟨p, hp, hretains c.parameters⟩

/-- `label:x (use:folders IN:Trash)` and an item in the trash for its last moment, and
`label:x OR in:trash`. -/
theorem Query.trash_iff_requiresTrash_in_group :
    let options : CompileOptions := { now := ⟨.epoch, 0⟩ }
    let tagged (field value : String) : Query :=
      .tag ⟨.named field false, .literal (.string value) true⟩
    let q : Query := .logical .and (tagged "label" "x")
      (.group (.logical .and (tagged "use" "folders") (tagged "IN" " Trash")))
    let loose : Query := .logical .or (tagged "label" "x") (tagged "in" "trash")
    let clock : Time.Instant := Time.Instant.epoch.addDays 14
    let i := { Item.saved "a" "u1" "Notes" .epoch with
      labelNames := ["x"], deletedAt := some .epoch }
    (∃ c p, q.compile options = .ok c ∧ c.trash = true ∧ q.RequiresTrash ∧ c.predicate = some p ∧
      p.truth c.parameters clock i = .ok (some true) ∧
      ∃ t, i.deletedAt = some t ∧ t.compare (clock.addDays (-14)) ≠ .lt) ∧
    (∃ c, loose.compile options = .ok c ∧ c.trash = false ∧ ¬loose.RequiresTrash) ∧
    (compileEach [(options, loose), (options, tagged "is" "bogus")] { trash := true }).2.trash =
      true := by
  intro options tagged q loose clock i
  have hopened : (q.compile options).toOption.map (fun c =>
      (c.trash, c.predicate.map fun p => p.truth c.parameters clock i)) =
      some (true, some (.ok (some true))) := by decide +kernel
  have hclosed : (loose.compile options).toOption.map (·.trash) = some false := by decide +kernel
  obtain ⟨c, hc, hanswer⟩ := Except.exists_of_toOption hopened
  obtain ⟨htrash, htruth⟩ := Prod.mk.inj hanswer
  obtain ⟨d, hd, hkept⟩ := Except.exists_of_toOption hclosed
  obtain ⟨hcompiled, hshared⟩ := Query.trash_iff_requiresTrash
  obtain ⟨hiff, hretained⟩ := hcompiled options q c hc
  obtain ⟨p, hp, hwindow⟩ := hretained htrash
  rw [hp] at htruth
  have htrue := Option.some.inj htruth
  refine ⟨⟨c, p, hc, htrash, hiff.mp htrash, hp, htrue, hwindow clock i htrue⟩,
    ⟨d, hd, hkept, fun hrequired => ?_⟩, hshared _ _ rfl⟩
  rw [(hcompiled options loose d hd).1.mpr hrequired] at hkept
  cases hkept

end ReadLater
