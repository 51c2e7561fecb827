import ReadLater.Proofs.Compilation

/-!
# Queries for the trash

A compiled query that opens the trash restricts itself to it: the flag is only set by a tag that
every match requires, and the test of that tag is implied by the predicate of the whole query.
-/

namespace ReadLater

/-- The item was deleted, and not more than the days of the trash ago. -/
def Item.Retained (i : Item) (clock : Time.Instant) : Prop :=
  ∃ t, i.deletedAt = some t ∧ t.compare (clock.addDays (-14)) ≠ .lt

namespace TagOperand

variable {t : TagOperand} {c : Contribution}

lemma isProgress_trash (h : t.isProgress = .ok c) : c.trash = false := by
  obtain ⟨test, -, rfl⟩ := isProgress_eq_ok h
  rfl

lemma has_trash (h : t.has = .ok c) : c.trash = false := by
  obtain ⟨test, -, rfl⟩ := has_eq_ok h
  rfl

lemma no_trash (h : t.no = .ok c) : c.trash = false := by
  obtain ⟨test, -, rfl⟩ := no_eq_ok h
  rfl

lemma sort_trash (h : t.sort = .ok c) : c.trash = false := by
  rw [sort_eq h]

lemma anyLabel_trash (bound : Nat) (labels : List String) (test : Predicate)
    (parameters : List Parameter) : (anyLabel bound test parameters labels).trash = false := by
  induction labels generalizing bound test parameters with
  | nil => rfl
  | cons label rest ih => exact ih _ _ _

lemma label_trash {bound : Nat} (h : t.label bound = .ok c) : c.trash = false := by
  obtain ⟨first, rest, -, rfl⟩ := label_eq_ok h
  exact anyLabel_trash _ _ _ _

lemma includes_trash {bound : Nat} (h : t.includes bound = .ok c) : c.trash = false := by
  rw [includes_eq_ok h]
  rfl

lemma recommendedBy_trash (t : TagOperand) (bound : Nat) :
    (t.recommendedBy bound).trash = false := by
  unfold recommendedBy
  split_ifs <;> rfl

lemma date_trash {stem : String} {column : Column} {options : CompileOptions} {bound : Nat}
    (h : t.date stem column options bound = .ok c) : c.trash = false := by
  obtain ⟨start, stop, rfl⟩ := date_eq_ok h
  rfl

lemma number_trash {stem : String} {column : Column} {bound : Nat}
    (h : t.number stem column bound = .ok c) : c.trash = false := by
  obtain ⟨comparison, rest, n, -, rfl⟩ := number_eq_ok h
  rfl

lemma inPlace_of_trash {foldersScoped : Bool} {bound : Nat}
    (h : (t.inPlace foldersScoped bound).trash = true) : t.lowered = "trash" := by
  by_contra hne
  unfold inPlace at h
  rw [if_neg hne] at h
  split_ifs at h <;> cases h

lemma inPlace_of_lowered (h : t.lowered = "trash") (foldersScoped : Bool) (bound : Nat) :
    t.inPlace foldersScoped bound =
      { Contribution.ofTest (.withinDays .deletedAt trashDays) with trash := true } := by
  unfold inPlace
  rw [h]
  rfl

end TagOperand

lemma Keyword.inPlace_of_trash {k : Keyword} {options : CompileOptions} {bound : Nat}
    {t : TagOperand} {c : Contribution} (h : k.contribution options bound t = .ok c)
    (htrash : c.trash = true) : k = .inPlace ∧ t.lowered = "trash" := by
  rcases eq_or_ne k .inPlace with rfl | hne
  · cases h
    exact ⟨rfl, TagOperand.inPlace_of_trash htrash⟩
  · have hclosed : c.trash = false := by
      cases k with
      | inPlace => exact absurd rfl hne
      | isProgress => exact TagOperand.isProgress_trash h
      | has => exact TagOperand.has_trash h
      | no => exact TagOperand.no_trash h
      | sort =>
        simp only [contribution] at h
        exact TagOperand.sort_trash h
      | label => exact TagOperand.label_trash h
      | includes => exact TagOperand.includes_trash h
      | recommendedBy => cases h; exact t.recommendedBy_trash bound
      | saved | read | updated | published =>
        simp only [contribution] at h
        exact TagOperand.date_trash h
      | readPosition | wordsCount =>
        simp only [contribution] at h
        exact TagOperand.number_trash h
      | itemType | subscription | rss | language | author | title | description | note | site
      | use | mode => cases h; rfl
    rw [htrash] at hclosed
    cases hclosed

namespace Query.Tag

variable {t : Query.Tag} {options : CompileOptions} {bound : Nat} {c : Contribution}

/-- The tag is `in:trash`, in any letter case and with any blanks around the operand. -/
def AsksForTrash (t : Query.Tag) : Prop :=
  ∃ name quoted, t.field = .named name quoted ∧ Text.lower name = "in" ∧
    Text.lower (Text.trim t.operand.text) = "trash"

lemma asksForTrash_of_trash (h : t.contribution options bound = .ok c) (htrash : c.trash = true) :
    t.AsksForTrash := by
  unfold contribution at h
  dsimp only at h
  split at h
  · split at h
    · cases h
      cases htrash
    · cases h
      unfold TagOperand.freeText at htrash
      split_ifs at htrash <;> cases htrash
  · rename_i name quoted hfield
    split at h
    · cases h
    · rename_i k hk
      split at h
      · cases h
        cases htrash
      · obtain ⟨rfl, hlowered⟩ := Keyword.inPlace_of_trash h htrash
        exact ⟨name, quoted, hfield, Keyword.ofName?_eq_some_iff.mp hk, hlowered⟩

lemma AsksForTrash.contribution (h : t.AsksForTrash) (options : CompileOptions) (bound : Nat) :
    t.contribution options bound = .ok
      { Contribution.ofTest (.withinDays .deletedAt TagOperand.trashDays) with trash := true } := by
  obtain ⟨name, quoted, hfield, hname, hlowered⟩ := h
  have hnonblank : Text.trim t.operand.text ≠ "" := by
    intro hblank
    rw [hblank] at hlowered
    exact absurd hlowered (by decide)
  rw [contribution_of_keyword (k := .inPlace) hfield hname hnonblank]
  exact congrArg Except.ok (TagOperand.inPlace_of_lowered
    (t := ⟨name, Text.trim t.operand.text, t.operand.isQuoted⟩) hlowered _ bound)

lemma trash_iff (h : t.contribution options bound = .ok c) : c.trash = true ↔ t.AsksForTrash := by
  constructor
  · exact asksForTrash_of_trash h
  · intro hasks
    rw [hasks.contribution] at h
    cases h
    rfl

lemma predicate_of_trash (h : t.contribution options bound = .ok c) (htrash : c.trash = true) :
    c.predicate = some (.test (.withinDays .deletedAt TagOperand.trashDays)) := by
  rw [((trash_iff h).mp htrash).contribution] at h
  cases h
  rfl

end Query.Tag

/-- The predicate is only true of items in the trash. -/
def Predicate.Retains (p : Predicate) : Prop :=
  ∀ ps clock i, p.truth ps clock i = .ok (some true) → i.Retained clock

namespace Predicate

lemma retains_withinDays : (test (.withinDays .deletedAt TagOperand.trashDays)).Retains := by
  intro ps clock i h
  have hcutoff : Condition.cutoff clock TagOperand.trashDays = clock.addDays (-14) := rfl
  simp only [truth, Condition.truth, hcutoff, Item.value, Except.ok.injEq, Option.some.injEq] at h
  cases hdeleted : i.deletedAt with
  | none => simp [hdeleted, Value.ofTime?, Value.compare?] at h
  | some t =>
    refine ⟨t, hdeleted, ?_⟩
    simpa [hdeleted, Value.ofTime?, Value.compare?] using h

lemma truth_of_and {l r : Predicate} {ps : Parameters} {clock : Time.Instant} {i : Item}
    (h : (and l r).truth ps clock i = .ok (some true)) :
    l.truth ps clock i = .ok (some true) ∧ r.truth ps clock i = .ok (some true) := by
  rw [truth] at h
  cases hl : l.truth ps clock i with
  | error e => simp [hl, bind, Except.bind] at h
  | ok a =>
    cases hr : r.truth ps clock i with
    | error e => simp [hl, hr, bind, Except.bind] at h
    | ok b =>
      simp only [hl, hr, bind, Except.bind, pure, Except.pure, Except.ok.injEq] at h
      obtain ⟨rfl, rfl⟩ := Truth.eq_true_of_and h
      exact ⟨rfl, rfl⟩

lemma Retains.group {p : Predicate} (h : p.Retains) : (group p).Retains :=
  fun ps clock i => h ps clock i

end Predicate

lemma Query.Connective.join_retains {l r : Option Predicate}
    (h : (∃ p, l = some p ∧ p.Retains) ∨ ∃ p, r = some p ∧ p.Retains) :
    ∃ p, Query.Connective.and.join l r = some p ∧ p.Retains := by
  rcases h with ⟨p, rfl, hp⟩ | ⟨p, rfl, hp⟩
  · cases r with
    | none => exact ⟨p, rfl, hp⟩
    | some q =>
      exact ⟨.and p q, rfl, fun ps clock i h => hp ps clock i (Predicate.truth_of_and h).1⟩
  · cases l with
    | none => exact ⟨p, rfl, hp⟩
    | some q =>
      exact ⟨.and q p, rfl, fun ps clock i h => hp ps clock i (Predicate.truth_of_and h).2⟩

/-- If a tree opens the trash, it is required and is only true of items in the trash. -/
theorem Compiles.retains {options : CompileOptions} {required : Bool} {q : Query}
    {acc acc' : Accumulator} {p : Option Predicate} (h : Compiles options required q acc p acc')
    (htrash : acc'.trash = true) :
    acc.trash = true ∨ required = true ∧ ∃ r, p = some r ∧ r.Retains := by
  induction h with
  | empty => exact .inl htrash
  | tag hc =>
    rw [Accumulator.add_trash, Bool.or_eq_true, Bool.and_eq_true] at htrash
    refine htrash.imp_right fun ⟨hrequired, hopens⟩ => ⟨hrequired, ?_⟩
    exact ⟨_, Query.Tag.predicate_of_trash hc hopens, Predicate.retains_withinDays⟩
  | @logical required connective _ _ _ _ _ _ _ _ _ ihl ihr =>
    have hconjunction : (required && decide (connective = .and)) = true →
        required = true ∧ connective = .and := by simp
    rcases ihr htrash with hmid | ⟨hrequired, hr⟩
    · rcases ihl hmid with hacc | ⟨hrequired, hl⟩
      · exact .inl hacc
      · obtain ⟨hroot, rfl⟩ := hconjunction hrequired
        exact .inr ⟨hroot, Query.Connective.join_retains (.inl hl)⟩
    · obtain ⟨hroot, rfl⟩ := hconjunction hrequired
      exact .inr ⟨hroot, Query.Connective.join_retains (.inr hr)⟩
  | negation _ ih =>
    -- below a negation no tag is required, so the flag was set before
    rcases ih htrash with hacc | ⟨hrequired, -⟩
    · exact .inl hacc
    · cases hrequired
  | group _ ih =>
    rcases ih htrash with hacc | ⟨hrequired, p, rfl, hp⟩
    · exact .inl hacc
    · exact .inr ⟨hrequired, _, rfl, hp.group⟩

/-- A query that opens the trash has a predicate, which is true only of what is in the trash. -/
lemma Query.exists_retains_of_trash {options : CompileOptions} {q : Query} {c : Compiled}
    (h : q.compile options = .ok c) (htrash : c.trash = true) :
    ∃ p, c.predicate = some p ∧ p.Retains := by
  obtain ⟨acc, hcompiles, -, -, -, hflag⟩ := compiles_of_compile h
  rcases hcompiles.retains (hflag ▸ htrash) with hempty | ⟨-, hretains⟩
  · cases hempty
  · exact hretains

/-- A query that opens the trash shows nothing but what is in it. -/
theorem Query.retained_of_trash {options : CompileOptions} {q : Query} {c : Compiled}
    (h : q.compile options = .ok c) (htrash : c.trash = true) {ps : Parameters}
    {clock : Time.Instant} {i : Item}
    (haccepts : Filter.accepts ⟨c.predicate, ps⟩ clock i = .ok true) : i.Retained clock := by
  obtain ⟨p, hp, hretains⟩ := exists_retains_of_trash h htrash
  rw [hp] at haccepts
  simp only [Filter.accepts] at haccepts
  cases htruth : p.truth ps clock i with
  | error e => simp [htruth, bind, Except.bind] at haccepts
  | ok t =>
    refine hretains ps clock i ?_
    simpa [htruth, bind, Except.bind, pure, Except.pure] using haccepts

end ReadLater
