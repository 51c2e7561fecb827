import ReadLater.Filter.Compile
import ReadLater.Proofs.Contribution
import ReadLater.Proofs.FirstErrors

/-!
# Rejected queries

A query is rejected for its first bad tag. Whether a tag is bad depends on the tag alone: what was
bound before it only raises the numbers of its own parameters, and nothing that stands above it or
beside it can take its error back.
-/

namespace ReadLater

namespace Query

variable {options : CompileOptions}

/-- What is wrong with a tag, if anything is. -/
def Tag.fault? (options : CompileOptions) (t : Tag) : Option QueryError :=
  (t.contribution options 0).error?

lemma Tag.error?_contribution (t : Tag) (bound : Nat) :
    (t.contribution options bound).error? = t.fault? options := by
  rw [fault?, ← Nat.add_zero bound, contribution_add, Except.error?_map]

/-- Of the tags of a tree the first bad one decides, whatever has been contributed before. -/
lemma error?_compileInto (q : Query) (required : Bool) (acc : Accumulator) :
    (q.compileInto options required acc).1.error? = q.tags.findSome? (Tag.fault? options) := by
  induction q generalizing required acc with
  | empty => rfl
  | tag t =>
    have htag : (t.contribution options acc.parameters.entries.length).error? = t.fault? options :=
      t.error?_contribution _
    simp only [compileInto, tags, List.findSome?_singleton, ← htag]
    cases t.contribution options acc.parameters.entries.length <;> rfl
  | logical connective left right ihl ihr =>
    have hleft := ihl (required && connective = .and) acc
    simp only [compileInto, tags, List.findSome?_append, ← hleft]
    -- the right side is compiled into whatever accumulator the left one leaves
    rcases left.compileInto options (required && connective = .and) acc with ⟨e | l, mid⟩
    · rfl
    · simp only [Except.error?, Option.none_or, ← ihr (required && connective = .and) mid]
      rcases right.compileInto options (required && connective = .and) mid with ⟨e | r, after⟩ <;>
        rfl
  | negation mark operand ih =>
    rw [tags, ← ih false acc, compileInto]
    rcases operand.compileInto options false acc with ⟨e | p, after⟩ <;> rfl
  | group inner ih =>
    rw [tags, ← ih required acc, compileInto]
    rcases inner.compileInto options required acc with ⟨e | p, after⟩ <;> rfl

lemma compile_eq_error_iff (q : Query) {e : QueryError} :
    q.compile options = .error e ↔ q.tags.findSome? (Tag.fault? options) = some e := by
  rw [← q.error?_compileInto true {}, ← Except.error?_eq_some_iff, compile]
  rcases q.compileInto options true {} with ⟨e | p, acc⟩ <;> rfl

lemma Tag.compile_eq_error_iff {t : Tag} {e : QueryError} :
    (Query.tag t).compile options = .error e ↔ t.fault? options = some e := by
  rw [Query.compile_eq_error_iff, tags, List.findSome?_singleton]

lemma Tag.exists_compile_iff {t : Tag} :
    (∃ c, (Query.tag t).compile options = .ok c) ↔ t.fault? options = none := by
  rw [← Except.error?_eq_none_iff, Option.eq_none_iff_forall_ne_some,
    Option.eq_none_iff_forall_ne_some]
  simp only [ne_eq, Except.error?_eq_some_iff, Tag.compile_eq_error_iff]

lemma Tag.fault?_of_unknown {name : String} (h : Keyword.ofName? name = none) (quoted : Bool)
    (operand : Operand) :
    Tag.fault? options ⟨.named name quoted, operand⟩ = some (.unknownField name) := by
  simp only [fault?, contribution, h, Except.error?]

lemma Tag.fault?_of_blank {name : String} {k : Keyword} (h : Keyword.ofName? name = some k)
    (quoted : Bool) {operand : Operand} (hblank : Text.trim operand.text = "") :
    Tag.fault? options ⟨.named name quoted, operand⟩ = none := by
  simp only [fault?, contribution, h, if_pos hblank, Except.error?]

/-- A query fails to compile just when one of its tags fails to compile as a query of its own, and
it fails with the error of the first such tag in reading order. Neither the connectives, negations
and groups above the tag nor what the accumulator holds make a difference. A tag with an unknown
field fails even if its operand is blank, and one with a known field and a blank operand does not
fail. -/
theorem compile_fails_with_first_bad_tag (options : CompileOptions) :
    (∀ q : Query, (∃ e, q.compile options = .error e) ↔
      ∃ t ∈ q.tags, ∃ e, (Query.tag t).compile options = .error e) ∧
    (∀ (q : Query) (e : QueryError), q.compile options = .error e ↔
      ∃ before t after, q.tags = before ++ t :: after ∧
        (∀ s ∈ before, ∃ c, (Query.tag s).compile options = .ok c) ∧
        (Query.tag t).compile options = .error e) ∧
    (∀ (q : Query) (e : QueryError) (required : Bool) (acc : Accumulator),
      (q.compileInto options required acc).1 = .error e ↔ q.compile options = .error e) ∧
    (∀ name quoted operand, Keyword.ofName? name = none →
      (Query.tag ⟨.named name quoted, operand⟩).compile options = .error (.unknownField name)) ∧
    (∀ name quoted operand k, Keyword.ofName? name = some k → Text.trim operand.text = "" →
      ∃ c, (Query.tag ⟨.named name quoted, operand⟩).compile options = .ok c) := by
  refine ⟨fun q => ?_, fun q e => ?_, fun q e required acc => ?_, fun name quoted operand h => ?_,
    fun name quoted operand k h hblank => ?_⟩
  · simp only [q.compile_eq_error_iff, Tag.compile_eq_error_iff, ← Option.isSome_iff_exists,
      List.findSome?_isSome_iff]
  · simp only [q.compile_eq_error_iff, Tag.compile_eq_error_iff, Tag.exists_compile_iff,
      List.findSome?_eq_some_iff]
    exact exists₃_congr fun _ _ _ => and_congr_right fun _ => and_comm
  · rw [← Except.error?_eq_some_iff, error?_compileInto, compile_eq_error_iff]
  · exact Tag.compile_eq_error_iff.mpr (Tag.fault?_of_unknown h quoted operand)
  · exact Tag.exists_compile_iff.mpr (Tag.fault?_of_blank h quoted hblank)

/-- The first bad tag has a blank operand and stands between good tags and another bad one. -/
theorem compile_fails_with_first_bad_tag_blank :
    let options : CompileOptions := { now := ⟨.epoch, 0⟩ }
    let short : Tag := ⟨.named "wordscount" false, .literal (.string ">10") false⟩
    let blank : Tag := ⟨.named "Label" false, .literal (.string "  ") true⟩
    let unknown : Tag := ⟨.named "colour" false, .literal (.string "  ") true⟩
    let winged : Tag := ⟨.named "has" false, .literal (.string "wings") false⟩
    let q : Query := .logical .or (.tag short) (.negation .word (.group
      (.logical .and (.tag blank) (.logical .and (.tag unknown) (.tag winged)))))
    Keyword.ofName? "colour" = none ∧ Keyword.ofName? "Label" = some .label ∧
    Text.trim blank.operand.text = "" ∧
    q.compile options = .error (.unknownField "colour") ∧
    (∃ t ∈ q.tags, ∃ e, (Query.tag t).compile options = .error e) ∧
    (q.compileInto options false (({} : Accumulator).addRank "implicit_0")).1 =
      .error (.unknownField "colour") ∧
    (Query.tag winged).compile options = .error (.invalidKeyword "has" "wings") := by
  intro options short blank unknown winged q
  have hcolour : Keyword.ofName? "colour" = none := by decide +kernel
  have hlabel : Keyword.ofName? "Label" = some .label := by decide +kernel
  have hblank : Text.trim blank.operand.text = "" := by decide +kernel
  have hshort : ∃ c, (Query.tag short).compile options = .ok c :=
    Tag.exists_compile_iff.mpr (by decide +kernel)
  have hwinged : (Query.tag winged).compile options = .error (.invalidKeyword "has" "wings") := by
    decide +kernel
  obtain ⟨hsome, hfirst, hanywhere, hunknown, hknown⟩ := compile_fails_with_first_bad_tag options
  have hq : q.compile options = .error (.unknownField "colour") := by
    refine (hfirst q _).mpr ⟨[short, blank], unknown, [winged], rfl, ?_, hunknown _ _ _ hcolour⟩
    rintro s (_ | ⟨_, _ | ⟨_, ⟨⟩⟩⟩)
    · exact hshort
    · exact hknown _ _ _ _ hlabel hblank
  exact ⟨hcolour, hlabel, hblank, hq, (hsome q).mp ⟨_, hq⟩, (hanywhere q _ _ _).mpr hq, hwinged⟩

end Query

end ReadLater
