import ReadLater.Proofs.Baseline
import ReadLater.Proofs.SqlAtoms

/-!
# Reading predicates back

The text of a predicate reads as the predicate, whatever stands around each part of it. Groups leave
no trace, as parentheses do not.
-/

namespace ReadLater

/-- The predicate without its groups. -/
def Predicate.ungrouped : Predicate → Predicate
  | .test c => .test c
  | .and left right => .and left.ungrouped right.ungrouped
  | .or left right => .or left.ungrouped right.ungrouped
  | .not inner => .not inner.ungrouped
  | .group inner => inner.ungrouped

namespace Sql

/-- The predicate that a text is. -/
def read (text : String) : Option Predicate := do
  let ts ← tokens? text
  let f ← formula? ts
  f.predicate?

/-- A condition is one atom, or a pair of them. -/
def conditionFormula : Condition → Formula
  | .isEmpty c => .or (.atom (nullTokens c)) (.atom (emptyTokens c))
  | .withinDays c days => .and (.atom (setTokens c)) (.atom (sinceTokens c days))
  | c => .atom (conditionTokens c)

def formula : Predicate → Formula
  | .test c => conditionFormula c
  | .and left right => .and (formula left) (formula right)
  | .or left right => .or (formula left) (formula right)
  | .not inner => .not (formula inner)
  | .group inner => formula inner

lemma TokenKind.ofToken_of_head {t : String} {c : Char} (ht : t.toList.head? = some c)
    (hc : c ∉ ['(', ')', 'A', 'O', 'N', 'B']) : ofToken t = .other := by
  have hne : ∀ s : String, s.toList.head? ≠ some c → t ≠ s := by
    rintro s hs rfl
    exact hs ht
  simp only [List.mem_cons, List.not_mem_nil, or_false, not_or] at hc
  obtain ⟨hopening, hclosing, ha, ho, hn, hb⟩ := hc
  rw [ofToken, if_neg (hne _ (by simpa using Ne.symm hopening)),
    if_neg (hne _ (by simpa using Ne.symm hclosing)), if_neg (hne _ (by simpa using Ne.symm ha)),
    if_neg (hne _ (by simpa using Ne.symm ho)), if_neg (hne _ (by simpa using Ne.symm hn)),
    if_neg (hne _ (by simpa using Ne.symm hb))]

lemma ofToken_column (c : Column) : TokenKind.ofToken (column c) = .other :=
  TokenKind.ofToken_of_head (c := 'l') (by simp [column, table]) (by decide)

lemma ofToken_textIndex (i : TextIndex) : TokenKind.ofToken (textIndex i) = .other :=
  TokenKind.ofToken_of_head (c := 'l') (by cases i <;> simp [textIndex, column, table]) (by decide)

lemma ofToken_parameter (name : String) : TokenKind.ofToken (parameter name) = .other :=
  TokenKind.ofToken_of_head (c := ':') (by simp [parameter]) (by decide)

lemma ofToken_integer (n : Int64) : TokenKind.ofToken (integer n) = .other := by
  obtain ⟨d, ds, hcons, hdigit⟩ := Text.exists_decimal_cons n.toInt.natAbs
  have hchars : (integer n).toList = Text.decimalInt n.toInt := String.toList_ofList
  rw [Text.decimalInt, hcons] at hchars
  split_ifs at hchars
  · exact TokenKind.ofToken_of_head (congrArg List.head? hchars) (by decide)
  · refine TokenKind.ofToken_of_head (congrArg List.head? hchars) fun hmem => ?_
    simp only [List.mem_cons, List.not_mem_nil, or_false] at hmem
    rcases hmem with rfl | rfl | rfl | rfl | rfl | rfl <;> exact absurd hdigit (by decide)

lemma ofToken_comparand (c : Comparand) : TokenKind.ofToken (comparand c) = .other := by
  cases c with
  | parameter name => exact ofToken_parameter name
  | constant n => exact ofToken_integer n

lemma ofToken_comparison (o : Comparison) : TokenKind.ofToken (comparison o) = .other := by
  cases o <;> decide

lemma ofToken_interval (days : Int64) : TokenKind.ofToken (interval days) = .other :=
  TokenKind.ofToken_of_head (c := '\'') (by simp [interval]) (by decide)

lemma goOn_other (state : Nat × Bool) : Reading.goOn state .other = some state := by
  obtain ⟨_ | depth, _ | _⟩ := state <;> rfl

lemma goOn_others {ts : List String} (h : ∀ t ∈ ts, TokenKind.ofToken t = .other)
    (state : Nat × Bool) : (ts.map TokenKind.ofToken).foldlM Reading.goOn state = some state := by
  induction ts with
  | nil => rfl
  | cons t ts ih =>
    obtain ⟨ht, hts⟩ := List.forall_mem_cons.mp h
    rw [List.map_cons, List.foldlM_cons, ht, goOn_other]
    exact ih hts

lemma ofToken_of_mem_intersperse (cs : List Column) :
    ∀ t ∈ (cs.map column).intersperse ",", TokenKind.ofToken t = .other := by
  induction cs with
  | nil => simp
  | cons c cs ih =>
    cases cs with
    | nil => simp [ofToken_column]
    | cons d cs =>
      have hcomma : TokenKind.ofToken "," = .other := by decide
      simp only [List.map_cons, List.intersperse_cons_cons] at ih ⊢
      simpa [ofToken_column, hcomma] using ih

lemma goOn_arrayTokens (cs : List Column) (state : Nat × Bool) :
    ((arrayTokens cs).map TokenKind.ofToken).foldlM Reading.goOn state = some state := by
  obtain ⟨c, rfl⟩ | ⟨-, htokens⟩ := arrays_cases cs
  · exact goOn_others (by simp [arrayTokens, ofToken_column]) state
  · obtain ⟨depth, between⟩ := state
    have hopen : (["array_cat", "("].map TokenKind.ofToken).foldlM Reading.goOn (depth, between) =
        some (depth + 1, between) := by
      cases depth <;> cases between <;> rfl
    rw [htokens, List.map_append, List.map_append, List.foldlM_append, List.foldlM_append, hopen]
    change (((cs.map column).intersperse ",").map TokenKind.ofToken).foldlM Reading.goOn _ >>= _ = _
    rw [goOn_others (ofToken_of_mem_intersperse cs)]
    rfl

lemma balanced_arrayTokens {before after : List String} (h : Balanced (before ++ after))
    (cs : List Column) : Balanced (before ++ (arrayTokens cs ++ after)) := by
  unfold Balanced at h ⊢
  rw [← h]
  simp only [List.map_append, List.foldlM_append, goOn_arrayTokens, Option.bind_some, bind]

lemma reads_null (c : Column) : Reads (nullTokens c) (.atom (nullTokens c)) 4 :=
  .atom (ofToken_column c) (by rfl)

lemma reads_set (c : Column) : Reads (setTokens c) (.atom (setTokens c)) 4 :=
  .atom (ofToken_column c) (by rfl)

lemma reads_empty (c : Column) : Reads (emptyTokens c) (.atom (emptyTokens c)) 4 := by
  unfold emptyTokens
  split_ifs
  · refine .atom (by rfl) ?_
    simp only [Balanced, List.map_cons, ofToken_column]
    rfl
  · exact .atom (ofToken_column c) (by rfl)

lemma reads_since (c : Column) (days : Int64) :
    Reads (sinceTokens c days) (.atom (sinceTokens c days)) 4 := by
  refine .atom (ofToken_column c) ?_
  simp only [Balanced, List.map_cons, ofToken_interval]
  rfl

lemma reads_condition (c : Condition) : Reads (conditionTokens c) (conditionFormula c) 4 := by
  cases c with
  | textMatch index query =>
    refine .atom (ofToken_textIndex index) ?_
    simp only [Balanced, List.map_cons, ofToken_parameter]
    rfl
  | iLike c name | equals c name | notEquals c name | inList c name =>
    refine .atom (ofToken_column c) ?_
    simp only [Balanced, List.map_cons, ofToken_parameter]
    rfl
  | equalsIgnoringCase c name =>
    refine .atom (by rfl) ?_
    simp only [Balanced, List.map_cons, ofToken_column, ofToken_parameter]
    rfl
  | compare c op value =>
    refine .atom (ofToken_column c) ?_
    simp only [Balanced, List.map_cons, ofToken_comparison, ofToken_comparand]
    rfl
  | between c low high =>
    refine .atom (ofToken_column c) ?_
    simp only [Balanced, List.map_cons, ofToken_comparand]
    rfl
  | anyEquals cs name =>
    have houter : Balanced (["(", parameter name, ")", "=", "ANY", "(", "LOWER", "("] ++
        ["::text", ")", "::text", "[", "]", ")"]) := by
      simp only [Balanced, List.cons_append, List.map_cons, ofToken_parameter]
      rfl
    exact .atom (by rfl) (balanced_arrayTokens houter cs)
  | anyLike cs name =>
    have houter : Balanced (["(", "SELECT", "1", "FROM", "unnest", "("] ++
        [")", "AS", "element", "WHERE", "element", "ILIKE", parameter name, ")"]) := by
      simp only [Balanced, List.cons_append, List.nil_append, List.map_cons, ofToken_parameter]
      rfl
    exact .atom (by rfl) (balanced_arrayTokens houter cs)
  | isNull c => exact reads_null c
  | isNotNull c => exact reads_set c
  | notEmpty c =>
    simp only [conditionTokens, conditionFormula]
    split_ifs
    · refine .atom (by rfl) ?_
      simp only [Balanced, List.map_cons, ofToken_column]
      rfl
    · exact .atom (ofToken_column c) (by rfl)
  | isEmpty c =>
    have hor := ((reads_null c).mono (by decide)).or ((reads_empty c).mono (by decide))
    exact hor.group
  | withinDays c days =>
    have hand := ((reads_set c).mono (by decide)).and ((reads_since c days).mono (by decide))
    exact (hand.mono (by decide)).group

/-- How tight the text of a predicate binds. -/
def level : Predicate → Nat
  | .or .. => 1
  | .and .. => 2
  | .not _ => 3
  | .test _ | .group _ => 4

lemma one_le_level (p : Predicate) : 1 ≤ level p := by
  cases p <;> simp [level]

lemma reads_operand {p : Predicate} (h : Reads (tokens p) (formula p) (level p)) :
    Reads (operandTokens p (tokens p)) (formula p) 3 := by
  cases p with
  | and | or => exact (h.mono (one_le_level _)).group.mono (by decide)
  | test | not | group => exact h.mono (by simp [level])

theorem reads_predicate (p : Predicate) : Reads (tokens p) (formula p) (level p) := by
  induction p with
  | test c => exact reads_condition c
  | and left right ihl ihr => exact ((reads_operand ihl).mono (by decide)).and (reads_operand ihr)
  | or left right ihl ihr =>
    exact ((reads_operand ihl).mono (by decide)).or ((reads_operand ihr).mono (by decide))
  | not inner ih => exact (ih.mono (one_le_level inner)).group.not
  | group inner ih => exact (ih.mono (one_le_level inner)).group

/-! ## Atoms and pairs of them -/

lemma conditionFormula_of_single {c : Condition} (h : isPair c = false) :
    conditionFormula c = .atom (conditionTokens c) := by
  cases c <;> first | rfl | cases h

lemma atom?_formula (p : Predicate) : (formula p).atom? = none ∨
    ∃ c, (formula p).atom? = some (.test c) := by
  induction p with
  | test c =>
    cases hpair : isPair c with
    | true => cases c <;> first | exact .inl rfl | cases hpair
    | false =>
      refine .inr ⟨c, ?_⟩
      rw [formula, conditionFormula_of_single hpair]
      exact atom?_conditionTokens hpair
  | and | or | not => exact .inl rfl
  | group inner ih => exact ih

lemma isEmpty?_formula (a : Option Atom) (p : Predicate) :
    isEmpty? a (formula p).atom? = none := by
  obtain h | ⟨c, h⟩ := atom?_formula p <;> simp [h, isEmpty?]

lemma withinDays?_formula (a : Option Atom) (p : Predicate) :
    withinDays? a (formula p).atom? = none := by
  obtain h | ⟨c, h⟩ := atom?_formula p <;> simp [h, withinDays?]

lemma predicate?_conditionFormula (c : Condition) :
    (conditionFormula c).predicate? = some (.test c) := by
  cases hpair : isPair c with
  | false =>
    have hatom := atom?_conditionTokens hpair
    simp [conditionFormula_of_single hpair, Formula.predicate?, hatom]
  | true =>
    cases c with
    | isEmpty c =>
      have hnull : atom? (nullTokens c) = some (.test (.isNull c)) :=
        atom?_conditionTokens (c := .isNull c) rfl
      simp [conditionFormula, Formula.predicate?, Formula.atom?, hnull, atom?_emptyTokens, isEmpty?]
    | withinDays c days =>
      have hset : atom? (setTokens c) = some (.test (.isNotNull c)) :=
        atom?_conditionTokens (c := .isNotNull c) rfl
      simp [conditionFormula, Formula.predicate?, Formula.atom?, hset, atom?_sinceTokens,
        withinDays?]
    | _ => cases hpair

theorem predicate?_formula (p : Predicate) : (formula p).predicate? = some p.ungrouped := by
  induction p with
  | test c => exact predicate?_conditionFormula c
  | and left right ihl ihr =>
    simp [formula, Formula.predicate?, withinDays?_formula, ihl, ihr, Predicate.ungrouped]
  | or left right ihl ihr =>
    simp [formula, Formula.predicate?, isEmpty?_formula, ihl, ihr, Predicate.ungrouped]
  | not inner ih => simp [formula, Formula.predicate?, ih, Predicate.ungrouped]
  | group inner ih => exact ih

lemma read_predicate_eq {p : Predicate} (h : p.PlainNames) :
    read (predicate p) = some p.ungrouped := by
  have htokens := tokens?_of_tokenizes (tokenizes_predicate h)
  have hformula := formula?_of_reads ((reads_predicate p).mono (one_le_level p))
  simp [read, htokens, hformula, predicate?_formula]

end Sql

lemma plainNames_numbered {stem : String} (h : Text.IsIdentifier stem) (ps : Parameters) :
    ∀ name ∈ [ps.nextName stem], name.toList.all Text.isPlain = true := by
  intro name hname
  rw [List.mem_singleton.mp hname]
  exact (Text.isIdentifier_numbered h _).2

lemma foldl_hide_plainNames {base : Predicate × Parameters} (h : base.1.PlainNames)
    (states : List ItemState) : (states.foldl hide base).1.PlainNames := by
  induction states generalizing base with
  | nil => exact h
  | cons s states ih =>
    exact ih (List.forall_mem_append.mpr ⟨h, plainNames_numbered (by decide) _⟩)

lemma foldl_hide_ungrouped {base : Predicate × Parameters} (h : base.1.ungrouped = base.1)
    (states : List ItemState) :
    (states.foldl hide base).1.ungrouped = (states.foldl hide base).1 := by
  induction states generalizing base with
  | nil => exact h
  | cons s states ih => exact ih (congrArg (Predicate.and · _) h)

namespace Compiled

variable (c : Compiled) (userId : String) (v : Visibility)

lemma baseline_plainNames : (c.baseline userId v).1.PlainNames := by
  have howned : (ownedBy c.parameters userId).1.PlainNames :=
    plainNames_numbered (by decide) c.parameters
  exact foldl_hide_plainNames howned _

lemma baseline_ungrouped : (c.baseline userId v).1.ungrouped = (c.baseline userId v).1 :=
  foldl_hide_ungrouped rfl _

lemma read_visibleTo {p : Predicate} (hp : c.predicate = some p) (h : p.PlainNames) :
    ∃ f, (c.visibleTo userId v).predicate = some f ∧
      Sql.read (Sql.predicate f) = some (.and (c.baseline userId v).1 p.ungrouped) := by
  have hfilter := c.visibleTo_predicate userId v
  rw [hp] at hfilter
  have hnames : (Predicate.and (c.baseline userId v).1 (.group p)).PlainNames :=
    List.forall_mem_append.mpr ⟨c.baseline_plainNames userId v, h⟩
  refine ⟨_, hfilter, ?_⟩
  rw [Sql.read_predicate_eq hnames, Predicate.ungrouped, baseline_ungrouped]
  rfl

end Compiled

theorem Query.read_filter {options : CompileOptions} {q : Query} {c : Compiled}
    (h : q.compile options = .ok c) (userId : String) (v : Visibility) :
    ∃ f, (c.visibleTo userId v).predicate = some f ∧
      Sql.read (Sql.predicate f) = some f.ungrouped := by
  obtain ⟨f, hf⟩ : ∃ f, (c.visibleTo userId v).predicate = some f :=
    ⟨_, c.visibleTo_predicate userId v⟩
  exact ⟨f, hf, Sql.read_predicate_eq fun name hname =>
    (Query.references_isIdentifier h userId v hf name hname).2⟩

/-- With standard precedence, the text of a predicate reads as the predicate without its groups.
Predicates of one text differ in their groups at most, and a query reads as one operand beside the
tests of the baseline. -/
theorem Sql.read_predicate {p : Predicate} (h : p.PlainNames) :
    read (predicate p) = some p.ungrouped ∧
      (∀ q : Predicate, q.PlainNames → predicate q = predicate p → q.ungrouped = p.ungrouped) ∧
      ∀ (c : Compiled) (userId : String) (v : Visibility), c.predicate = some p →
        ∃ f, (c.visibleTo userId v).predicate = some f ∧
          read (predicate f) = some (.and (c.baseline userId v).1 p.ungrouped) := by
  refine ⟨read_predicate_eq h, fun q hq htext => ?_, fun c userId v hp =>
    c.read_visibleTo userId v hp h⟩
  have hread := read_predicate_eq hq
  rw [htext, read_predicate_eq h] at hread
  exact (Option.some.inj hread).symm

theorem Sql.read_predicate_nested :
    let within := Predicate.test (.between .wordCount (.parameter "words_0") (.constant (-1)))
    let blank := Predicate.test (.isEmpty .note)
    let p := Predicate.or (.and within (.not (.group blank)))
      (.group (.or (.test (.withinDays .deletedAt 14)) within))
    p.PlainNames ∧
      predicate p = "(library_item.word_count BETWEEN :words_0 AND -1 AND NOT (((" ++
        "library_item.note IS NULL OR library_item.note = '')))) OR ((" ++
        "library_item.deleted_at IS NOT NULL AND library_item.deleted_at >= NOW() - " ++
        "INTERVAL '14 days') OR library_item.word_count BETWEEN :words_0 AND -1)" ∧
      read (predicate p) = some (.or (.and within (.not blank))
        (.or (.test (.withinDays .deletedAt 14)) within)) := by
  intro within blank p
  have hnames : p.PlainNames := by decide
  exact ⟨hnames, by decide +kernel, (read_predicate hnames).1⟩

end ReadLater
