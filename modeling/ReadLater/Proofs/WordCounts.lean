import ReadLater.Library.Selection
import ReadLater.Proofs.Decimal
import ReadLater.Proofs.Frames
import ReadLater.Proofs.RoundedIntegers
import ReadLater.Sql.Expression

/-!
# Word counts

A word count is compared with the number of a tag, and with the word counts of other items, as a
double. So integers are compared as they are except where two of them have one nearest number of
53 bits: those count as equal.
-/

namespace ReadLater

namespace Double

/-- The order of two integers, where those with the same double are equal. -/
def compareRounded (m n : Int) : Ordering :=
  if nearestInt m = nearestInt n then .eq else compare m n

lemma compare_nearestInt (m n : Int) :
    compare (nearestInt m) (nearestInt n) = compareRounded m n := by
  unfold compareRounded
  split_ifs with hsame
  · exact compare_eq_iff_eq.mpr hsame
  · rcases lt_trichotomy m n with h | rfl | h
    · rw [compare_lt_iff_lt.mpr h]
      exact compare_lt_iff_lt.mpr (lt_of_le_of_ne (nearestInt_mono h.le) hsame)
    · exact absurd rfl hsame
    · rw [compare_gt_iff_gt.mpr h]
      exact compare_gt_iff_gt.mpr (lt_of_le_of_ne (nearestInt_mono h.le) (Ne.symm hsame))

lemma compareRounded_swap (m n : Int) : (compareRounded m n).swap = compareRounded n m := by
  rw [← compare_nearestInt, ← compare_nearestInt]
  exact Std.OrientedCmp.eq_swap.symm

/-- Between integers of 53 bits rounding makes no difference. -/
theorem compareRounded_of_le {m n : Int} (hm : m.natAbs ≤ 2 ^ 53) (hn : n.natAbs ≤ 2 ^ 53) :
    compareRounded m n = compare m n := by
  rw [← compare_nearestInt, nearestInt_of_le hm, nearestInt_of_le hn]

end Double

lemma natAbs_toInt_le (n : Int64) : n.toInt.natAbs ≤ 2 ^ 63 := by
  have hlower := n.le_toInt
  have hupper := n.toInt_lt
  omega

lemma Value.compare?_ofInt (m n : Int64) :
    (Value.ofInt m).compare? (.ofInt n) = some (Double.compareRounded m.toInt n.toInt) := by
  rw [← Double.compare_nearestInt]
  exact Double.compare?_ofInt (natAbs_toInt_le m) (natAbs_toInt_le n)

lemma Item.value_wordCount {i : Item} {w : Option Int64} (h : i.wordCount = w) :
    i.value .wordCount = (w.map Value.ofInt).getD .null := by
  rw [Item.value, h]

namespace TagOperand

lemma splitComparison?_of_comparison (op : Comparison) {cs : List Char}
    (h : cs.head? ≠ some '=') :
    splitComparison? ((Sql.comparison op).toList ++ cs) = some (op, cs) := by
  cases op with
  | lessOrEqual | greaterOrEqual => rfl
  | less | greater =>
    cases cs with
    | nil => rfl
    | cons c cs =>
      have hc : c ≠ '=' := fun hsame => h (congrArg some hsame)
      simp [Sql.comparison, splitComparison?, hc]

lemma number_of_written {t : TagOperand} {op : Comparison} {n : Int64}
    (h : t.value = Sql.comparison op ++ Sql.integer n) (stem : String) (column : Column)
    (bound : Nat) :
    t.number stem column bound =
      .ok (.ofValue bound stem (.int n) fun name => .compare column op (.parameter name)) := by
  have hdigits : ∀ c ∈ Text.decimalInt n.toInt, Text.isBlank c = false := by
    intro c hc
    rcases Text.eq_minus_or_isAsciiDigit_of_mem_decimalInt hc with rfl | hdigit
    · decide
    · exact Text.not_isBlank_of_isAsciiDigit hdigit
  have hhead : (Text.decimalInt n.toInt).head? ≠ some '=' := by
    intro hequals
    rcases Text.eq_minus_or_isAsciiDigit_of_mem_decimalInt (List.mem_of_mem_head? hequals) with
      hsame | hdigit
    · exact absurd hsame (by decide)
    · exact absurd hdigit (by decide)
  have hsplit : splitComparison? t.value.toList = some (op, Text.decimalInt n.toInt) := by
    rw [h, String.toList_append, Sql.integer, String.toList_ofList]
    exact splitComparison?_of_comparison op hhead
  have htrim : Text.trimEnd (Text.trimStart (Text.decimalInt n.toInt)) =
      Text.decimalInt n.toInt := by
    have := congrArg String.toList (Text.trim_of_not_blank hdigits)
    rwa [Text.trim, String.toList_ofList, String.toList_ofList] at this
  have hne : (Text.decimalInt n.toInt).isEmpty = false := by
    cases hcs : Text.decimalInt n.toInt with
    | nil =>
      have hread := Text.signed?_decimalInt n
      rw [hcs] at hread
      cases hread
    | cons c cs => rfl
  unfold number
  rw [hsplit]
  simp only [htrim, hne, Text.signed?_decimalInt, Bool.false_eq_true, if_false]

end TagOperand

namespace Query.Tag

variable {t : Query.Tag} {name : String} {quoted : Bool} {op : Comparison} {n : Int64}

lemma contribution_of_written (hfield : t.field = .named name quoted)
    (hname : Text.lower name = Keyword.wordsCount.name)
    (hoperand : Text.trim t.operand.text = Sql.comparison op ++ Sql.integer n)
    (options : CompileOptions) (bound : Nat) :
    t.contribution options bound = .ok (.ofValue bound "words_count" (.int n) fun name =>
      .compare .wordCount op (.parameter name)) := by
  have hvalue : Text.trim t.operand.text ≠ "" := by
    rw [hoperand]
    intro hempty
    have hchars := congrArg String.toList hempty
    rw [String.toList_append] at hchars
    cases op <;> cases hchars
  rw [contribution_of_keyword hfield hname hvalue]
  exact TagOperand.number_of_written hoperand _ _ _

lemma exists_accepts_of_written (hfield : t.field = .named name quoted)
    (hname : Text.lower name = Keyword.wordsCount.name)
    (hoperand : Text.trim t.operand.text = Sql.comparison op ++ Sql.integer n)
    (options : CompileOptions) :
    ∃ c, (Query.tag t).compile options = .ok c ∧ ∀ (clock : Time.Instant) (i : Item),
      ∃ b, c.filter.accepts clock i = .ok b ∧ (b = true ↔ ∃ w, i.wordCount = some w ∧
        op.holds (Double.compareRounded w.toInt n.toInt) = true) := by
  obtain ⟨c, hcompile, hpredicate, hparameters⟩ :=
    Query.compile_tag (contribution_of_written hfield hname hoperand options 0)
  have hget : c.parameters.get? (numbered "words_count" 0) = some (.int n) := by
    rw [hparameters]
    simp [Contribution.ofValue, Parameters.get?]
  refine ⟨c, hcompile, fun clock i => ?_⟩
  have htruth : (Condition.compare .wordCount op (.parameter (numbered "words_count" 0))).truth
      c.parameters clock i =
        .ok (((i.value .wordCount).compare? (.ofInt n)).map op.holds) := by
    simp only [Condition.truth, Parameters.comparand, hget]
    rfl
  refine ⟨_, Filter.accepts_of_truth (f := c.filter) hpredicate htruth, ?_⟩
  cases hcount : i.wordCount with
  | none =>
    rw [Item.value_wordCount hcount]
    refine ⟨fun h => ?_, ?_⟩
    · cases h
    · rintro ⟨w, hw, -⟩
      cases hw
  | some w =>
    rw [Item.value_wordCount hcount, Option.map_some, Option.getD_some, Value.compare?_ofInt,
      Option.map_some, beq_iff_eq, Option.some.injEq]
    refine ⟨fun h => ⟨w, rfl, h⟩, ?_⟩
    rintro ⟨_, hw, h⟩
    exact Option.some.inj hw ▸ h

end Query.Tag

/-! ## Sorting -/

/-- The direction in the operand of a `sort:` tag. -/
def SortDirection.suffix : SortDirection → String
  | .ascending => "asc"
  | .descending => "desc"

namespace SortDirective

/-- The directive that a tag for word counts asks for. -/
def byWordCount (direction : SortDirection) : SortDirective :=
  ⟨Column.wordCount.name, direction, .last⟩

lemma compare_byWordCount (direction : SortDirection) {a b : Row} {v w : Int64}
    (ha : a.item.wordCount = some v) (hb : b.item.wordCount = some w) :
    (byWordCount direction).compare a b =
      match direction with
      | .ascending => Double.compareRounded v.toInt w.toInt
      | .descending => (Double.compareRounded v.toInt w.toInt).swap := by
  have hkey : ∀ r : Row, r.key Column.wordCount.name = r.item.value .wordCount := fun r => rfl
  unfold compare
  simp only [byWordCount, hkey, Item.value_wordCount ha, Item.value_wordCount hb,
    Option.map_some, Option.getD_some, Value.compare?_ofInt]
  rfl

end SortDirective

lemma TagOperand.sort_wordCount {t : TagOperand} {direction : SortDirection}
    (h : t.value = "wordscount-" ++ direction.suffix) :
    t.sort = .ok { sort := some (SortDirective.byWordCount direction) } := by
  have hsplit : Text.splitOnce? '-' ("wordscount-" ++ direction.suffix).toList =
      some ("wordscount".toList, direction.suffix.toList) := by
    cases direction <;> decide +kernel
  have hkey : Text.lower (Text.trim (String.ofList "wordscount".toList)) = "wordscount" := by
    decide +kernel
  have horder : Text.equalsAsciiCase (Text.trim (String.ofList direction.suffix.toList)) "asc" =
      decide (direction = .ascending) := by
    cases direction <;> decide +kernel
  have hknown : sortKey? "wordscount" = some Column.wordCount.name := by decide +kernel
  unfold TagOperand.sort
  rw [h, hsplit]
  simp only [Option.getD_some, hkey, horder, hknown, decide_eq_true_eq]
  rw [if_neg (by decide)]
  cases direction <;> rfl

lemma compareRows_singleton (d : SortDirective) (a b : Row) :
    compareRows [d] a b = d.compare a b :=
  Ordering.then_eq

namespace Query.Tag

variable {t : Query.Tag} {name : String} {quoted : Bool} {direction : SortDirection}

lemma exists_sort_of_wordCount (hfield : t.field = .named name quoted)
    (hname : Text.lower name = Keyword.sort.name)
    (hoperand : Text.trim t.operand.text = "wordscount-" ++ direction.suffix)
    (options : CompileOptions) :
    ∃ c, (Query.tag t).compile options = .ok c ∧
      c.sort = [SortDirective.byWordCount direction] := by
  have hvalue : Text.trim t.operand.text ≠ "" := by
    rw [hoperand]
    cases direction <;> decide +kernel
  have hcontribution : t.contribution options 0 =
      .ok { sort := some (SortDirective.byWordCount direction) } := by
    rw [contribution_of_keyword hfield hname hvalue]
    exact TagOperand.sort_wordCount
      (t := ⟨name, Text.trim t.operand.text, t.operand.isQuoted⟩) hoperand
  let acc : Accumulator := Accumulator.add {} true
    { sort := some (SortDirective.byWordCount direction) }
  have hinto : (Query.tag t).compileInto options true {} = (.ok none, acc) := by
    simp only [Query.compileInto]
    rw [show ({} : Accumulator).parameters.entries.length = 0 from rfl, hcontribution]
  have hsort : acc.sort = [SortDirective.byWordCount direction] := by
    simp [acc, Accumulator.add, Accumulator.addSort, Accumulator.hasSort, Accumulator.bind]
  refine ⟨⟨none, acc.parameters, acc.ranks, acc.sort, acc.trash⟩, ?_, hsort⟩
  rw [Query.compile, hinto]

/-- A tag for word counts accepts the items whose word count stands to its number as asked, and a
`sort:` tag for them orders items by their word counts; in both, two integers with the same nearest
number of 53 bits count as equal. That makes no difference up to `2 ^ 53`. -/
theorem wordCounts_compared (options : CompileOptions) :
    (∀ (t : Query.Tag) (name : String) (quoted : Bool) (op : Comparison) (n : Int64),
      t.field = .named name quoted → Text.lower name = Keyword.wordsCount.name →
      Text.trim t.operand.text = Sql.comparison op ++ Sql.integer n →
      ∃ c, (Query.tag t).compile options = .ok c ∧ ∀ (clock : Time.Instant) (i : Item),
        ∃ b, c.filter.accepts clock i = .ok b ∧ (b = true ↔ ∃ w, i.wordCount = some w ∧
          op.holds (Double.compareRounded w.toInt n.toInt) = true)) ∧
    (∀ (t : Query.Tag) (name : String) (quoted : Bool) (direction : SortDirection),
      t.field = .named name quoted → Text.lower name = Keyword.sort.name →
      Text.trim t.operand.text = "wordscount-" ++ direction.suffix →
      ∃ c, (Query.tag t).compile options = .ok c ∧ ∀ (a b : Row) (v w : Int64),
        a.item.wordCount = some v → b.item.wordCount = some w →
        compareRows c.sort a b =
          match direction with
          | .ascending => Double.compareRounded v.toInt w.toInt
          | .descending => Double.compareRounded w.toInt v.toInt) ∧
    ∀ m n : Int, m.natAbs ≤ 2 ^ 53 → n.natAbs ≤ 2 ^ 53 →
      Double.compareRounded m n = compare m n := by
  refine ⟨fun t name quoted op n hfield hname hoperand =>
    exists_accepts_of_written hfield hname hoperand options,
    fun t name quoted direction hfield hname hoperand => ?_,
    fun m n => Double.compareRounded_of_le⟩
  obtain ⟨c, hcompile, hsort⟩ := exists_sort_of_wordCount hfield hname hoperand options
  refine ⟨c, hcompile, fun a b v w ha hb => ?_⟩
  rw [hsort, compareRows_singleton, SortDirective.compare_byWordCount direction ha hb]
  cases direction with
  | ascending => rfl
  | descending => exact Double.compareRounded_swap _ _

/-- Two more than `2 ^ 53` words are more than `2 ^ 53`, and 3000 words come before 500 where the
longer text is asked for first. -/
theorem wordCounts_compared_apart :
    let options : CompileOptions := { now := ⟨.epoch, 0⟩ }
    let longer : Query.Tag :=
      ⟨.named "WordsCount" false, .literal (.string " >9007199254740992 ") false⟩
    let longest : Query.Tag := ⟨.named "sort" false, .literal (.string "wordscount-desc") false⟩
    let counted : Int64 → Item := fun n =>
      { Item.saved "a" "u1" "Notes" .epoch with wordCount := some n }
    (∃ c, (Query.tag longer).compile options = .ok c ∧
      c.filter.accepts .epoch (counted 9007199254740994) = .ok true) ∧
    ∃ c, (Query.tag longest).compile options = .ok c ∧
      compareRows c.sort ⟨counted 3000, []⟩ ⟨counted 500, []⟩ = .lt := by
  intro options longer longest counted
  obtain ⟨haccepts, hsort, -⟩ := wordCounts_compared options
  obtain ⟨c, hc, hlonger⟩ := haccepts longer "WordsCount" false .greater 9007199254740992 rfl
    (by decide +kernel) (by decide +kernel)
  obtain ⟨b, hb, hiff⟩ := hlonger .epoch (counted 9007199254740994)
  obtain ⟨d, hd, hlongest⟩ := hsort longest "sort" false .descending rfl
    (by decide +kernel) (by decide +kernel)
  refine ⟨⟨c, hc, ?_⟩, d, hd, ?_⟩
  · rwa [hiff.mpr ⟨9007199254740994, rfl, by decide +kernel⟩] at hb
  · exact (hlongest _ _ 3000 500 rfl rfl).trans (by decide +kernel)

/-- A text of `2 ^ 53 + 1` words is not found by a tag for more than `2 ^ 53` words. -/
theorem next_wordCount_rejected :
    let options : CompileOptions := { now := ⟨.epoch, 0⟩ }
    let t : Query.Tag :=
      ⟨.named "wordsCount" false, .literal (.string ">9007199254740992") false⟩
    let i := { Item.saved "a" "u1" "Notes" .epoch with wordCount := some 9007199254740993 }
    ∃ c, (Query.tag t).compile options = .ok c ∧ c.filter.accepts .epoch i = .ok false ∧
      (9007199254740992 : Int) < (9007199254740993 : Int64).toInt := by
  intro options t i
  have hname : Text.lower "wordsCount" = Keyword.wordsCount.name := by decide +kernel
  have hoperand : Text.trim t.operand.text =
      Sql.comparison .greater ++ Sql.integer 9007199254740992 := by decide +kernel
  obtain ⟨c, hc, haccepts⟩ := exists_accepts_of_written (t := t) rfl hname hoperand options
  obtain ⟨b, hb, hiff⟩ := haccepts .epoch i
  have hequal : Double.compareRounded 9007199254740993 9007199254740992 = .eq := by decide +kernel
  have hrejected : b ≠ true := by
    intro htrue
    obtain ⟨w, hw, hholds⟩ := hiff.mp htrue
    cases hw
    exact absurd (hequal ▸ hholds) (by decide)
  have hfalse : b = false := Bool.eq_false_of_not_eq_true hrejected
  exact ⟨c, hc, hfalse ▸ hb, by decide⟩

end Query.Tag

end ReadLater
