import ReadLater.Proofs.LowerCase
import ReadLater.Proofs.Meaning
import ReadLater.Proofs.Wildcards
import ReadLater.Proofs.WrittenQueries

/-!
# Tags of labels and of texts

What a label tag and the substring test of a text tag ask for. The operand reaches the test in lower
case and escaped, and the test lowers it again before it reads the escapes. The second lowering
changes nothing, so each character of the operand stands for itself; only a star in a label stands
for any run.
-/

namespace ReadLater

namespace FullText

/-- Each star of the glob is any run, and each other character is itself. -/
def globTokens (glob : List Char) : List PatternToken :=
  glob.map fun c => if c = '*' then .run else .char c

lemma eq_backslash_or_mem_of_mem_escapePattern {c : Char} {cs : List Char}
    (h : c ∈ escapePattern cs) : c = '\\' ∨ c ∈ cs := by
  obtain ⟨d, hd, hc⟩ := List.mem_flatMap.mp h
  split at hc
  · rcases List.mem_cons.mp hc with hbackslash | hsame
    · exact .inl hbackslash
    · exact .inr (List.mem_singleton.mp hsame ▸ hd)
  · exact .inr (List.mem_singleton.mp hc ▸ hd)

lemma escapePattern_cons (c : Char) (cs : List Char) :
    escapePattern (c :: cs) = escapePattern [c] ++ escapePattern cs := by
  simp [escapePattern]

lemma patternTokens_escape (c : Char) (cs : List Char) :
    patternTokens (escapePattern [c] ++ cs) = .char c :: patternTokens cs := by
  by_cases h : c = '\\' ∨ c = '%' ∨ c = '_'
  · have hescaped : escapePattern [c] = ['\\', c] := by simp [escapePattern, h]
    rw [hescaped]
    rfl
  · have hplain : c ∉ ['%', '_', '\\'] := by
      simp only [List.mem_cons, List.not_mem_nil, or_false]
      tauto
    have hbare : escapePattern [c] = [c] := by simp [escapePattern, h]
    rw [hbare]
    exact patternTokens_plain hplain cs

/-- An escaped text stands for its characters, whatever follows it in the pattern. -/
lemma patternTokens_escapePattern (cs ds : List Char) :
    patternTokens (escapePattern cs ++ ds) = cs.map .char ++ patternTokens ds := by
  induction cs with
  | nil => rfl
  | cons c cs ih =>
    rw [escapePattern_cons, List.append_assoc, patternTokens_escape, ih]
    rfl

lemma patternTokens_starred (cs : List Char) :
    patternTokens ((escapePattern cs).map fun c => if c = '*' then '%' else c) =
      globTokens cs := by
  induction cs with
  | nil => rfl
  | cons c cs ih =>
    rw [escapePattern_cons, List.map_append, globTokens, List.map_cons]
    by_cases hstar : c = '*'
    · subst hstar
      exact congrArg (PatternToken.run :: ·) ih
    · have hkept : ∀ d ∈ escapePattern [c], (if d = '*' then '%' else d) = d := by
        intro d hd
        apply if_neg
        rcases eq_backslash_or_mem_of_mem_escapePattern hd with rfl | hsame
        · decide
        · rwa [List.mem_singleton.mp hsame]
      rw [List.map_congr_left hkept, List.map_id', patternTokens_escape, ih, if_neg hstar]
      rfl

lemma isSettled_of_mem_escapePattern {cs : List Char} (h : ∀ c ∈ cs, Text.IsSettled c) :
    ∀ c ∈ escapePattern cs, Text.IsSettled c := by
  intro c hc
  rcases eq_backslash_or_mem_of_mem_escapePattern hc with rfl | hmem
  · decide +kernel
  · exact h c hmem

lemma fits_chars {cs value : List Char} : Fits (cs.map .char) value ↔ value = cs := by
  induction cs generalizing value with
  | nil => exact fits_nil
  | cons c cs ih =>
    rw [List.map_cons, fits_cons]
    constructor
    · rintro ⟨piece, rest, rfl, hpiece, hrest⟩
      rw [hpiece, ih.mp hrest]
      rfl
    · rintro rfl
      exact ⟨[c], cs, rfl, rfl, ih.mpr rfl⟩

lemma fits_runs_around {cs value : List Char} :
    Fits (.run :: (cs.map .char ++ [.run])) value ↔ cs <:+: value := by
  rw [fits_run]
  constructor
  · rintro ⟨rest, hrest, hfits⟩
    obtain ⟨left, right, rfl, hleft, -⟩ := fits_append.mp hfits
    rw [fits_chars.mp hleft] at hrest
    exact (List.prefix_append cs right).isInfix.trans hrest.isInfix
  · rintro ⟨before, after, rfl⟩
    refine ⟨cs ++ after, ?_, fits_append.mpr ⟨cs, after, rfl, fits_chars.mpr rfl, ?_⟩⟩
    · rw [List.append_assoc]
      exact List.suffix_append before _
    · exact fits_run.mpr ⟨[], List.nil_suffix, fits_nil.mpr rfl⟩

lemma iLike_part_iff (part text : String) :
    iLike text ("%" ++ String.ofList (escapePattern (Text.lower part).toList) ++ "%") = true ↔
      (Text.lower part).toList <:+: (Text.lower text).toList := by
  let escaped := escapePattern (Text.lower part).toList
  have hpattern : "%" ++ String.ofList escaped ++ "%" =
      String.ofList ('%' :: (escaped ++ ['%'])) := by
    apply String.toList_inj.mp
    simp
  have hsettled : ∀ c ∈ '%' :: (escaped ++ ['%']), Text.IsSettled c := by
    have hpercent : Text.IsSettled '%' := by decide +kernel
    have hescaped := isSettled_of_mem_escapePattern fun c => Text.isSettled_of_mem_lower (s := part)
    intro c hc
    simp only [List.mem_cons, List.mem_append, List.not_mem_nil, or_false] at hc
    rcases hc with rfl | hc | rfl
    · exact hpercent
    · exact hescaped c hc
    · exact hpercent
  have htokens : patternTokens ('%' :: (escaped ++ ['%'])) =
      .run :: ((Text.lower part).toList.map .char ++ [.run]) :=
    congrArg (PatternToken.run :: ·) (patternTokens_escapePattern _ ['%'])
  rw [hpattern, iLike_iff, Text.lower_of_settled hsettled, htokens, fits_runs_around]

lemma iLike_starPattern_iff (entry text : String) :
    iLike text (TagOperand.starPattern (Text.lower entry)) = true ↔
      Fits (globTokens (Text.lower entry).toList) (Text.lower text).toList := by
  have hsettled : ∀ c ∈ (escapePattern (Text.lower entry).toList).map
      (fun c => if c = '*' then '%' else c), Text.IsSettled c := by
    intro c hc
    obtain ⟨d, hd, rfl⟩ := List.mem_map.mp hc
    split
    · decide +kernel
    · exact isSettled_of_mem_escapePattern (fun c => Text.isSettled_of_mem_lower) d hd
  rw [TagOperand.starPattern, iLike_iff, Text.lower_of_settled hsettled, patternTokens_starred]

end FullText

/-! ## Label tags -/

/-- The entry of a label tag asks for the label: they are equal in any letter case, or the entry has
stars and matches the label as a glob. -/
def LabelMatches (entry label : String) : Prop :=
  if '*' ∈ entry.toList then
    FullText.Fits (FullText.globTokens (Text.lower entry).toList) (Text.lower label).toList
  else Text.lower label = Text.lower entry

/-- Some label of the item or of its highlights is one that the entry asks for. -/
def Item.HasLabel (i : Item) (entry : String) : Prop :=
  ∃ label ∈ i.labelNames ++ i.highlightLabels, LabelMatches entry label

namespace TagOperand

variable {ps : Parameters}

lemma arrays_labelSet (i : Item) :
    i.arrays Column.labelSet = i.labelNames ++ i.highlightLabels := by
  simp [Item.arrays, Column.labelSet, Item.array]

lemma exists_labelTest_truth {name entry : String} {test : Condition} {value : ParameterValue}
    (htest : labelTest name (Text.lower entry) = (test, value)) (hvalue : ps.get? name = some value)
    (clock : Time.Instant) (i : Item) :
    ∃ b, test.truth ps clock i = .ok (some b) ∧ (b = true ↔ i.HasLabel entry) := by
  unfold labelTest at htest
  rw [Text.contains_star_lower] at htest
  by_cases hstar : '*' ∈ entry.toList
  · rw [if_pos (List.contains_iff_mem.mpr hstar)] at htest
    cases htest
    have hbound : ps.text name = .ok (starPattern (Text.lower entry)) := by
      simp [Parameters.text, hvalue]
    simp only [Condition.truth, hbound, bind, Except.bind, pure, Except.pure, arrays_labelSet]
    refine ⟨_, rfl, ?_⟩
    simp only [List.any_eq_true, FullText.iLike_starPattern_iff, Item.HasLabel, LabelMatches,
      if_pos hstar]
  · have hplain : ¬entry.toList.contains '*' = true := fun hmem =>
      hstar (List.contains_iff_mem.mp hmem)
    rw [if_neg hplain] at htest
    cases htest
    have hbound : ps.text name = .ok (Text.lower entry) := by
      simp [Parameters.text, hvalue]
    simp only [Condition.truth, hbound, bind, Except.bind, pure, Except.pure, arrays_labelSet]
    refine ⟨_, rfl, ?_⟩
    simp only [List.any_eq_true, equalsIgnoringCase, Text.lower_lower, beq_iff_eq, Item.HasLabel,
      LabelMatches, if_neg hstar]

lemma subset_anyLabel_parameters (bound : Nat) (test : Predicate) (parameters : List Parameter)
    (labels : List String) : parameters ⊆ (anyLabel bound test parameters labels).parameters := by
  induction labels generalizing bound test parameters with
  | nil => exact List.Subset.refl _
  | cons label rest ih => exact List.Subset.trans (List.subset_append_left _ _) (ih _ _ _)

lemma exists_anyLabel_truth {entries : List String} {bound : Nat} {test : Predicate}
    {parameters : List Parameter} {c : Contribution}
    (hc : anyLabel bound test parameters (entries.map Text.lower) = c)
    (hvalues : ∀ p ∈ c.parameters, ps.get? p.name = some p.value) :
    ∃ p, c.predicate = some p ∧ ∀ (clock : Time.Instant) (i : Item) (b : Bool),
      test.truth ps clock i = .ok (some b) → ∃ d, p.truth ps clock i = .ok (some d) ∧
        (d = true ↔ b = true ∨ ∃ entry ∈ entries, i.HasLabel entry) := by
  induction entries generalizing bound test parameters with
  | nil =>
    subst hc
    exact ⟨.group test, rfl, fun clock i b htest => ⟨b, htest, by simp⟩⟩
  | cons entry entries ih =>
    rcases hnext : labelTest (numbered "label" bound) (Text.lower entry) with ⟨next, value⟩
    rw [List.map_cons, anyLabel, hnext] at hc
    have hvalue : ps.get? (numbered "label" bound) = some value := by
      apply hvalues ⟨numbered "label" bound, value⟩
      rw [← hc]
      apply subset_anyLabel_parameters
      exact List.mem_append_right parameters List.mem_cons_self
    obtain ⟨p, hp, htruth⟩ := ih hc
    refine ⟨p, hp, fun clock i b htest => ?_⟩
    obtain ⟨e, he, hentry⟩ := exists_labelTest_truth hnext hvalue clock i
    have hor : (Predicate.or test (.test next)).truth ps clock i = .ok (some (b || e)) := by
      rw [Predicate.truth, Predicate.truth, htest, he]
      cases b <;> cases e <;> rfl
    obtain ⟨d, hd, hany⟩ := htruth clock i (b || e) hor
    refine ⟨d, hd, ?_⟩
    rw [hany, Bool.or_eq_true, hentry, or_assoc, List.exists_mem_cons_iff]

lemma exists_label {t : TagOperand} (h : t.pieces ≠ []) :
    ∃ c p, t.label 0 = .ok c ∧ c.predicate = some p ∧
      ∀ (clock : Time.Instant) (i : Item), ∃ b, p.truth ⟨c.parameters⟩ clock i = .ok (some b) ∧
        (b = true ↔ ∃ entry ∈ t.pieces, i.HasLabel entry) := by
  obtain ⟨entry, entries, hentries⟩ := List.exists_cons_of_ne_nil h
  rcases hfirst : labelTest (numbered "label" 0) (Text.lower entry) with ⟨first, value⟩
  obtain ⟨c, hc⟩ : ∃ c, anyLabel 1 (.test first) [⟨numbered "label" 0, value⟩]
      (entries.map Text.lower) = c := ⟨_, rfl⟩
  have hlabel : t.label 0 = .ok c := by
    rw [label, hentries, List.map_cons]
    simp only [hfirst, Nat.zero_add, hc]
  have hvalues : ∀ p ∈ c.parameters, (⟨c.parameters⟩ : Parameters).get? p.name = some p.value :=
    fun p hp => Parameters.get?_of_numberedFrom (label_wellBound hlabel).numbered hp
  have hvalue : (⟨c.parameters⟩ : Parameters).get? (numbered "label" 0) = some value := by
    apply hvalues ⟨numbered "label" 0, value⟩
    rw [← hc]
    apply subset_anyLabel_parameters
    exact List.mem_cons_self
  obtain ⟨p, hp, htruth⟩ := exists_anyLabel_truth hc hvalues
  refine ⟨c, p, hlabel, hp, fun clock i => ?_⟩
  obtain ⟨e, he, hentry⟩ := exists_labelTest_truth hfirst hvalue clock i
  obtain ⟨b, hb, hany⟩ := htruth clock i e he
  refine ⟨b, hb, ?_⟩
  rw [hany, hentry, hentries, List.exists_mem_cons_iff]

end TagOperand

/-! ## Text tags -/

/-- The column that a text tag looks into. -/
def Keyword.textColumn? : Keyword → Option Column
  | .author => some .author
  | .title => some .title
  | .description => some .description
  | .note => some .note
  | .site => some .siteName
  | _ => none

/-- A text tag matches the words of its column, or finds its operand in the column. -/
def wordingPredicate (column : Column) (query pattern : String) : Predicate :=
  .group (.or (.test (.textMatch (.column column) query)) (.test (.iLike column pattern)))

lemma Keyword.exists_wording {k : Keyword} {column : Column} (h : k.textColumn? = some column)
    (options : CompileOptions) (t : TagOperand) :
    ∃ stem, k.contribution options 0 t = .ok (t.wording stem column 0) := by
  cases k <;> cases h <;> exact ⟨_, rfl⟩

namespace TagOperand

variable {stem : String} {column : Column}

lemma wording_values (t : TagOperand) (stem : String) (column : Column) :
    let ps : Parameters := ⟨(t.wording stem column 0).parameters⟩
    ps.text (numbered stem 0) = .ok t.lowered ∧
      ps.text (numbered stem 1) =
        .ok ("%" ++ String.ofList (FullText.escapePattern t.lowered.toList) ++ "%") := by
  have hvalue : ∀ p ∈ (t.wording stem column 0).parameters,
      (⟨(t.wording stem column 0).parameters⟩ : Parameters).get? p.name = some p.value :=
    fun p hp => Parameters.get?_of_numberedFrom (t.wording_wellBound stem column 0).numbered hp
  have hquery := hvalue _ List.mem_cons_self
  have hpattern := hvalue _ (List.mem_cons_of_mem _ List.mem_cons_self)
  exact ⟨by rw [Parameters.text, hquery], by rw [Parameters.text, hpattern]⟩

lemma exists_part_truth (t : TagOperand) (stem : String) {i : Item} {text : String}
    (htext : (i.value column).text? = some text) (clock : Time.Instant) :
    ∃ b, (Predicate.test (.iLike column (numbered stem 1))).truth
        ⟨(t.wording stem column 0).parameters⟩ clock i = .ok (some b) ∧
      (b = true ↔ (Text.lower t.value).toList <:+: (Text.lower text).toList) := by
  obtain ⟨-, hpattern⟩ := t.wording_values stem column
  refine ⟨_, ?_, FullText.iLike_part_iff t.value text⟩
  simp only [Predicate.truth, Condition.truth, hpattern, htext, bind, Except.bind, pure,
    Except.pure, Option.map_some]
  rfl

end TagOperand

namespace Query.Tag

variable {t : Query.Tag} {name : String} {quoted : Bool}

/-- The operand of a tag without blanks around it. -/
def trimmed (t : Query.Tag) (name : String) : TagOperand :=
  ⟨name, Text.trim t.operand.text, t.operand.isQuoted⟩

lemma trimmed_ne_of_pieces (h : (t.trimmed name).pieces ≠ []) : Text.trim t.operand.text ≠ "" := by
  intro hblank
  rw [trimmed, hblank] at h
  exact h rfl

lemma exists_compile_label (hfield : t.field = .named name quoted)
    (hname : Text.lower name = Keyword.label.name) (hpieces : (t.trimmed name).pieces ≠ [])
    (options : CompileOptions) :
    ∃ c p, (Query.tag t).compile options = .ok c ∧ c.predicate = some p ∧
      ∀ (clock : Time.Instant) (i : Item), ∃ b, p.truth c.parameters clock i = .ok (some b) ∧
        (b = true ↔ ∃ entry ∈ (t.trimmed name).pieces, i.HasLabel entry) := by
  obtain ⟨c, p, hlabel, hp, htruth⟩ := TagOperand.exists_label hpieces
  have hcontribution : t.contribution options 0 = .ok c :=
    (contribution_of_keyword hfield hname (trimmed_ne_of_pieces hpieces) options 0).trans hlabel
  obtain ⟨alone, hcompile, hpredicate, hparameters⟩ := compile_tag hcontribution
  refine ⟨alone, p, hcompile, hpredicate.trans hp, ?_⟩
  rw [hparameters]
  exact htruth

lemma exists_compileText_label {entry : String} (hentry : entry ≠ "")
    (htrimmed : Text.trim entry = entry) (hplain : ∀ c ∈ [',', '"'], c ∉ entry.toList)
    (options : CompileOptions) :
    ∃ c, compileText options ("label:\"" ++ entry ++ "\"") = .ok c ∧
      ∀ (clock : Time.Instant) (i : Item), ∃ b, c.filter.accepts clock i = .ok b ∧
        (b = true ↔ i.HasLabel entry) := by
  obtain ⟨t, ht⟩ : ∃ t : Query.Tag, t = ⟨.named "label" false, .literal (.string entry) true⟩ :=
    ⟨_, rfl⟩
  have hparse := parse_quoted (show isFieldName "label".toList = true by decide) hentry
    (hplain '"' (by simp))
  rw [show "label" ++ ":\"" = "label:\"" by decide] at hparse
  have hoperand : t.trimmed "label" = ⟨"label", entry, true⟩ := by
    rw [trimmed, ht, Operand.text, htrimmed]
    rfl
  have hpieces : (t.trimmed "label").pieces = [entry] := by
    rw [hoperand]
    exact TagOperand.pieces_of_not_mem hentry htrimmed (hplain ',' (by simp))
  obtain ⟨c, p, hcompile, hp, htruth⟩ := exists_compile_label (congrArg Query.Tag.field ht)
    (by decide +kernel) (by rw [hpieces]; exact List.cons_ne_nil _ _)
    { options with
      foldersScoped := options.foldersScoped ||
        wantsFolders ("label:\"" ++ entry ++ "\"") }
  refine ⟨c, ?_, fun clock i => ?_⟩
  · rw [ht] at hcompile
    simp only [compileText, hparse, bind, Except.bind, hcompile]
  · obtain ⟨b, hb, hiff⟩ := htruth clock i
    refine ⟨some b == some true, Filter.accepts_of_truth hp hb, ?_⟩
    rw [hpieces] at hiff
    simpa using hiff

lemma exists_compile_wording {k : Keyword} {column : Column} (hcolumn : k.textColumn? = some column)
    (hfield : t.field = .named name quoted) (hname : Text.lower name = k.name)
    (hvalue : Text.trim t.operand.text ≠ "") (options : CompileOptions) :
    ∃ c stem, (Query.tag t).compile options = .ok c ∧
      c.predicate = some (wordingPredicate column (numbered stem 0) (numbered stem 1)) ∧
      c.parameters = ⟨((t.trimmed name).wording stem column 0).parameters⟩ := by
  obtain ⟨stem, hwording⟩ := Keyword.exists_wording hcolumn options (t.trimmed name)
  have hcontribution := contribution_of_keyword hfield hname hvalue options 0
  obtain ⟨c, hcompile, hpredicate, hparameters⟩ := compile_tag (hcontribution.trans hwording)
  exact ⟨c, stem, hcompile, hpredicate, hparameters⟩

/-- A label tag with entries is true of the items with a label that one of the entries asks for, and
false of all other items. The substring test of a text tag is true of an item with a text in the
column if the text has the operand in it, in any letter case and character by character, and false
if it does not. -/
theorem labels_and_parts (options : CompileOptions) (hfield : t.field = .named name quoted) :
    (Text.lower name = Keyword.label.name → (t.trimmed name).pieces ≠ [] →
      ∃ c p, (Query.tag t).compile options = .ok c ∧ c.predicate = some p ∧
        ∀ (clock : Time.Instant) (i : Item), ∃ b, p.truth c.parameters clock i = .ok (some b) ∧
          (b = true ↔ ∃ entry ∈ (t.trimmed name).pieces, i.HasLabel entry)) ∧
    ∀ (k : Keyword) (column : Column), k.textColumn? = some column → Text.lower name = k.name →
      (t.trimmed name).value ≠ "" →
      ∃ c query pattern, (Query.tag t).compile options = .ok c ∧
        c.predicate = some (wordingPredicate column query pattern) ∧
        ∀ (clock : Time.Instant) (i : Item) (text : String), (i.value column).text? = some text →
          ∃ b, (Predicate.test (.iLike column pattern)).truth c.parameters clock i =
              .ok (some b) ∧
            (b = true ↔
              (Text.lower (t.trimmed name).value).toList <:+: (Text.lower text).toList) := by
  refine ⟨fun hname hpieces => exists_compile_label hfield hname hpieces options,
    fun k column hcolumn hname hvalue => ?_⟩
  obtain ⟨c, stem, hcompile, hpredicate, hparameters⟩ :=
    exists_compile_wording hcolumn hfield hname hvalue options
  refine ⟨c, numbered stem 0, numbered stem 1, hcompile, hpredicate, fun clock i text htext => ?_⟩
  rw [hparameters]
  exact (t.trimmed name).exists_part_truth stem htext clock

/-- `Label:" x,, a%* \"` and `title:"5%_"`, and an item with what they ask for. -/
theorem labels_and_parts_escaped :
    let options : CompileOptions := { now := ⟨.epoch, 0⟩ }
    let label : Query.Tag := ⟨.named "Label" false, .literal (.string " x,, a%* \\") true⟩
    let title : Query.Tag := ⟨.named "title" false, .literal (.string "5%_") true⟩
    let i := { Item.saved "a" "u1" "Up 5%_" .epoch with highlightLabels := ["A%bc \\"] }
    (∃ c p, (Query.tag label).compile options = .ok c ∧ c.predicate = some p ∧
      ∀ clock : Time.Instant, p.truth c.parameters clock i = .ok (some true)) ∧
    ∃ c query pattern, (Query.tag title).compile options = .ok c ∧
      c.predicate = some (wordingPredicate .title query pattern) ∧
      ∀ clock : Time.Instant,
        (Predicate.test (.iLike .title pattern)).truth c.parameters clock i = .ok (some true) := by
  intro options label title i
  have hpieces : (label.trimmed "Label").pieces = ["x", "a%* \\"] := by decide +kernel
  have hmatches : LabelMatches "a%* \\" "A%bc \\" := by
    have hlower : (Text.lower "A%bc \\").toList =
        [['a'], ['%'], ['b', 'c'], [' '], ['\\']].flatten := by decide +kernel
    have hglob : FullText.globTokens (Text.lower "a%* \\").toList =
        [.char 'a', .char '%', .run, .char ' ', .char '\\'] := by decide +kernel
    rw [LabelMatches, if_pos (by decide +kernel), hglob, hlower]
    exact ⟨_, rfl, .cons rfl (.cons rfl (.cons trivial (.cons rfl (.cons rfl .nil))))⟩
  have hpart : (Text.lower (title.trimmed "title").value).toList <:+:
      (Text.lower "Up 5%_").toList := ⟨"up ".toList, [], by decide +kernel⟩
  obtain ⟨c, p, hc, hp, hlabel⟩ := (labels_and_parts options (t := label) rfl).1
    (by decide +kernel) (by rw [hpieces]; exact List.cons_ne_nil _ _)
  obtain ⟨d, query, pattern, hd, hq, htitle⟩ := (labels_and_parts options (t := title) rfl).2
    .title .title rfl (by decide +kernel) (by decide +kernel)
  refine ⟨⟨c, p, hc, hp, fun clock => ?_⟩, d, query, pattern, hd, hq, fun clock => ?_⟩
  · obtain ⟨b, hb, hiff⟩ := hlabel clock i
    have hasked : ∃ entry ∈ (label.trimmed "Label").pieces, i.HasLabel entry := by
      rw [hpieces]
      exact ⟨_, List.mem_cons_of_mem _ List.mem_cons_self, _, List.mem_cons_self, hmatches⟩
    rwa [hiff.mpr hasked] at hb
  · obtain ⟨b, hb, hiff⟩ := htitle clock i "Up 5%_" rfl
    rwa [hiff.mpr hpart] at hb

end Query.Tag

end ReadLater
