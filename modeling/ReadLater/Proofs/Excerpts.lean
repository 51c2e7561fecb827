import ReadLater.Proofs.Requests
import ReadLater.Proofs.TextTags

/-!
# Parts of a text

A text is put in lower case as a whole, and an operand that was taken from it on its own. The two
differ in capital sigmas only: what stands before and after one tells whether it is a final sigma. A
part whose sigmas keep their forms is found in the text that it was taken from, and a part whose
sigmas do not is lost.
-/

namespace ReadLater

namespace Text

/-- A capital sigma is final between these characters, those before it given last one first. -/
def isFinal (before after : List Char) : Bool :=
  casedNext before && !casedNext after

/-- Lower case of a part of a text that has the characters `before`, last one first, in front of the
part and those of `after` behind it. -/
def lowerWithin (before after : List Char) : List Char → List Char
  | [] => []
  | c :: rest =>
    (if c = 'Σ' then [if isFinal before (rest ++ after) then 'ς' else 'σ'] else lowerChar c) ++
      lowerWithin (c :: before) after rest

lemma lowerAfter_append (before cs ds : List Char) :
    lowerAfter before (cs ++ ds) =
      lowerWithin before ds cs ++ lowerAfter (cs.reverse ++ before) ds := by
  induction cs generalizing before with
  | nil => rfl
  | cons c cs ih =>
    rw [List.cons_append, lowerAfter, lowerWithin, ih, List.reverse_cons, List.append_assoc,
      List.append_assoc]
    rfl

lemma lowerWithin_nil (before cs : List Char) :
    lowerWithin before [] cs = lowerAfter before cs := by
  have happend := lowerAfter_append before cs []
  rw [List.append_nil, lowerAfter, List.append_nil] at happend
  exact happend.symm

/-- Each capital sigma of the part is final in the text just if it is final in the part alone. -/
def KeepsSigmas (before part after : List Char) : Prop :=
  ∀ left right, part = left ++ 'Σ' :: right →
    isFinal (left.reverse ++ before.reverse) (right ++ after) = isFinal left.reverse right

lemma forall_cut_cons {P : List Char → List Char → Prop} {c d : Char} {cs : List Char} :
    (∀ left right, c :: cs = left ++ d :: right → P left right) ↔
      (c = d → P [] cs) ∧ ∀ left right, cs = left ++ d :: right → P (c :: left) right := by
  constructor
  · intro h
    refine ⟨fun hc => h [] cs (by rw [hc, List.nil_append]), fun left right hcs => ?_⟩
    exact h (c :: left) right (by rw [hcs, List.cons_append])
  · rintro ⟨hhere, hrest⟩ left right hcut
    cases left with
    | nil =>
      obtain ⟨hc, rfl⟩ := List.cons.inj hcut
      exact hhere hc
    | cons e left =>
      obtain ⟨rfl, hcs⟩ := List.cons.inj hcut
      exact hrest left right hcs

/-- Behind the characters `done` of the part, last one first, both ways go on alike just if the
remaining sigmas keep their forms. -/
lemma lowerWithin_eq_iff (done before after cs : List Char) :
    lowerWithin (done ++ before) after cs = lowerAfter done cs ↔
      ∀ left right, cs = left ++ 'Σ' :: right →
        isFinal (left.reverse ++ (done ++ before)) (right ++ after) =
          isFinal (left.reverse ++ done) right := by
  induction cs generalizing done with
  | nil => simp [lowerWithin, lowerAfter]
  | cons c cs ih =>
    have hnext := ih (c :: done)
    rw [forall_cut_cons, lowerWithin, lowerAfter]
    simp only [List.reverse_cons, List.append_assoc, List.reverse_nil, List.nil_append,
      List.cons_append] at hnext ⊢
    by_cases hc : c = 'Σ'
    · have hforms : (if isFinal (done ++ before) (cs ++ after) then 'ς' else 'σ') =
          (if casedNext done && !casedNext cs then 'ς' else 'σ') ↔
          isFinal (done ++ before) (cs ++ after) = isFinal done cs := by
        change _ = (if isFinal done cs then 'ς' else 'σ') ↔ _
        cases isFinal (done ++ before) (cs ++ after) <;> cases isFinal done cs <;> decide
      rw [if_pos hc, if_pos hc, List.singleton_append, List.singleton_append, List.cons.injEq,
        hforms, hnext]
      simp only [hc, true_imp_iff]
    · rw [if_neg hc, if_neg hc, List.append_cancel_left_eq, hnext]
      simp only [hc, false_imp_iff, true_and]

theorem lowerWithin_eq_lowerChars_iff {before part after : List Char} :
    lowerWithin before.reverse after part = lowerChars part ↔ KeepsSigmas before part after := by
  have halone := lowerWithin_eq_iff [] before.reverse after part
  simp only [List.nil_append, List.append_nil] at halone
  exact halone

instance (before part after : List Char) : Decidable (KeepsSigmas before part after) :=
  decidable_of_iff _ lowerWithin_eq_lowerChars_iff

/-- No sigma looks past the character for a cased letter. -/
def EndsCasing (c : Char) : Prop :=
  isCaseIgnorable c = false ∧ isCased c = false

instance (c : Char) : Decidable (EndsCasing c) :=
  inferInstanceAs (Decidable (_ ∧ _))

lemma casedNext_append (cs : List Char) {ds : List Char} (h : ∀ d ∈ ds.head?, EndsCasing d) :
    casedNext (cs ++ ds) = casedNext cs := by
  induction cs with
  | nil =>
    cases ds with
    | nil => rfl
    | cons d ds =>
      obtain ⟨hignorable, hcased⟩ := h d rfl
      simp [casedNext, List.dropWhile, hignorable, hcased]
  | cons c cs ih =>
    unfold casedNext at ih ⊢
    by_cases hc : isCaseIgnorable c = true
    · rw [List.cons_append, List.dropWhile_cons_of_pos hc, List.dropWhile_cons_of_pos hc, ih]
    · rw [List.cons_append, List.dropWhile_cons_of_neg hc, List.dropWhile_cons_of_neg hc]

/-- A part between such characters, or at the ends of the text, keeps its sigmas. -/
lemma keepsSigmas_of_endsCasing {before after : List Char}
    (hbefore : ∀ c ∈ before.getLast?, EndsCasing c) (hafter : ∀ c ∈ after.head?, EndsCasing c)
    (part : List Char) : KeepsSigmas before part after := by
  intro left right _
  rw [← List.head?_reverse] at hbefore
  rw [isFinal, casedNext_append left.reverse hbefore, casedNext_append right hafter]
  rfl

lemma endsCasing_star : EndsCasing '*' := by decide +kernel

/-! ## Parts and starts of texts -/

lemma length_lowerWithin (before before' after after' cs : List Char) :
    (lowerWithin before after cs).length = (lowerWithin before' after' cs).length := by
  induction cs generalizing before before' with
  | nil => rfl
  | cons c cs ih =>
    rw [lowerWithin, lowerWithin, List.length_append, List.length_append, ih (c :: before)]
    by_cases hc : c = 'Σ'
    · rw [if_pos hc, if_pos hc]
      rfl
    · rw [if_neg hc, if_neg hc]

lemma lower_infix {text part : String} {before after : List Char}
    (htext : text.toList = before ++ part.toList ++ after)
    (h : KeepsSigmas before part.toList after) :
    (lower part).toList <:+: (lower text).toList := by
  refine ⟨lowerWithin [] (part.toList ++ after) before,
    lowerAfter (part.toList.reverse ++ before.reverse) after, ?_⟩
  rw [toList_lower, toList_lower, htext, ← lowerWithin_eq_lowerChars_iff.mpr h, lowerChars,
    List.append_assoc, List.append_assoc, lowerAfter_append, lowerAfter_append, List.append_nil]

lemma lower_prefix_iff {text start : String} {after : List Char}
    (htext : text.toList = start.toList ++ after) :
    (lower start).toList <+: (lower text).toList ↔ KeepsSigmas [] start.toList after := by
  have hwhole : (lower text).toList =
      lowerWithin [] after start.toList ++ lowerAfter (start.toList.reverse ++ []) after := by
    rw [toList_lower, htext, lowerChars, lowerAfter_append]
  have hlength : (lowerWithin [] after start.toList).length = (lowerChars start.toList).length := by
    rw [lowerChars, ← lowerWithin_nil, length_lowerWithin]
  have hpart : lowerWithin [] after start.toList <+: (lower text).toList := by
    rw [hwhole]
    exact List.prefix_append _ _
  rw [← lowerWithin_eq_lowerChars_iff, List.reverse_nil, toList_lower start]
  constructor
  · intro hstart
    have hsame := List.prefix_of_prefix_length_le hpart hstart (Nat.le_of_eq hlength)
    exact hsame.eq_of_length hlength
  · intro hsame
    rwa [← hsame]

lemma length_trimEnd_le (cs : List Char) : (trimEnd cs).length ≤ cs.length := by
  have hdrop := (List.dropWhile_sublist (l := cs.reverse) isBlank).length_le
  rw [List.length_reverse] at hdrop
  rwa [trimEnd, List.length_reverse]

lemma trimStart_of_trim {s : String} (h : trim s = s) : trimStart s.toList = s.toList := by
  have hchars : trimEnd (trimStart s.toList) = s.toList := by
    rw [trim] at h
    exact String.ofList_injective (h.trans String.ofList_toList.symm)
  have hlong := length_trimEnd_le (trimStart s.toList)
  rw [hchars] at hlong
  exact (List.dropWhile_suffix isBlank).eq_of_length_le hlong

lemma trim_star {s : String} (h : trim s = s) : trim (s ++ "*") = s ++ "*" := by
  have hstar : isBlank '*' = false := by decide
  have hstart : trimStart (s.toList ++ ['*']) = s.toList ++ ['*'] := by
    have hs := trimStart_of_trim h
    rw [trimStart] at hs ⊢
    rw [List.dropWhile_append, hs]
    cases s.toList with
    | nil => rfl
    | cons c cs => rfl
  have hend : trimEnd (s.toList ++ ['*']) = s.toList ++ ['*'] := by
    rw [trimEnd, trimStart, List.reverse_append, List.reverse_singleton, List.singleton_append,
      List.dropWhile_cons_of_neg (by simp [hstar]), List.reverse_cons, List.reverse_reverse]
  have hchars : (s ++ "*").toList = s.toList ++ ['*'] := by simp
  apply String.toList_inj.mp
  rw [trim, String.toList_ofList, hchars, hstart, hend]

lemma toList_lower_star (s : String) : (lower (s ++ "*")).toList = (lower s).toList ++ ['*'] := by
  have hkeeps : KeepsSigmas [] s.toList ['*'] :=
    keepsSigmas_of_endsCasing (by simp) (by simpa using endsCasing_star) s.toList
  have hs : lowerWithin [] ['*'] s.toList = lowerChars s.toList :=
    lowerWithin_eq_lowerChars_iff.mpr hkeeps
  have hchars : (s ++ "*").toList = s.toList ++ ['*'] := by simp
  rw [toList_lower, toList_lower, hchars, lowerChars, lowerAfter_append, hs]
  rfl

end Text

lemma FullText.globTokens_star {cs : List Char} (h : '*' ∉ cs) :
    globTokens (cs ++ ['*']) = cs.map .char ++ [.run] := by
  have hplain : ∀ c ∈ cs, (if c = '*' then PatternToken.run else .char c) = .char c :=
    fun c hc => if_neg fun (heq : c = '*') => h (heq ▸ hc)
  rw [globTokens, List.map_append, List.map_congr_left hplain]
  rfl

lemma FullText.fits_start {cs value : List Char} :
    Fits (cs.map .char ++ [.run]) value ↔ cs <+: value := by
  rw [fits_append]
  constructor
  · rintro ⟨left, right, rfl, hleft, -⟩
    rw [fits_chars.mp hleft]
    exact List.prefix_append cs right
  · rintro ⟨right, rfl⟩
    exact ⟨cs, right, rfl, fits_chars.mpr rfl, fits_run.mpr ⟨[], List.nil_suffix, fits_nil.mpr rfl⟩⟩

lemma labelMatches_star {start : String} (h : '*' ∉ start.toList) (label : String) :
    LabelMatches (start ++ "*") label ↔
      (Text.lower start).toList <+: (Text.lower label).toList := by
  have hlower : '*' ∉ (Text.lower start).toList := fun hstar => h (Text.star_mem_lower.mp hstar)
  rw [LabelMatches, if_pos (by simp), Text.toList_lower_star, FullText.globTokens_star hlower,
    FullText.fits_start]

/-- The text has the words of a text tag with this operand, or the operand in it. -/
def HasWording (operand text : String) : Prop :=
  (FullText.Query.parse (Text.lower operand)).holds text = true ∨
    (Text.lower operand).toList <:+: (Text.lower text).toList

lemma TagOperand.exists_wording_truth (t : TagOperand) (stem : String) {column : Column} {i : Item}
    {text : String} (htext : (i.value column).text? = some text) (clock : Time.Instant) :
    ∃ b, (wordingPredicate column (numbered stem 0) (numbered stem 1)).truth
        ⟨(t.wording stem column 0).parameters⟩ clock i = .ok (some b) ∧
      (b = true ↔ HasWording t.value text) := by
  obtain ⟨hquery, -⟩ := t.wording_values stem column
  have hwords : (Predicate.test (.textMatch (.column column) (numbered stem 0))).truth
      ⟨(t.wording stem column 0).parameters⟩ clock i =
      .ok (some ((FullText.Query.parse (Text.lower t.value)).holds text)) := by
    simp only [Predicate.truth, Condition.truth, hquery, Item.document?, htext, bind, Except.bind,
      pure, Except.pure, Option.map_some]
    rfl
  obtain ⟨part, hpart, hiff⟩ := t.exists_part_truth stem htext clock
  refine ⟨(FullText.Query.parse (Text.lower t.value)).holds text || part, ?_, ?_⟩
  · rw [wordingPredicate, Predicate.truth, Predicate.truth, hwords, hpart]
    cases (FullText.Query.parse (Text.lower t.value)).holds text <;> cases part <;> rfl
  · rw [Bool.or_eq_true, hiff, HasWording]

namespace Query.Tag

variable {t : Query.Tag} {name : String} {quoted : Bool}

lemma exists_accepts_wording {k : Keyword} {column : Column} (hcolumn : k.textColumn? = some column)
    (hfield : t.field = .named name quoted) (hname : Text.lower name = k.name)
    (hvalue : t.operand.text ≠ "") (htrimmed : Text.trim t.operand.text = t.operand.text)
    (options : CompileOptions) :
    ∃ c, (Query.tag t).compile options = .ok c ∧
      ∀ (clock : Time.Instant) (i : Item) (text : String), (i.value column).text? = some text →
        ∃ b, c.filter.accepts clock i = .ok b ∧ (b = true ↔ HasWording t.operand.text text) := by
  have hnonblank : Text.trim t.operand.text ≠ "" := by rwa [htrimmed]
  obtain ⟨c, stem, hcompile, hpredicate, hparameters⟩ :=
    exists_compile_wording hcolumn hfield hname hnonblank options
  refine ⟨c, hcompile, fun clock i text htext => ?_⟩
  obtain ⟨b, hb, hiff⟩ := (t.trimmed name).exists_wording_truth stem htext clock
  rw [← hparameters] at hb
  rw [trimmed, htrimmed] at hiff
  refine ⟨some b == some true, Filter.accepts_of_truth hpredicate hb, ?_⟩
  simpa using hiff

end Query.Tag

lemma Query.exists_accepts_start {start : String} (htrimmed : Text.trim start = start)
    (hplain : ∀ c ∈ [',', '*', '"'], c ∉ start.toList) (options : CompileOptions) :
    ∃ c, compileText options ("label:\"" ++ start ++ "*\"") = .ok c ∧
      ∀ (clock : Time.Instant) (i : Item), ∃ b, c.filter.accepts clock i = .ok b ∧
        (b = true ↔ ∃ label ∈ i.labelNames ++ i.highlightLabels,
          (Text.lower start).toList <+: (Text.lower label).toList) := by
  have hchars : (start ++ "*").toList = start.toList ++ ['*'] := by simp
  have hentry : start ++ "*" ≠ "" := by
    intro hempty
    rw [hempty] at hchars
    exact List.cons_ne_nil _ _ (List.append_eq_nil_iff.mp hchars.symm).2
  have hentryPlain : ∀ c ∈ [',', '"'], c ∉ (start ++ "*").toList := by
    have hsubset : [',', '"'] ⊆ [',', '*', '"'] := by simp
    have hstar : ∀ c ∈ [',', '"'], c ∉ ['*'] := by simp
    intro c hc
    rw [hchars, List.mem_append, not_or]
    exact ⟨hplain c (hsubset hc), hstar c hc⟩
  have hfound := Query.Tag.exists_compileText_label hentry (Text.trim_star htrimmed) hentryPlain
    options
  have htext : "label:\"" ++ (start ++ "*") ++ "\"" = "label:\"" ++ start ++ "*\"" := by
    apply String.toList_inj.mp
    simp
  simp only [Item.HasLabel, labelMatches_star (hplain '*' (by simp)), htext] at hfound
  exact hfound

/-- A text tag finds an item if the text in its column has the wording of the operand. This is so
wherever the operand was taken from the text as it stands and its capital sigmas keep their forms.
A label tag with a start and a star finds an item if some label has the start in its lower case, and
a label that the start was taken from has it just if the sigmas of the start keep their forms. -/
theorem excerpts_found (options : CompileOptions) :
    (∀ (t : Query.Tag) (name : String) (quoted : Bool) (k : Keyword) (column : Column),
      t.field = .named name quoted → Text.lower name = k.name → k.textColumn? = some column →
      t.operand.text ≠ "" → Text.trim t.operand.text = t.operand.text →
      ∃ c, (Query.tag t).compile options = .ok c ∧
        ∀ (clock : Time.Instant) (i : Item) (text : String), (i.value column).text? = some text →
          ∃ b, c.filter.accepts clock i = .ok b ∧ (b = true ↔ HasWording t.operand.text text) ∧
            ∀ before after, text.toList = before ++ t.operand.text.toList ++ after →
              Text.KeepsSigmas before t.operand.text.toList after → b = true) ∧
    ∀ start : String, Text.trim start = start →
      (∀ c ∈ [',', '*', '"'], c ∉ start.toList) →
      ∃ c, Query.compileText options ("label:\"" ++ start ++ "*\"") = .ok c ∧
        ∀ (clock : Time.Instant) (i : Item), ∃ b, c.filter.accepts clock i = .ok b ∧
          (b = true ↔ ∃ label ∈ i.labelNames ++ i.highlightLabels,
            (Text.lower start).toList <+: (Text.lower label).toList) ∧
          ∀ label ∈ i.labelNames ++ i.highlightLabels, ∀ after,
            label.toList = start.toList ++ after →
            ((Text.lower start).toList <+: (Text.lower label).toList ↔
              Text.KeepsSigmas [] start.toList after) ∧
            (Text.KeepsSigmas [] start.toList after → b = true) := by
  constructor
  · intro t name quoted k column hfield hname hcolumn hvalue htrimmed
    obtain ⟨c, hcompile, hfinds⟩ :=
      Query.Tag.exists_accepts_wording hcolumn hfield hname hvalue htrimmed options
    refine ⟨c, hcompile, fun clock i text htext => ?_⟩
    obtain ⟨b, hb, hiff⟩ := hfinds clock i text htext
    refine ⟨b, hb, hiff, fun before after hcut hkeeps => ?_⟩
    exact hiff.mpr (.inr (Text.lower_infix hcut hkeeps))
  · intro start htrimmed hplain
    obtain ⟨c, hcompile, hfinds⟩ := Query.exists_accepts_start htrimmed hplain options
    refine ⟨c, hcompile, fun clock i => ?_⟩
    obtain ⟨b, hb, hiff⟩ := hfinds clock i
    refine ⟨b, hb, hiff, fun label hlabel after hcut => ?_⟩
    have hkept := Text.lower_prefix_iff hcut
    exact ⟨hkept, fun hkeeps => hiff.mpr ⟨label, hlabel, hkept.mpr hkeeps⟩⟩

/-- `Title:ΣΗΜ` for a title with this in the middle of a word, and `label:"ΦΩΣ*"` for a label where
a blank follows. -/
theorem excerpts_found_between_letters :
    let options : CompileOptions := { now := ⟨.epoch, 0⟩ }
    let t : Query.Tag := ⟨.named "Title" false, .literal (.string "ΣΗΜ") false⟩
    let i := { Item.saved "a" "u1" "ΟΔΟΣΗΜΑΝΣΗ" .epoch with highlightLabels := ["ΦΩΣ 1"] }
    (∃ c, (Query.tag t).compile options = .ok c ∧
      ∀ clock : Time.Instant, c.filter.accepts clock i = .ok true) ∧
    ∃ c, Query.compileText options "label:\"ΦΩΣ*\"" = .ok c ∧
      ∀ clock : Time.Instant, c.filter.accepts clock i = .ok true := by
  intro options t i
  obtain ⟨htexts, hlabels⟩ := excerpts_found options
  obtain ⟨c, hc, htitle⟩ := htexts t "Title" false .title .title rfl (by decide +kernel) rfl
    (by decide) (by decide +kernel)
  obtain ⟨d, hd, hlabel⟩ := hlabels "ΦΩΣ" (by decide +kernel) (by simp)
  refine ⟨⟨c, hc, fun clock => ?_⟩, d, hd, fun clock => ?_⟩
  · obtain ⟨b, hb, -, hfound⟩ := htitle clock i "ΟΔΟΣΗΜΑΝΣΗ" rfl
    have hcut : "ΟΔΟΣΗΜΑΝΣΗ".toList = "ΟΔΟ".toList ++ "ΣΗΜ".toList ++ "ΑΝΣΗ".toList := by decide
    rwa [hfound _ _ hcut (by decide +kernel)] at hb
  · obtain ⟨b, hb, -, hfound⟩ := hlabel clock i
    have hcut : "ΦΩΣ 1".toList = "ΦΩΣ".toList ++ " 1".toList := by decide
    have hmem : "ΦΩΣ 1" ∈ i.labelNames ++ i.highlightLabels := List.mem_cons_self
    rwa [(hfound _ hmem _ hcut).2 (by decide +kernel)] at hb

/-- The last sigma of `ΟΔΟΣ` is final, and in a longer word it is not: neither the tag for the title
nor the one for the label finds what starts with the operand. -/
theorem excerpt_lost_to_final_sigma :
    let options : CompileOptions := { now := ⟨.epoch, 0⟩ }
    let t : Query.Tag := ⟨.named "title" false, .literal (.string "ΟΔΟΣ") false⟩
    let i := { Item.saved "a" "u1" "ΟΔΟΣΗΜΑΝΣΗ" .epoch with labelNames := ["ΟΔΟΣΗΜΑΝΣΗ"] }
    "ΟΔΟΣΗΜΑΝΣΗ".toList = "ΟΔΟΣ".toList ++ "ΗΜΑΝΣΗ".toList ∧
    (∃ c, (Query.tag t).compile options = .ok c ∧ c.filter.accepts .epoch i = .ok false) ∧
    ∃ c, Query.compileText options "label:\"ΟΔΟΣ*\"" = .ok c ∧
      c.filter.accepts .epoch i = .ok false := by
  intro options t i
  have htitle : ((Query.tag t).compile options).toOption.map
      (fun c => c.filter.accepts .epoch i) = some (.ok false) := by decide +kernel
  have hlabel : (Query.compileText options "label:\"ΟΔΟΣ*\"").toOption.map
      (fun c => c.filter.accepts .epoch i) = some (.ok false) := by decide +kernel
  exact ⟨by decide, Except.exists_of_toOption htitle, Except.exists_of_toOption hlabel⟩

end ReadLater
